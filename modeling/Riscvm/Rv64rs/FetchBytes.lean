import Riscvm.Rv64rs.ByteAccess
import Riscvm.Rv64rs.Interrupts

/-!
# The instruction at pc

`Cpu::fetch` reads four bytes behind the physical address of pc, whatever the length of
the instruction and wherever its page or its memory ends. `InstructionAt` follows each
byte of the instruction on its own.
-/

namespace Riscvm.Rv64rs

open Bytes Exec Machine Mmu

/-- RAM or the stack is the one window that has the address `q`, and holds `b` there. -/
def Bus.Backed (bus : Bus) (q : U64) (b : U8) : Prop :=
  ∃ w, (w = .ram ∨ w = .stack) ∧ (∀ v, (bus.range v).Contains q 1 ↔ v = w) ∧
    bus.contents (w, (bus.offset w q).toNat) = some b

/-- Four bytes if the low two bits of the first one are set, else two. -/
def instructionLength (first : U8) : Nat := if first &&& 3 = 3 then 4 else 2

/-- The instruction that the bytes form. -/
def decodeBytes (bytes : List U8) : DecodedInstruction :=
  if bytes.length = 4 then .full (.new (BitVec.ofNat 32 (leNat bytes)))
  else .compressed (.new (BitVec.ofNat 16 (leNat bytes)))

theorem instructionLength_eq (first : U8) :
    instructionLength first = 2 ∨ instructionLength first = 4 := by
  unfold instructionLength
  split
  · exact .inr rfl
  · exact .inl rfl

/-- An instruction has one encoding. -/
theorem decodeBytes_injective {bytes bytes' : List U8}
    (h : bytes.length = 2 ∨ bytes.length = 4) (h' : bytes'.length = 2 ∨ bytes'.length = 4)
    (heq : decodeBytes bytes = decodeBytes bytes') : bytes = bytes' := by
  have hlt := leNat_lt bytes
  have hlt' := leNat_lt bytes'
  unfold decodeBytes at heq
  obtain h | h := h <;> obtain h' | h' := h' <;> rw [h] at hlt heq <;> rw [h'] at hlt' heq
  · injection heq with hinstr
    have hvalue := congrArg (fun c => c.value.toNat) hinstr
    simp only [CInstruction.new, BitVec.toNat_ofNat] at hvalue
    exact leNat_injective (h.trans h'.symm) (by omega)
  · cases heq
  · cases heq
  · injection heq with hinstr
    have hvalue := congrArg (fun c => c.value.toNat) hinstr
    simp only [Instruction.new, BitVec.toNat_ofNat] at hvalue
    exact leNat_injective (h.trans h'.symm) (by omega)

/-- `fetch` tells the two lengths apart by the word, the bytes by the first of them. -/
theorem decode_word {b₀ b₁ b₂ b₃ : U8} {word : U32}
    (h : word = BitVec.ofNat 32 (leNat [b₀, b₁, b₂, b₃])) :
    (if word &&& 0b11 = 0b11 then DecodedInstruction.full (.new word)
      else .compressed (.new (word.setWidth 16))) =
      decodeBytes ([b₀, b₁, b₂, b₃].take (instructionLength b₀)) := by
  have hword : (word &&& 0b11 = 0b11) ↔ b₀ &&& 3 = 3 := by
    rw [← BitVec.toNat_inj, ← BitVec.toNat_inj, BitVec.toNat_and, BitVec.toNat_and, h]
    change _ &&& 3 = 3 ↔ _ &&& 3 = 3
    rw [Nat.and_two_pow_sub_one_eq_mod _ 2, Nat.and_two_pow_sub_one_eq_mod _ 2, BitVec.toNat_ofNat,
      leNat_cons]
    omega
  by_cases hfull : b₀ &&& 3 = 3
  · rw [if_pos (hword.mpr hfull), instructionLength, if_pos hfull, h]
    rfl
  · rw [if_neg (fun hw => hfull (hword.mp hw)), instructionLength, if_neg hfull, h]
    have hlow : (BitVec.ofNat 32 (leNat [b₀, b₁, b₂, b₃])).setWidth 16 =
        BitVec.ofNat 16 (leNat [b₀, b₁]) := by
      apply BitVec.eq_of_toNat_eq
      rw [BitVec.toNat_setWidth, BitVec.toNat_ofNat, BitVec.toNat_ofNat]
      simp only [leNat_cons, leNat_nil]
      omega
    rw [hlow]
    rfl

namespace Machine

variable [Host]

/-- What `fetch` does before it looks for the instruction. -/
def beforeFetch : Call Machine Bool := do
  tickClint
  pollUart
  Trap.checkInterrupt

/-- The bytes of the instruction at `pc`, each where its own address leads. -/
structure InstructionAt (m : Machine) (pc : U64) (bytes : List U8) : Prop where
  length : bytes.length = instructionLength (bytes.headD 0)
  backed : ∀ i b, bytes[i]? = some b → ∃ q,
    Reaches m (pc + BitVec.ofNat 64 i) .X q ∧ m.bus.Backed q b

/-- RAM or the stack has four bytes behind the physical address of `pc`, and of the bytes of
the instruction those in the next page are found there too. -/
def FetchAligned (m : Machine) (pc : U64) (bytes : List U8) : Prop :=
  ∀ pa, Reaches m pc .X pa → ∃ w, (w = .ram ∨ w = .stack) ∧ (m.bus.range w).Contains pa 4 ∧
    ∀ i b, bytes[i]? = some b → 4096 ≤ pc.toNat % 4096 + i →
      m.bus.contents (w, (m.bus.offset w pa).toNat + i) = some b

theorem fetch_of_quiet {m m₁ : Machine} (quiet : beforeFetch m = .ok false m₁) :
    fetch m = fetchWord m₁ := by
  rw [beforeFetch, bind_ok (tickClint_apply m), bind_ok (pollUart_apply _)] at quiet
  rw [fetch, bind_ok (tickClint_apply m), bind_ok (pollUart_apply _), bind_ok quiet]

omit [Host] in
theorem polled_pc (m : Machine) : (polled m).cpu.pc = m.cpu.pc := by
  unfold polled
  split
  · split <;> rfl
  · rfl

theorem checkInterrupt_pc {m t : Machine} (h : Trap.checkInterrupt m = .ok false t) :
    t.cpu.pc = m.cpu.pc := by
  obtain ⟨mip, s, hs, -⟩ := bind_eq_ok.mp h
  obtain rfl := Trap.readOnly_sampleMip.state_eq hs
  rw [Trap.checkInterrupt_apply hs] at h
  split at h
  · cases h
  · cases h
    rfl

/-- Without an interrupt the pc stays. -/
theorem beforeFetch_pc {m m₁ : Machine} (quiet : beforeFetch m = .ok false m₁) :
    m₁.cpu.pc = m.cpu.pc := by
  rw [beforeFetch, bind_ok (tickClint_apply m), bind_ok (pollUart_apply _)] at quiet
  rw [checkInterrupt_pc quiet, polled_pc, ticked_cpu]

section Read

variable {m t : Machine} {pa : U64} {w : Window} {ram : Ram}

omit [Host] in
/-- A window that is alone at the first address serves the access if it contains it. -/
theorem locate_of_alone {bus : Bus} {address n : U64} (pos : n ≠ 0)
    (alone : ∀ v, (bus.range v).Contains address 1 ↔ v = w) :
    bus.locate address n = if (bus.range w).Contains address n then some w else none := by
  have hfirst {v : Window} (h : (bus.range v).Contains address n) : v = w := by
    apply (alone v).mp
    have := BitVec.toNat_pos_of_ne_zero pos
    have := h.2
    refine ⟨h.1, ?_⟩
    change address.toNat + 1 ≤ _
    omega
  by_cases hw : (bus.range w).Contains address n
  · rw [if_pos hw]
    cases hl : bus.locate address n with
    | none =>
        rw [Bus.locate, List.find?_eq_none] at hl
        exact absurd (decide_eq_true hw) (hl w (by cases w <;> decide))
    | some v => rw [hfirst (Bus.contains_of_locate hl)]
  · rw [if_neg hw]
    cases hl : bus.locate address n with
    | none => rfl
    | some v =>
        have hv := Bus.contains_of_locate hl
        rw [hfirst hv] at hv
        exact absurd hv hw

/-- Where memory has four bytes behind the physical address, they decide. -/
theorem fetchWord_memory (wf : m.bus.Wf) (hpa : translate m.cpu.pc .X m = .ok pa t)
    (hw : m.bus.locate pa 4 = some w) (hm : m.bus.memory w = some ram) :
    ∃ ext : List U8, ext.length = 4 ∧
      (∀ i < 4, ext[i]? = m.bus.contents (w, (m.bus.offset w pa).toNat + i)) ∧
      fetchWord m = .ok (decodeBytes (ext.take (instructionLength (ext.headD 0)))) t := by
  have hread : Bus.read pa 4 t.bus =
      .ok (BitVec.ofNat 64 (leNat (extract ram.data (m.bus.offset w pa).toNat 4))) t.bus := by
    rw [translate_bus hpa]
    exact Bus.readAt_memory wf (.inr (.inr (.inl rfl))) hw hm false
  have hlength : (extract ram.data (m.bus.offset w pa).toNat 4).length = 4 := by
    have hle : (m.bus.offset w pa).toNat + (4 : U8).toNat ≤ ram.data.length :=
      wf.offset_add_le hw hm
    exact length_extract hle
  refine ⟨_, hlength, fun i hi => ?_, ?_⟩
  · rw [getElem?_extract hi, Bus.contents_of_memory hm]
  rw [fetchWord, get_bind_apply, bind_ok hpa, bind_ok (onBus_ok hread)]
  generalize extract ram.data (m.bus.offset w pa).toNat 4 = bytes at hlength
  match bytes, hlength with
  | [b₀, b₁, b₂, b₃], _ =>
      have hword := BitVec.setWidth_ofNat_of_le (by decide : 32 ≤ 64) (leNat [b₀, b₁, b₂, b₃])
      rw [List.headD_cons, ← decode_word hword, run_ite]
      split <;> rfl

theorem fetchWord_nowhere (wf : m.bus.Wf) (hpa : translate m.cpu.pc .X m = .ok pa t)
    (hw : m.bus.locate pa 4 = none) : fetchWord m = .error (.err .noDevice) t := by
  have hread : Bus.read pa 4 t.bus = .error (.err .noDevice) t.bus := by
    have hsize : (4 : U8).setWidth 64 = (4 : U64) := rfl
    rw [translate_bus hpa, Bus.read, Bus.readAt_eq wf.bounded, hsize, hw]
  rw [fetchWord, get_bind_apply, bind_ok hpa, bind_error (onBus_error hread)]

omit [Host] in
/-- A window that has the four bytes from `pa` on has each of them. -/
theorem contains_one {range : Range} {pa : U64} {i : Nat} (bounded : range.start.toNat +
    range.size.toNat < 2 ^ 64) (h : range.Contains pa 4) (hi : i < 4) :
    range.Contains (pa + BitVec.ofNat 64 i) 1 ∧
      (pa + BitVec.ofNat 64 i).toNat = pa.toNat + i := by
  have hstart := BitVec.le_def.mp h.1
  have hstop : pa.toNat + 4 ≤ range.start.toNat + range.size.toNat := h.2
  have hsum : (pa + BitVec.ofNat 64 i).toNat = pa.toNat + i := by
    rw [BitVec.toNat_add, BitVec.toNat_ofNat]
    omega
  refine ⟨⟨?_, ?_⟩, hsum⟩
  · rw [BitVec.le_def, hsum]
    omega
  · rw [hsum]
    change pa.toNat + i + 1 ≤ _
    omega

end Read

section Instruction

variable {m : Machine} {pc pa : U64} {bytes : List U8} {w : Window}

theorem InstructionAt.length_eq (instr : InstructionAt m pc bytes) :
    bytes.length = 2 ∨ bytes.length = 4 := by
  rw [instr.length]
  exact instructionLength_eq _

/-- The bytes of an instruction that do not leave the page follow one another in memory. -/
theorem InstructionAt.contents (instr : InstructionAt m pc bytes) (wf : m.bus.Wf)
    (hpa : Reaches m pc .X pa) (hc : (m.bus.range w).Contains pa 4) {i : Nat} {b : U8}
    (hb : bytes[i]? = some b) (hpage : pc.toNat % 4096 + i < 4096) :
    m.bus.contents (w, (m.bus.offset w pa).toNat + i) = some b := by
  obtain ⟨q, hq, v, -, alone, hbyte⟩ := instr.backed i b hb
  obtain rfl := hq.unique (hpa.within_page hpage)
  have hi : i < 4 := by
    have := (List.getElem?_eq_some_iff.mp hb).1
    have := instr.length_eq
    omega
  obtain ⟨hone, hsum⟩ := contains_one (wf.bounded w) hc hi
  obtain rfl := (alone w).mp hone
  have hstart := BitVec.le_def.mp hc.1
  rw [Bus.offset_toNat hone, hsum] at hbyte
  rw [Bus.offset_toNat hc, ← hbyte]
  congr 2
  omega

/-- Bytes that agree with the instruction's wherever it has one begin with it. -/
theorem InstructionAt.eq_take (instr : InstructionAt m pc bytes) {ext : List U8} :
    bytes = ext.take (instructionLength (ext.headD 0)) ↔
      ∀ (i : Nat) (b : U8), bytes[i]? = some b → ext[i]? = some b := by
  have hlength := instr.length_eq
  constructor
  · intro h i b hb
    rw [h, List.getElem?_take] at hb
    split at hb
    · exact hb
    · cases hb
  · intro h
    have hhead : bytes.headD 0 = ext.headD 0 := by
      obtain ⟨b, rest, rfl⟩ := List.exists_cons_of_length_pos (by omega : 0 < bytes.length)
      have h0 := h 0 b rfl
      rw [List.headD_cons, List.headD_eq_head?_getD, List.head?_eq_getElem?, h0, Option.getD_some]
    have hk := instr.length
    rw [hhead] at hk
    apply List.ext_getElem?
    intro i
    rw [List.getElem?_take, ← hk]
    by_cases hi : i < bytes.length
    · rw [if_pos hi, List.getElem?_eq_getElem hi]
      exact (h i _ (List.getElem?_eq_getElem hi)).symm
    · rw [if_neg hi, List.getElem?_eq_none (by omega)]

end Instruction

/-- Where no interrupt is delivered, `fetch` returns the instruction at pc exactly when its
bytes are aligned with the four that it reads. -/
theorem fetch_instruction_iff {m m₁ : Machine} {bytes : List U8} (wf : m₁.bus.Wf)
    (quiet : beforeFetch m = .ok false m₁) (instr : InstructionAt m₁ m.cpu.pc bytes) :
    (∃ t, fetch m = .ok (decodeBytes bytes) t) ↔ FetchAligned m₁ m.cpu.pc bytes := by
  have hpc := beforeFetch_pc quiet
  rw [fetch_of_quiet quiet]
  obtain ⟨b, rest, hbytes⟩ := List.exists_cons_of_length_pos
    (by have := instr.length_eq; omega : 0 < bytes.length)
  obtain ⟨pa, hpa, w, hwin, alone, -⟩ := instr.backed 0 b (by rw [hbytes]; rfl)
  rw [BitVec.add_zero] at hpa
  obtain ⟨t, ht⟩ := hpa
  have hpa : Reaches m₁ m.cpu.pc .X pa := ⟨t, ht⟩
  have hlocate := locate_of_alone (n := 4) (by decide) alone
  have hunique {v : Window} (h : (m₁.bus.range v).Contains pa 4) : v = w := by
    apply (alone v).mp
    have hone := (contains_one (i := 0) (wf.bounded v) h (by decide)).1
    rwa [BitVec.add_zero] at hone
  by_cases hc : (m₁.bus.range w).Contains pa 4
  · rw [if_pos hc] at hlocate
    obtain ⟨ram, hm⟩ : ∃ ram, m₁.bus.memory w = some ram := by
      obtain rfl | rfl := hwin <;> exact ⟨_, rfl⟩
    rw [← hpc] at ht
    obtain ⟨ext, hlength, hcontents, hfetch⟩ := fetchWord_memory wf ht hlocate hm
    have hindex {i : Nat} {b : U8} (hb : bytes[i]? = some b) : i < 4 := by
      have := (List.getElem?_eq_some_iff.mp hb).1
      have := instr.length_eq
      omega
    have hiff : (∃ t, fetchWord m₁ = .ok (decodeBytes bytes) t) ↔
        bytes = ext.take (instructionLength (ext.headD 0)) := by
      rw [hfetch]
      constructor
      · rintro ⟨t', hdecode⟩
        injection hdecode with hdecode
        refine decodeBytes_injective instr.length_eq ?_ hdecode.symm
        have := instructionLength_eq (ext.headD 0)
        rw [List.length_take]
        omega
      · intro hbytes
        exact ⟨t, by rw [← hbytes]⟩
    rw [hiff, instr.eq_take]
    constructor
    · intro hext pa' hpa'
      obtain rfl := hpa.unique hpa'
      refine ⟨w, hwin, hc, fun i b hb _ => ?_⟩
      rw [← hcontents i (hindex hb)]
      exact hext i b hb
    · intro haligned i b hb
      obtain ⟨w', -, hc', hnext⟩ := haligned pa hpa
      obtain rfl := hunique hc'
      rw [hcontents i (hindex hb)]
      by_cases hpage : m.cpu.pc.toNat % 4096 + i < 4096
      · exact instr.contents wf hpa hc hb hpage
      · exact hnext i b hb (by omega)
  · rw [if_neg hc] at hlocate
    constructor
    · rintro ⟨t', hfetch⟩
      rw [← hpc] at ht
      rw [fetchWord_nowhere wf ht hlocate] at hfetch
      cases hfetch
    · intro haligned
      obtain ⟨w', -, hc', -⟩ := haligned pa hpa
      obtain rfl := hunique hc'
      exact absurd hc' hc

section EndOfRam

omit [Host]

/-- A hart in M-mode at address 0, where RAM begins with a C.NOP. -/
def nopAnd (rest : List U8) : Machine :=
  { cpu := Cpu.new 0
    bus := { Bus.new .detached with
      ram := ⟨[1, 0] ++ rest⟩, ramRange := ⟨0, BitVec.ofNat 64 (rest.length + 2)⟩ } }

/-- The same hart after the sampling of its lines. -/
def nopSampled (rest : List U8) : Machine :=
  { nopAnd rest with cpu := Trap.withMip (nopAnd rest).cpu 0 }

theorem quiet_nopAnd (rest : List U8) :
    @beforeFetch .dev (nopAnd rest) = .ok false (nopSampled rest) := by
  let : Host := .dev
  have hs : Trap.sampleMip (nopAnd rest) = .ok 0 (nopAnd rest) := rfl
  have hnone : Trap.firstCandidate (0 &&& (nopAnd rest).cpu.csrs.get Csr.MIE)
      ((nopAnd rest).cpu.csrs.get Csr.MSTATUS) (Trap.withMip (nopAnd rest).cpu 0)
      Trap.PRIORITY = none := by
    change Trap.firstCandidate (0 &&& (Cpu.new 0).csrs.get Csr.MIE)
      ((Cpu.new 0).csrs.get Csr.MSTATUS) (Trap.withMip (Cpu.new 0) 0) Trap.PRIORITY = none
    decide
  rw [beforeFetch, bind_ok (tickClint_apply _), bind_ok (pollUart_apply _)]
  change Trap.checkInterrupt (nopAnd rest) = _
  rw [Trap.checkInterrupt_apply hs, hnone]
  rfl

theorem wf_nopSampled {rest : List U8} (h : rest = [] ∨ rest = [0, 0]) :
    (nopSampled rest).bus.Wf := by
  constructor
  · intro w
    obtain rfl | rfl := h <;> cases w <;> decide
  · intro w ram hm
    obtain rfl | rfl := h <;> cases w <;> cases hm <;> rfl

theorem bare_nopSampled (rest : List U8) :
    (nopSampled rest).cpu.csrs.get Csr.SATP >>> 60 = MODE_BARE := by
  change (Trap.withMip (Cpu.new 0) 0).csrs.get Csr.SATP >>> 60 = MODE_BARE
  decide

theorem instructionAt_nopSampled {rest : List U8} (h : rest = [] ∨ rest = [0, 0]) :
    @InstructionAt .dev (nopSampled rest) (nopAnd rest).cpu.pc [1, 0] := by
  let : Host := .dev
  refine ⟨rfl, fun i b hb => ?_⟩
  have hreach (q : U64) : Reaches (nopSampled rest) q .X q :=
    ⟨nopSampled rest, translate_bare (bare_nopSampled _)⟩
  match i, hb with
  | 0, hb =>
      cases hb
      refine ⟨0, hreach 0, .ram, .inl rfl, fun v => ?_, ?_⟩
      · obtain rfl | rfl := h <;> cases v <;> decide
      · obtain rfl | rfl := h <;> rfl
  | 1, hb =>
      cases hb
      refine ⟨1, hreach 1, .ram, .inl rfl, fun v => ?_, ?_⟩
      · obtain rfl | rfl := h <;> cases v <;> decide
      · obtain rfl | rfl := h <;> rfl

/-- With four bytes of RAM the C.NOP is fetched. -/
theorem fetch_instruction_nop : ∃ t, @fetch .dev (nopAnd [0, 0]) = .ok (decodeBytes [1, 0]) t := by
  let : Host := .dev
  refine (fetch_instruction_iff (wf_nopSampled (.inr rfl)) (quiet_nopAnd _)
    (instructionAt_nopSampled (.inr rfl))).mpr fun pa hpa => ?_
  obtain rfl := hpa.unique ⟨_, translate_bare (bare_nopSampled _)⟩
  refine ⟨.ram, .inl rfl, by decide, fun i b hb hpage => ?_⟩
  have hi := (List.getElem?_eq_some_iff.mp hb).1
  change i < 2 at hi
  change 4096 ≤ 0 + i at hpage
  omega

/-- With two bytes of RAM the C.NOP ends where RAM ends, and it is not fetched. -/
theorem fetch_at_end_of_ram :
    (nopSampled []).bus.Wf ∧ @beforeFetch .dev (nopAnd []) = .ok false (nopSampled []) ∧
      @InstructionAt .dev (nopSampled []) (nopAnd []).cpu.pc [1, 0] ∧
      ¬∃ t, @fetch .dev (nopAnd []) = .ok (decodeBytes [1, 0]) t := by
  let : Host := .dev
  have wf := wf_nopSampled (.inl rfl)
  refine ⟨wf, quiet_nopAnd _, instructionAt_nopSampled (.inl rfl), ?_⟩
  rintro ⟨t, hfetch⟩
  rw [fetch_of_quiet (quiet_nopAnd _),
    fetchWord_nowhere wf (translate_bare (bare_nopSampled _)) (by decide)]
    at hfetch
  cases hfetch

end EndOfRam

end Machine

end Riscvm.Rv64rs
