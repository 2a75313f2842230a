import Riscvm.Python.Uart
import Riscvm.Rv64rs.UartStreams

/-!
# The two consoles

The same register writes to both UARTs. Rust sends the byte that was written; Python sends the
UTF-8 encoding of the character with that number, which is the byte itself for ASCII only.
-/

namespace Riscvm.Lockstep

open Exec Rv64rs

/-- A register write of the guest. -/
structure RegisterWrite where
  offset : U64
  size : U8
  value : U64

namespace RegisterWrite

def byte (w : RegisterWrite) : U8 := w.value.setWidth 8

/-- The bytes written to the transmit register: those at offset 0 while the last write to
offset 3 has the divisor latch closed. -/
def transmitted (latch : Bool) : List RegisterWrite → List U8
  | [] => []
  | w :: ws =>
      if w.offset = 0 ∧ latch = false then w.byte :: transmitted latch ws
      else if w.offset = 3 then transmitted (w.byte.getLsbD 7) ws
      else transmitted latch ws

end RegisterWrite

/-- A run of writes. -/
def console {ε τ : Type} (write : RegisterWrite → EStateM ε τ Unit) :
    List RegisterWrite → EStateM ε τ Unit
  | [] => return ()
  | w :: ws => do
      write w
      console write ws

def rustConsole : List RegisterWrite → Call Uart Unit :=
  console fun w => Uart.write w.offset w.size w.value

def pythonConsole : List RegisterWrite → Python.Uart.Call Unit :=
  console fun w => Python.Uart.write w.offset.toNat w.size.toNat w.value.toNat

/-- The bytes that Python sends for one. -/
def encoded (b : U8) : List U8 := Python.Uart.encodeChr b.toNat

theorem encoded_eq (b : U8) : encoded b = [b] ↔ b < 0x80 := by
  revert b
  decide +kernel

theorem length_encoded (b : U8) : (encoded b).length = if b < 0x80 then 1 else 2 := by
  revert b
  decide +kernel

/-- What an accepted write does to a divisor latch and an output, where a byte is sent as the
bytes `emit` of it. -/
structure Wrote (emit : U8 → List U8) (w : RegisterWrite) (dlab dlab' : Bool)
    (output output' : Option (List U8)) : Prop where
  latch : dlab' = if w.offset = 3 then w.byte.getLsbD 7 else dlab
  sent : output' = if w.offset = 0 ∧ dlab = false then output.map (· ++ emit w.byte) else output

section Write

variable {w : RegisterWrite} {uart uart' : Uart} {python python' : Python.Uart}

theorem rust_write (h : Uart.write w.offset w.size w.value uart = .ok () uart') :
    Wrote (fun b => [b]) w uart.dlab uart'.dlab uart.output uart'.output := by
  obtain ⟨e, hwrite⟩ | ⟨_, hwrite, -, houtput, -, hdlab⟩ :=
    Uart.write_cases w.offset w.size w.value uart
  · cases hwrite.symm.trans h
  · cases hwrite.symm.trans h
    have hlatch : (w.byte &&& Uart.LCR_BAUD_LATCH != 0) = w.byte.getLsbD 7 := by
      generalize w.byte = b
      revert b
      decide +kernel
    exact ⟨hlatch ▸ hdlab, houtput⟩

/-- The line control bits that are stored are two. -/
def Normal (uart : Python.Uart) : Prop := ∃ n : Fin 4, uart.lineControlNbits = n.val

theorem lor_latch (n : Fin 4) (latch : Bool) :
    (Int.lor (if latch then 0x80 else 0) n.val / 2 ^ 7 != 0) = latch := by
  revert n latch
  decide

theorem land_nbits (b : U8) : ∃ n : Fin 4, Int.land b.toNat Python.Uart.LCR_NBITS = n.val := by
  revert b
  decide +kernel

theorem anyBit_latch (b : U8) :
    Python.Uart.anyBit b.toNat Python.Uart.LCR_BAUD_LATCH = b.getLsbD 7 := by
  revert b
  decide +kernel

theorem Normal.dlab_eq (normal : Normal python) :
    python.dlab = python.divisorLatchAccessible := by
  obtain ⟨n, hn⟩ := normal
  rw [Python.Uart.dlab, Python.Uart.lcr, hn, lor_latch]

theorem u8_value (w : RegisterWrite) : Python.u 8 w.value.toNat = w.byte.toNat := by
  rw [RegisterWrite.byte, BitVec.toNat_setWidth]
  rfl

theorem require_ok {p : Prop} [Decidable p] {u : Unit}
    (h : Python.Uart.require p python = .ok u python') : p ∧ python' = python := by
  unfold Python.Uart.require at h
  rw [run_ite] at h
  split at h
  next hp =>
    cases h
    exact ⟨hp, rfl⟩
  next => cases h

theorem setLcr_ok {b : U8} (h : Python.Uart.setLcr b.toNat python = .ok () python') :
    python'.dlab = b.getLsbD 7 ∧ python'.output = python.output ∧ Normal python' := by
  unfold Python.Uart.setLcr at h
  rw [modify_bind_apply, run_ite] at h
  split at h
  · cases h
  · cases h
    have normal : Normal { python with
        divisorLatchAccessible := Python.Uart.anyBit b.toNat Python.Uart.LCR_BAUD_LATCH
        lineControlNbits := Int.land b.toNat Python.Uart.LCR_NBITS } := land_nbits b
    exact ⟨normal.dlab_eq.trans (anyBit_latch b), rfl, normal⟩

/-- The line control and the output are as before. -/
structure Unmoved (python python' : Python.Uart) : Prop where
  latch : python'.divisorLatchAccessible = python.divisorLatchAccessible
  nbits : python'.lineControlNbits = python.lineControlNbits
  output : python'.output = python.output

theorem Unmoved.normal (unmoved : Unmoved python python') (normal : Normal python) :
    Normal python' := by
  obtain ⟨n, hn⟩ := normal
  exact ⟨n, unmoved.nbits.trans hn⟩

theorem Unmoved.wrote (unmoved : Unmoved python python') (normal : Normal python)
    (h0 : ¬(w.offset = 0 ∧ python.dlab = false)) (h3 : w.offset ≠ 3) :
    Wrote encoded w python.dlab python'.dlab python.output python'.output ∧ Normal python' := by
  refine ⟨⟨?_, ?_⟩, unmoved.normal normal⟩
  · rw [if_neg h3, (unmoved.normal normal).dlab_eq, unmoved.latch, normal.dlab_eq]
  · rw [if_neg h0, unmoved.output]

theorem setIer_ok {value : Int} (h : Python.Uart.setIer value python = .ok () python') :
    Unmoved python python' := by
  unfold Python.Uart.setIer at h
  rw [get_bind_apply, bind_eq_ok] at h
  obtain ⟨_, _, hlatch, h⟩ := h
  rw [(require_ok hlatch).2, modify_bind_apply] at h
  rw [(require_ok h).2]
  exact ⟨rfl, rfl, rfl⟩

theorem setFcr_ok {value : Int} (h : Python.Uart.setFcr value python = .ok () python') :
    Unmoved python python' := by
  unfold Python.Uart.setFcr at h
  rw [modify_bind_apply] at h
  rw [(require_ok h).2]
  exact ⟨rfl, rfl, rfl⟩

theorem setDll_ok {value : Int} (h : Python.Uart.setDll value python = .ok () python') :
    Unmoved python python' := by
  unfold Python.Uart.setDll at h
  rw [get_bind_apply, bind_eq_ok] at h
  obtain ⟨_, _, hlatch, h⟩ := h
  rw [(require_ok hlatch).2] at h
  cases h
  exact ⟨rfl, rfl, rfl⟩

theorem setDlm_ok {value : Int} (h : Python.Uart.setDlm value python = .ok () python') :
    Unmoved python python' := by
  unfold Python.Uart.setDlm at h
  rw [get_bind_apply, bind_eq_ok] at h
  obtain ⟨_, _, hlatch, h⟩ := h
  rw [(require_ok hlatch).2] at h
  cases h
  exact ⟨rfl, rfl, rfl⟩

theorem offset_eq (w : RegisterWrite) {k : U64} :
    (w.offset.toNat : Int) = k.toNat ↔ w.offset = k := by
  rw [Int.natCast_inj, BitVec.toNat_inj]

theorem python_write (normal : Normal python)
    (h : Python.Uart.write w.offset.toNat w.size.toNat w.value.toNat python = .ok () python') :
    Wrote encoded w python.dlab python'.dlab python.output python'.output ∧ Normal python' := by
  have h0 : (w.offset.toNat : Int) = 0 ↔ w.offset = 0 := offset_eq w (k := 0)
  have h1 : (w.offset.toNat : Int) = 1 ↔ w.offset = 1 := offset_eq w (k := 1)
  have h2 : (w.offset.toNat : Int) = 2 ↔ w.offset = 2 := offset_eq w (k := 2)
  have h3 : (w.offset.toNat : Int) = 3 ↔ w.offset = 3 := offset_eq w (k := 3)
  unfold Python.Uart.write at h
  rw [bind_eq_ok] at h
  obtain ⟨_, s, hsize, h⟩ := h
  rw [(require_ok hsize).2, bind_eq_ok] at h
  obtain ⟨_, s', hlegal, h⟩ := h
  rw [(require_ok hlegal).2, u8_value] at h
  simp only [h0, h1, h2, h3, run_ite, get_bind_apply] at h
  by_cases hw0 : w.offset = 0
  · have hne : w.offset ≠ 3 := by
      rw [hw0]
      decide
    rw [if_pos hw0] at h
    by_cases hdlab : python.dlab = true
    · rw [if_pos hdlab] at h
      exact (setDll_ok h).wrote normal (fun h' => absurd (hdlab.symm.trans h'.2) (by decide)) hne
    · rw [if_neg hdlab] at h
      cases h
      refine ⟨⟨?_, ?_⟩, normal⟩
      · rw [if_neg hne]
        rfl
      · rw [if_pos ⟨hw0, Bool.not_eq_true _ ▸ hdlab⟩]
        rfl
  · have hsent : ¬(w.offset = 0 ∧ python.dlab = false) := fun h' => hw0 h'.1
    rw [if_neg hw0] at h
    by_cases hw1 : w.offset = 1
    · have hne : w.offset ≠ 3 := by
        rw [hw1]
        decide
      rw [if_pos hw1] at h
      split at h
      · exact (setDlm_ok h).wrote normal hsent hne
      · exact (setIer_ok h).wrote normal hsent hne
    · rw [if_neg hw1] at h
      by_cases hw2 : w.offset = 2
      · have hne : w.offset ≠ 3 := by
          rw [hw2]
          decide
        rw [if_pos hw2] at h
        exact (setFcr_ok h).wrote normal hsent hne
      · rw [if_neg hw2] at h
        by_cases hw3 : w.offset = 3
        · rw [if_pos hw3] at h
          obtain ⟨hdlab, houtput, normal'⟩ := setLcr_ok h
          refine ⟨⟨?_, ?_⟩, normal'⟩
          · rw [if_pos hw3, hdlab]
          · rw [if_neg hsent, houtput]
        · rw [if_neg hw3] at h
          cases h
          exact Unmoved.wrote ⟨rfl, rfl, rfl⟩ normal hsent hw3

end Write

section Runs

variable {ws : List RegisterWrite}

/-- If every write sends a byte as `emit` of it, so does a run. -/
theorem console_ok {ε τ : Type} {write : RegisterWrite → EStateM ε τ Unit} {emit : U8 → List U8}
    (Good : τ → Prop) (latch : τ → Bool) (output : τ → Option (List U8))
    (hwrite : ∀ {w s s'}, Good s → write w s = .ok () s' →
      Wrote emit w (latch s) (latch s') (output s) (output s') ∧ Good s')
    {s s' : τ} (good : Good s) (h : console write ws s = .ok () s') :
    output s' = (output s).map (· ++ (RegisterWrite.transmitted (latch s) ws).flatMap emit) := by
  induction ws generalizing s with
  | nil =>
      cases h
      simp [RegisterWrite.transmitted]
  | cons w ws ih =>
      obtain ⟨_, t, hw, hrest⟩ := bind_eq_ok.mp h
      obtain ⟨⟨hlatch, houtput⟩, good'⟩ := hwrite good hw
      rw [ih good' hrest, hlatch, houtput, RegisterWrite.transmitted]
      by_cases h0 : w.offset = 0 ∧ latch s = false
      · have hne : w.offset ≠ 3 := by
          rw [h0.1]
          decide
        rw [if_pos h0, if_pos h0, if_neg hne, Option.map_map, List.flatMap_cons, h0.2]
        congr
        funext bytes
        exact List.append_assoc _ _ _
      · rw [if_neg h0, if_neg h0]
        by_cases h3 : w.offset = 3
        · rw [if_pos h3, if_pos h3]
        · rw [if_neg h3, if_neg h3]

theorem rustConsole_ok {uart uart' : Uart} (h : rustConsole ws uart = .ok () uart') :
    uart'.output = uart.output.map (· ++ RegisterWrite.transmitted uart.dlab ws) := by
  have hrun := console_ok (fun _ => True) Uart.dlab Uart.output
    (fun _ hw => ⟨rust_write hw, trivial⟩) trivial h
  rwa [List.flatMap_singleton'] at hrun

theorem pythonConsole_ok {python python' : Python.Uart} (normal : Normal python)
    (h : pythonConsole ws python = .ok () python') :
    python'.output =
      python.output.map (· ++ (RegisterWrite.transmitted python.dlab ws).flatMap encoded) :=
  console_ok Normal Python.Uart.dlab Python.Uart.output python_write normal h

theorem length_flatMap_encoded (bytes : List U8) :
    (bytes.flatMap encoded).length = bytes.length + (bytes.filter (0x80 ≤ ·)).length := by
  induction bytes with
  | nil => rfl
  | cons b bytes ih =>
      rw [List.flatMap_cons, List.length_append, ih, length_encoded, List.filter_cons,
        List.length_cons]
      by_cases hb : b < 0x80
      · rw [if_pos hb, if_neg (by simpa using hb)]
        omega
      · rw [if_neg hb, if_pos (by simpa using hb), List.length_cons]
        omega

theorem flatMap_encoded (bytes : List U8) :
    bytes.flatMap encoded = bytes ↔ ∀ b ∈ bytes, b < 0x80 := by
  constructor
  · intro h b hb
    have hlength := length_flatMap_encoded bytes
    rw [h] at hlength
    have hnone : (bytes.filter (0x80 ≤ ·)) = [] := List.eq_nil_of_length_eq_zero (by omega)
    have hsmall := List.filter_eq_nil_iff.mp hnone b hb
    simpa using hsmall
  · intro h
    induction bytes with
    | nil => rfl
    | cons b bytes ih =>
        rw [List.flatMap_cons, (encoded_eq b).mpr (h b List.mem_cons_self),
          ih fun c hc => h c (List.mem_cons_of_mem b hc)]
        rfl

/-- Both emulators print the same, one byte for each byte transmitted, exactly where every byte
transmitted is an ASCII character. -/
theorem consoles_agree_iff {size : U64} {input : Option (List (Option (List U8)))}
    {ws : List RegisterWrite} {uart : Uart} {python : Python.Uart}
    (rust : rustConsole ws (.new size (some []) input) = .ok () uart)
    (accepted : pythonConsole ws (.new size.toNat (some [])) = .ok () python) :
    (python.output = uart.output ∧
        python.output.map List.length = some (RegisterWrite.transmitted false ws).length) ↔
      ∀ b ∈ RegisterWrite.transmitted false ws, b < 0x80 := by
  have hrust := rustConsole_ok rust
  have hpython := pythonConsole_ok ⟨0, rfl⟩ accepted
  change uart.output = some (RegisterWrite.transmitted false ws) at hrust
  change python.output = some ((RegisterWrite.transmitted false ws).flatMap encoded) at hpython
  rw [hrust, hpython, ← flatMap_encoded]
  constructor
  · rintro ⟨h, -⟩
    exact Option.some.inj h
  · intro h
    rw [h]
    exact ⟨rfl, rfl⟩

end Runs

section Example

/-- A byte sent. -/
def put (b : U64) : List RegisterWrite := [⟨0, 1, b⟩]

theorem consoles_agree_letter :
    ∃ uart python, rustConsole (put 0x77) (.new 0x100 (some []) none) = .ok () uart ∧
      pythonConsole (put 0x77) (.new 0x100 (some [])) = .ok () python ∧
      python.output = uart.output :=
  ⟨_, _, rfl, rfl, ((@consoles_agree_iff 0x100 none (put 0x77) _ _ rfl rfl).mpr (by decide)).1⟩

/-- A byte outside ASCII, which Python sends as two. -/
theorem consoles_disagree :
    ∃ uart python, rustConsole (put 0xe9) (.new 0x100 (some []) none) = .ok () uart ∧
      pythonConsole (put 0xe9) (.new 0x100 (some [])) = .ok () python ∧
      uart.output = some [0xe9] ∧ python.output = some [0xc3, 0xa9] := by
  have hsent := @pythonConsole_ok (put 0xe9) (.new 0x100 (some [])) _ ⟨0, rfl⟩ rfl
  exact ⟨_, _, rfl, rfl, rfl, hsent.trans (by decide +kernel)⟩

end Example

end Riscvm.Lockstep
