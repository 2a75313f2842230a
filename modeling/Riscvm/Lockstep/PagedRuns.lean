import Riscvm.Foundation.Simulates
import Riscvm.Lockstep.PageTables
import Riscvm.Rv64rs.Rejection

/-!
# Loads and stores through page tables

Two harts with the same page tables load, store, switch `satp` and execute SFENCE.VMA. As long as
the guest fences what it changes, so that the TLB holds only what memory says, every address
translates alike, every load returns the same value, and RAM stays the same.
-/

namespace Riscvm.Lockstep

open Bits Exec Memo TwosComplement Rv64rs

section Coherence

variable [Host] {m m' : Machine} {va w : U64} {access : Access}

/-- With a coherent TLB an address translates as without one. -/
theorem translate_coherent (coherent : Mmu.Coherent m) (va : U64) (access : Access) :
    outcome (Mmu.translate va access m) = outcome (Mmu.translateUncached va access m) := by
  by_cases hbare : m.cpu.csrs.get Csr.SATP >>> 60 = Mmu.MODE_BARE
  · rw [Mmu.translate_bare hbare, Mmu.translateUncached_bare hbare]
  by_cases hmode : m.cpu.csrs.get Csr.SATP >>> 60 = Mmu.MODE_SV39
  · rw [Mmu.translateUncached_sv39 hmode]
    cases hlookup : m.cpu.tlb.lookup (va >>> 12) with
    | none =>
        rw [Mmu.translate_miss hmode hlookup]
        cases Mmu.walk (m.cpu.csrs.get Csr.SATP) va access m.bus with
        | ok page bus => rfl
        | error e bus => rfl
    | some page =>
        have hwalk := Mmu.walk_of_page (coherent _ page hlookup) access
        rw [Mmu.translate_hit hmode hlookup]
        by_cases hp : page.2 &&& Mmu.required access = 0
        · rw [if_pos hp] at hwalk ⊢
          obtain ⟨e, hwalk⟩ := hwalk
          rw [hwalk]
          rfl
        · rw [if_neg hp] at hwalk ⊢
          rw [hwalk]
  · rw [Mmu.translate_unsupported hbare hmode]

/-- A translation changes the TLB at most, which stays coherent. -/
theorem coherent_translate (coherent : Mmu.Coherent m)
    (h : Mmu.translate va access m = .ok w m') :
    m'.bus = m.bus ∧ m'.cpu.csrs = m.cpu.csrs ∧ Mmu.Coherent m' := by
  by_cases hbare : m.cpu.csrs.get Csr.SATP >>> 60 = Mmu.MODE_BARE
  · rw [Mmu.translate_bare hbare] at h
    cases h
    exact ⟨rfl, rfl, coherent⟩
  by_cases hmode : m.cpu.csrs.get Csr.SATP >>> 60 = Mmu.MODE_SV39
  · have hfinish : m' = finish (Mmu.translate va access m) := by
      rw [h]
      rfl
    exact Mmu.TranslateStep.coherent ⟨va, access, hfinish⟩ coherent hmode
  · rw [Mmu.translate_unsupported hbare hmode, Mmu.translateUncached, get_bind_apply,
      if_neg hbare, if_pos hmode] at h
    cases h

end Coherence

/-- In every state that a Rust hart reaches from an empty TLB, as long as memory still confirms
what it has cached, an address translates on one side if and only if it does on the other, and to
the same address. -/
theorem translations_agree [Host] {s₀ s : Mmu.Traced} (empty : s₀.machine.cpu.tlb = .new)
    (run : Relation.ReflTransGen Mmu.Traced.Step s₀ s) (unmodified : ∀ i, s.Unmodified i)
    {hart hart' : Python.Hart Python.Bus} (same : SamePages hart s.machine) (va : U64)
    (access : Access) {pa : Int} :
    Python.translate va.toNat (letter access) hart = .ok pa hart' ↔
      hart' = hart ∧ ∃ w, outcome (Mmu.translate va access s.machine) = .ok w ∧
        pa = (w.toNat : Int) := by
  rw [(Mmu.Traced.inv_of_run empty run).translate_eq unmodified]
  exact translate_iff same va access

/-- Two harts with the same page tables, and a TLB that does not show. -/
structure Paged [Host] (hart : Python.Hart Python.Bus) (m : Machine) : Prop
    extends SamePages hart m where
  coherent : Mmu.Coherent m

section Accesses

variable [Host] {hart hart' : Python.Hart Python.Bus} {m : Machine} {va : U64}

/-- Both translate alike; the Rust hart may fill its TLB. -/
theorem Paged.translate (paged : Paged hart m) (access : Access) {pa : Int}
    (h : Python.translate va.toNat (letter access) hart = .ok pa hart') :
    hart' = hart ∧ ∃ w m', Mmu.translate va access m = .ok w m' ∧ m'.bus = m.bus ∧
      pa = (w.toNat : Int) ∧ Paged hart m' := by
  obtain ⟨rfl, w, houtcome, rfl⟩ := (translate_iff paged.toSamePages va access).mp h
  rw [← translate_coherent paged.coherent] at houtcome
  refine ⟨rfl, w, ?_⟩
  cases htranslate : Mmu.translate va access m with
  | error e m' =>
      rw [htranslate] at houtcome
      cases e with
      | err e => cases houtcome
      | panic cause => cases houtcome
  | ok w' m' =>
      rw [htranslate] at houtcome
      obtain rfl := Outcome.ok.inj houtcome
      obtain ⟨hbus, hcsrs, coherent⟩ := coherent_translate paged.coherent htranslate
      refine ⟨m', rfl, hbus, rfl, ⟨?_, ?_, ?_⟩, coherent⟩
      · exact hbus ▸ paged.ram
      · exact hbus ▸ paged.only
      · exact hcsrs ▸ paged.satp

omit [Host] in
theorem checkAlignment_eq_ok {address size : Int} {cause : Nat} {u : Unit}
    (h : Python.checkAlignment address size cause hart = .ok u hart') : hart' = hart := by
  rw [Python.checkAlignment] at h
  split at h
  · cases h
  · cases h
    rfl

/-- A load that the Python hart completes is the same on the Rust hart. -/
theorem load_paged (paged : Paged hart m) (va : U64) (size : U8) :
    SimulatesAt Paged (fun v w => v = number w) (Python.read va.toNat size.toNat)
      (Machine.read va size) hart m := by
  intro value hart' h
  obtain ⟨_, _, halign, haligned⟩ := bind_eq_ok.mp h
  obtain rfl := checkAlignment_eq_ok halign
  obtain ⟨pa, hart₁, htranslate, hboard⟩ := bind_eq_ok.mp haligned
  obtain ⟨rfl, w, m', hrust, hbus, rfl, paged'⟩ := paged.translate .R htranslate
  obtain ⟨board, hread, rfl⟩ := onBoard_eq_ok.mp hboard
  have width := width_of_read hread
  obtain ⟨rfl, hword, n, hn, rfl⟩ := paged'.ram.read width hread
  rw [ofInt_toNat, BitVec.ofInt_natCast] at hword
  refine ⟨BitVec.ofNat 64 n, m', (bind_ok hrust _).trans (zoom_ok hword), paged', ?_⟩
  have hlt : n < 2 ^ 64 := by
    refine Nat.lt_of_lt_of_le hn ?_
    obtain rfl | rfl | rfl | rfl := width
    all_goals decide
  exact congrArg Int.ofNat (Nat.mod_eq_of_lt hlt).symm

/-- So is a store. Whether the TLB is still coherent depends on what was there. -/
theorem store_paged (paged : Paged hart m) (va : U64) (size : U8) (value : U64) :
    SimulatesAt SamePages (fun _ _ => True) (Python.write va.toNat size.toNat value.toNat)
      (Machine.write va size value) hart m := by
  intro _ hart' h
  obtain ⟨_, _, halign, haligned⟩ := bind_eq_ok.mp h
  obtain rfl := checkAlignment_eq_ok halign
  obtain ⟨pa, hart₁, htranslate, hboard⟩ := bind_eq_ok.mp haligned
  obtain ⟨rfl, w, m', hrust, hbus, rfl, paged'⟩ := paged.translate .W htranslate
  obtain ⟨board, hwrite, rfl⟩ := onBoard_eq_ok.mp hboard
  obtain ⟨ram, hword, same⟩ := paged'.ram.write (width_of_write hwrite) hwrite
  rw [ofInt_toNat] at hword
  refine ⟨(), { m' with bus := { m'.bus with ram } }, (bind_ok hrust _).trans (zoom_ok hword),
    ⟨same, ?_, paged'.satp⟩, trivial⟩
  intro w hw
  have honly := paged'.only w hw
  cases w with
  | ram => exact absurd rfl hw
  | stack | bootloader | clint | uart | plic | virtio => exact honly

end Accesses

/-- What a guest does with its address space. -/
inductive PageStep where
  | load (va : U64) (size : U8)
  | store (va : U64) (size : U8) (value : U64)
  | setSatp (value : U64)
  | sfenceVma

namespace PageStep

/-- `sfence.vma zero, zero`. -/
def SFENCE_VMA : U32 := 0x12000073

def python : PageStep → Python.Call (Python.Hart Python.Bus) (List Int)
  | .load va size => do return [← Python.read va.toNat size.toNat]
  | .store va size value => do
      let _ ← Python.write va.toNat size.toNat value.toNat
      return []
  | .setSatp value => do
      let _ ← Python.modifyCpu (Python.csrWrite Python.CSR.SATP value.toNat)
      return []
  | .sfenceVma => do
      let _ ← Python.act (.rv64i SFENCE_VMA)
      return []

def rust [Host] : PageStep → Call Machine (List U64)
  | .load va size => do return [← Machine.read va size]
  | .store va size value => do
      let _ ← Machine.write va size value
      return []
  | .setSatp value => do
      let _ ← Machine.modifyCpu fun cpu => Trap.csrWrite cpu Csr.SATP value
      return []
  | .sfenceVma => do
      let _ ← Machine.execute (.new SFENCE_VMA)
      return []

section Agreement

variable [Host] {hart hart' : Python.Hart Python.Bus} {m : Machine}

/-- The guest's part of the bargain: after a store, the TLB holds nothing that memory no longer
says. -/
def Fenced : List PageStep → Machine → Prop
  | [], _ => True
  | step :: steps, m => ∀ words m', step.rust m = .ok words m' →
      ((∃ va size value, step = .store va size value) → Mmu.Coherent m') ∧ Fenced steps m'

omit [Host] in
/-- SFENCE.VMA is a no-op in Python. -/
theorem act_sfence (hart : Python.Hart Python.Bus) :
    ∃ pc, Python.act (.rv64i SFENCE_VMA) hart = .ok () { hart with cpu.pc := pc } := by
  have hmnemonic : Python.Rv64i.mnemonicOf (Python.Instruction.value (.rv64i SFENCE_VMA)) =
      some .SFENCE_VMA := by decide
  rw [Python.act, if_pos (by decide), Python.Rv64i.actor, Python.Rv64i.getMnemonic, hmnemonic]
  exact ⟨_, rfl⟩

/-- In Rust it empties the TLB. -/
theorem execute_sfence (m : Machine) : ∃ pc, Machine.execute (.new SFENCE_VMA) m =
    .ok () { m with cpu := { m.cpu with pc, tlb := m.cpu.tlb.flush } } := by
  have hword : SFENCE_VMA = Encoding.rType 0b0001001 0 0 0 0 0x73 := by decide
  rw [hword]
  simp only [Machine.execute, Execute.execute, Execute.executeFrom, Execute.executeSystem,
    Encoding.new_rType]
  exact ⟨_, rfl⟩

/-- One step leaves the page tables the same, and the TLB coherent unless it was a store. -/
theorem follows (paged : Paged hart m) (step : PageStep) :
    SimulatesAt (fun hart m => SamePages hart m ∧
        ((∃ va size value, step = .store va size value) ∨ Mmu.Coherent m))
      (Answers number) step.python step.rust hart m := by
  cases step with
  | load va size =>
      exact (SimulatesAt.answer (load_paged paged va size)).mono
        (fun _ _ paged => ⟨paged.toSamePages, .inr paged.coherent⟩) fun _ _ => id
  | store va size value =>
      exact (SimulatesAt.silent (store_paged paged va size value)).mono
        (fun _ _ same => ⟨same, .inl ⟨va, size, value, rfl⟩⟩) fun _ _ => id
  | setSatp value =>
      refine .silent (V := fun _ _ => True) ?_
      rintro _ _ ⟨⟩
      refine ⟨(), _, rfl, ⟨⟨paged.ram, paged.only, ?_⟩, .inr ?_⟩, trivial⟩
      · change (value.toNat : Int) = (((m.cpu.csrs.insert Csr.SATP value).get Csr.SATP).toNat : Int)
        rw [Csrs.get_insert, if_pos rfl]
      · exact Mmu.coherent_of_empty fun _ => rfl
  | sfenceVma =>
      refine .silent (V := fun _ _ => True) ?_
      intro _ hart' h
      obtain ⟨pc, hpython⟩ := act_sfence hart
      obtain ⟨pc', hrust⟩ := execute_sfence m
      rw [hpython] at h
      cases h
      refine ⟨(), _, hrust, ⟨⟨paged.ram, paged.only, paged.satp⟩, .inr ?_⟩, trivial⟩
      exact Mmu.coherent_of_empty fun _ => rfl

/-- Two harts in step before the rest of a run. -/
structure Ready (steps : List PageStep) (hart : Python.Hart Python.Bus) (m : Machine) : Prop where
  paged : Paged hart m
  fenced : Fenced steps m

/-- Where the Python hart completes a run, the Rust hart returns the same values for the loads and
ends with the same RAM and `satp`, although it translates through its TLB. -/
theorem paged_agree {steps : List PageStep} (paged : Paged hart m) (fenced : Fenced steps m)
    {answers : List Int} (h : runAll python steps hart = .ok answers hart') :
    ∃ words m', runAll rust steps m = .ok words m' ∧ SamePages hart' m' ∧
      answers = words.map number := by
  have each (step : PageStep) (steps : List PageStep) (hart : Python.Hart Python.Bus) (m : Machine)
      (ready : Ready (step :: steps) hart m) :
      SimulatesAt (Ready steps) (Answers number) step.python step.rust hart m := by
    intro as hart' h
    obtain ⟨bs, m', hrust, ⟨same, hcoherent⟩, hanswers⟩ := follows ready.paged step as hart' h
    obtain ⟨hstore, fenced⟩ := ready.fenced bs m' hrust
    exact ⟨bs, m', hrust, ⟨⟨same, hcoherent.elim hstore id⟩, fenced⟩, hanswers⟩
  obtain ⟨words, m', hrun, ready, hanswers⟩ :=
    SimulatesAt.runAll each steps ⟨paged, fenced⟩ answers hart' h
  exact ⟨words, m', hrun, ready.paged.toSamePages, hanswers⟩

/-- Stores alone have to be fenced. -/
theorem fenced_of_noStore {steps : List PageStep}
    (h : ∀ step ∈ steps, ∀ va size value, step ≠ .store va size value) : Fenced steps m := by
  induction steps generalizing m with
  | nil => trivial
  | cons step steps ih =>
      rw [List.forall_mem_cons] at h
      intro _ m' _
      refine ⟨?_, ih h.2⟩
      rintro ⟨va, size, value, hstore⟩
      exact absurd hstore (h.1 va size value)

end Agreement

section Example

attribute [local instance] Host.dev

/-- A page table entry for a readable and writable gigabyte at 0, and room for data. -/
def gigabyte : Machine :=
  { cpu := Cpu.new 0
    bus := { Bus.new .detached with
      ram := ⟨[7, 0, 0, 0, 0, 0, 0, 0] ++ List.replicate 8 0⟩, ramRange := ⟨0, 16⟩ } }

def gigabytePython : Python.Hart Python.Bus where
  cpu := .new 0
  board := ⟨⟨[0], [16]⟩, [((0, 16), [7, 0, 0, 0, 0, 0, 0, 0] ++ List.replicate 8 0)]⟩

theorem paged_gigabyte : Paged gigabytePython gigabyte where
  ram := ⟨rfl, rfl, by decide⟩
  only := by
    intro w hw
    cases w with
    | ram => exact absurd rfl hw
    | stack | bootloader | clint | uart | plic | virtio => rfl
  satp := rfl
  coherent := Mmu.coherent_of_empty fun _ => rfl

/-- The same with translation on. -/
def mapped : Machine :=
  { gigabyte with
    cpu := { gigabyte.cpu with
      csrs := gigabyte.cpu.csrs.insert Csr.SATP 0x8000000000000000 } }

def mappedPython : Python.Hart Python.Bus :=
  { gigabytePython with cpu := gigabytePython.cpu.setCsr Python.CSR.SATP 0x8000000000000000 }

theorem samePages_mapped : SamePages mappedPython mapped :=
  ⟨paged_gigabyte.ram, paged_gigabyte.only, by decide⟩

/-- The first gigabyte maps to itself, also for the hart that has not used it yet. -/
theorem translations_agree_gigabyte : ∃ w, outcome (Mmu.translate 0x1234 .R mapped) = .ok w ∧
    (0x1234 : Int) = (w.toNat : Int) := by
  have hrun : Python.translate ((0x1234 : U64).toNat : Int) (letter .R) mappedPython =
      .ok 0x1234
        (finish (Python.translate ((0x1234 : U64).toNat : Int) (letter .R) mappedPython)) :=
    eq_ok_of_answered (by decide +kernel)
  exact ((@translations_agree _ ⟨mapped, fun _ => []⟩ ⟨mapped, fun _ => []⟩ rfl .refl
    (fun _ h => by cases h) _ _ samePages_mapped 0x1234 .R _).mp hrun).2

/-- A store without translation, and two loads of what it left with translation on. -/
def session : List PageStep :=
  [.store 8 8 0x1122334455667788, .setSatp 0x8000000000000000, .load 8 8, .sfenceVma, .load 12 4]

theorem fenced_session : Fenced session gigabyte := by
  intro words m' h
  have hstore : (PageStep.store 8 8 0x1122334455667788).rust gigabyte =
      .ok [] (finish ((PageStep.store 8 8 0x1122334455667788).rust gigabyte)) :=
    eq_ok_of_answered (by decide +kernel)
  rw [hstore] at h
  cases h
  refine ⟨fun _ => Mmu.coherent_of_empty fun _ => rfl, fenced_of_noStore ?_⟩
  simp

theorem paged_agree_gigabyte : ∃ words m', runAll rust session gigabyte = .ok words m' ∧
    SamePages (finish (runAll python session gigabytePython)) m' ∧
      [0x1122334455667788, 0x11223344] = words.map number := by
  have hrun : runAll python session gigabytePython =
      .ok [0x1122334455667788, 0x11223344] (finish (runAll python session gigabytePython)) :=
    eq_ok_of_answered (by decide +kernel)
  exact paged_agree paged_gigabyte fenced_session hrun

end Example

end PageStep

end Riscvm.Lockstep
