import Riscvm.Lockstep.Plics

/-!
# Interrupt controllers side by side

The same accesses and the same lines drive both controllers. Rust keeps the low half of a stored
value, Python the whole value, so they hold the same registers and still arbitrate differently
where the upper halves decide a comparison.
-/

namespace Riscvm.Lockstep

open Exec Rv64rs
open Python.Plic (Register dictGet)

/-! ## Runs -/

/-- A 4-byte access of the guest. -/
inductive PlicAccess where
  | read (address : U64)
  | write (address value : U64)

def PlicAccess.address : PlicAccess → U64
  | .read address => address
  | .write address _ => address

/-- What happens to a controller: the lines of the devices change, or the guest accesses it. -/
inductive PlicStep where
  | lines (level : U32 → U32)
  | access (access : PlicAccess)

def PlicStep.guest : PlicStep → Option PlicAccess
  | .lines _ => none
  | .access a => some a

/-- A priority register, or the enable words, the threshold or the claim register of one of the
contexts that the array has. -/
def Addressed (address : U64) : Prop :=
  address.toNat < 0x1000 ∨ ∃ context : Fin 64, Plic.EnableBlock context.val address.toNat ∨
    address.toNat = Plic.CONTEXT_BASE.toNat + 0x1000 * context.val ∨
    address.toNat = Plic.CONTEXT_BASE.toNat + 0x1000 * context.val + 4

section Controllers

variable (irqs : List U32)

def rustDevices (level : U32 → U32) : List (U32 × IrqLine) :=
  irqs.map fun irq => (irq, .external (level irq))

def pythonDevices (level : U32 → U32) : List (Nat × Int) :=
  irqs.map fun irq => (irq.toNat, (level irq).toNat)

def rustStep (plic : Plic) : PlicStep → Plic
  | .lines level => { plic with devicesByIrq := rustDevices irqs level }
  | .access (.read _) => plic
  | .access (.write address value) => finish (Plic.write address 4 value plic)

def pythonStep (plic : Python.Plic) : PlicStep → Python.Plic
  | .lines level => { plic with devicesByIrq := pythonDevices irqs level }
  | .access (.read address) => finish (Python.Plic.read address.toNat 4 plic)
  | .access (.write address value) =>
      finish (Python.Plic.write address.toNat 4 value.toNat plic)

/-- All devices are registered while their lines are low. -/
def rustStart (size : U64) : Plic :=
  irqs.foldl (fun plic irq => plic.registerIrq irq (.external 0)) (.new size)

def pythonStart (size : U64) : Python.Plic := .new size.toNat (pythonDevices irqs fun _ => 0)

def rustRun (size : U64) (steps : List PlicStep) : Plic :=
  steps.foldl (rustStep irqs) (rustStart irqs size)

def pythonRun (size : U64) (steps : List PlicStep) : Python.Plic :=
  steps.foldl (pythonStep irqs) (pythonStart irqs size)

end Controllers

/-- The level of a line as the devices show it. -/
def shown : IrqLine → U32
  | .external status => status
  | .uart | .virtio => 0

/-- Both controllers give the same answer whether an interrupt of any context is claimable. -/
def ClaimableAlike [Host] (rust : Plic) (python : Python.Plic) : Prop :=
  ∀ context : U64,
    (rust.claimable (fun line => pure (shown line)) context : Call Unit Bool) =
      pure (python.claimable context.toNat)

/-- Both controllers return the same low 32 bits. -/
def ReadAlike [Host] (address : U64) (rust : Plic) (python : Python.Plic) : Prop :=
  ∃ (v : U64) (w : Int),
    (rust.read (fun line => pure (shown line)) address 4 : Call Unit U64) = pure v ∧
      Python.Plic.read address.toNat 4 python = .ok w python ∧
      (v.setWidth 32 : U32) = BitVec.ofInt 32 w

/-- The claimable answers are the same at every point of the run, and so is what every read
returns. -/
structure RunAlike [Host] (size : U64) (irqs : List U32) (steps : List PlicStep) : Prop where
  claimable : ∀ before, before <+: steps →
    ClaimableAlike (rustRun irqs size before) (pythonRun irqs size before)
  reads : ∀ before address, before ++ [.access (.read address)] <+: steps →
    ReadAlike address (rustRun irqs size before) (pythonRun irqs size before)

/-! ## What is stored -/

def storeStep (value : Register → U64) : PlicAccess → Register → U64
  | .read _ => value
  | .write address v =>
      fun r => if Python.Plic.select address.toNat = some r then v else value r

theorem storeStep_write (value : Register → U64) (address v : U64) (r : Register) :
    storeStep value (.write address v) r =
      if Python.Plic.select address.toNat = some r then v else value r := rfl

/-- The whole value stored last to each register, 0 where none was. -/
def stored (accesses : List PlicAccess) : Register → U64 := accesses.foldl storeStep fun _ => 0

def levelStep (level : U32 → U32) : PlicStep → U32 → U32
  | .lines level' => level'
  | .access _ => level

/-- The lines as they were set last. -/
def levels (steps : List PlicStep) : U32 → U32 := steps.foldl levelStep fun _ => 0

/-- The register of the map that a register of the arrays stands for. -/
def mapKey : Plic.Register → Register
  | .priority irq => .priority irq
  | .enable context => .enable context.val
  | .threshold context => .threshold context.val

/-- The two controllers hold the same lines, and of the same stored values Rust the low halves. -/
structure Holds (irqs : List U32) (level : U32 → U32) (stored : Register → U64) (rust : Plic)
    (python : Python.Plic) : Prop where
  rustLines : rust.devicesByIrq = rustDevices irqs level
  pythonLines : python.devicesByIrq = pythonDevices irqs level
  rustWord : ∀ r, rust.word r = (stored (mapKey r)).setWidth 32
  pythonWord : ∀ r, python.word r = (stored r).toNat
  unused : ∀ r, (∀ r', mapKey r' ≠ r) → stored r = 0

theorem select_mapKey (address : U64) (r : Plic.Register) :
    Plic.select address = some r ↔ Python.Plic.select address.toNat = some (mapKey r) := by
  cases r with
  | priority irq => exact Plic.select_priority_iff.trans python_select_priority.symm
  | enable context =>
      refine Plic.select_enable_iff.trans (Iff.trans ?_ python_select_enable.symm)
      have hcontext := context.isLt
      constructor
      · exact fun h => ⟨context.val, rfl, by omega, h⟩
      · rintro ⟨c, heq, -, h⟩
        rwa [Int.ofNat_inj.mp heq]
  | threshold context =>
      refine Plic.select_threshold_iff.trans (Iff.trans ?_ python_select_threshold.symm)
      constructor
      · exact fun h => ⟨context.val, rfl, h⟩
      · rintro ⟨c, heq, h⟩
        rw [Int.ofNat_inj.mp heq]
        exact h

/-- The guest stores only to registers that the arrays have. -/
theorem Addressed.mapKey {address : U64} (h : Addressed address) {r : Register}
    (hr : Python.Plic.select address.toNat = some r) : ∃ r', mapKey r' = r := by
  have hbase : Plic.CONTEXT_BASE.toNat = 0x200000 := rfl
  have henable : Plic.ENABLE_BASE.toNat = 0x2000 := rfl
  unfold Addressed Plic.EnableBlock at h
  cases r with
  | priority irq => exact ⟨.priority irq, rfl⟩
  | enable context =>
      obtain ⟨c, rfl, hwindow, hblock⟩ := python_select_enable.mp hr
      unfold Plic.EnableBlock at hblock
      have hc : c < 64 := by
        obtain h | ⟨context, h⟩ := h
        · omega
        · have hcontext := context.isLt
          omega
      exact ⟨.enable ⟨c, hc⟩, rfl⟩
  | threshold context =>
      obtain ⟨c, rfl, haddress⟩ := python_select_threshold.mp hr
      have hc : c < 64 := by
        obtain h | ⟨context, h⟩ := h
        · omega
        · have hcontext := context.isLt
          omega
      exact ⟨.threshold ⟨c, hc⟩, rfl⟩

section Simulation

variable {irqs : List U32} {level : U32 → U32} {value : Register → U64} {rust : Plic}
variable {python : Python.Plic}

theorem Holds.lines (holds : Holds irqs level value rust python) (level' : U32 → U32) :
    Holds irqs level' value (rustStep irqs rust (.lines level'))
      (pythonStep irqs python (.lines level')) where
  rustLines := rfl
  pythonLines := rfl
  rustWord r := (by cases r <;> rfl : _ = rust.word r).trans (holds.rustWord r)
  pythonWord r := (by cases r <;> rfl : _ = python.word r).trans (holds.pythonWord r)
  unused := holds.unused

theorem Holds.read (holds : Holds irqs level value rust python) (address : U64) :
    Holds irqs level value rust (pythonStep irqs python (.access (.read address))) := by
  rw [pythonStep, Python.Plic.finish_read]
  exact holds

theorem Holds.write (holds : Holds irqs level value rust python) {address : U64}
    (addressed : Addressed address) (v : U64) :
    Holds irqs level (storeStep value (.write address v))
      (rustStep irqs rust (.access (.write address v)))
      (pythonStep irqs python (.access (.write address v))) where
  rustLines := (Plic.keeps_write address 4 v rust).trans holds.rustLines
  pythonLines := by
    rw [pythonStep, Python.Plic.devices_write]
    exact holds.pythonLines
  rustWord r := by
    rw [rustStep, Plic.finish_write]
    refine (Plic.word_store address (v.setWidth 32) rust r).trans ?_
    rw [holds.rustWord, storeStep_write, apply_ite (BitVec.setWidth 32)]
    exact if_congr (select_mapKey address r) rfl rfl
  pythonWord r := by
    rw [pythonStep, Python.Plic.finish_write, Python.Plic.bank_store, Python.Plic.word_store,
      holds.pythonWord, storeStep_write]
    split <;> rfl
  unused r hr := by
    have hselect : Python.Plic.select address.toNat ≠ some r := by
      intro h
      obtain ⟨r', hr'⟩ := addressed.mapKey h
      exact hr r' hr'
    rw [storeStep_write, if_neg hselect, holds.unused r hr]

theorem rustStart_eq (irqs : List U32) (size : U64) :
    rustStart irqs size =
      { Plic.new size with devicesByIrq := rustDevices irqs fun _ => 0 } := by
  suffices h : ∀ plic : Plic, irqs.foldl (fun plic irq => plic.registerIrq irq (.external 0)) plic =
      { plic with devicesByIrq := plic.devicesByIrq ++ rustDevices irqs fun _ => 0 } from h _
  induction irqs with
  | nil =>
      intro plic
      simp [rustDevices]
  | cons irq irqs ih =>
      intro plic
      rw [List.foldl_cons, ih]
      simp [rustDevices, Plic.registerIrq]

theorem holds_start (irqs : List U32) (size : U64) :
    Holds irqs (fun _ => 0) (fun _ => 0) (rustStart irqs size) (pythonStart irqs size) where
  rustLines := by rw [rustStart_eq]
  pythonLines := rfl
  rustWord r := by
    rw [rustStart_eq]
    cases r <;> rfl
  pythonWord r := by cases r <;> rfl
  unused _ _ := rfl

/-- Over a run the controllers keep holding the same. -/
theorem holds_run (irqs : List U32) (size : U64) (steps : List PlicStep)
    (addressed : ∀ a ∈ steps.filterMap PlicStep.guest, Addressed a.address) :
    Holds irqs (levels steps) (stored (steps.filterMap PlicStep.guest)) (rustRun irqs size steps)
      (pythonRun irqs size steps) := by
  induction steps using List.reverseRecOn with
  | nil => exact holds_start irqs size
  | append_singleton steps step ih =>
      rw [List.filterMap_append] at addressed ⊢
      have holds := ih fun a ha => addressed a (List.mem_append_left _ ha)
      unfold levels stored rustRun pythonRun at holds ⊢
      simp only [List.foldl_append, List.foldl_cons, List.foldl_nil]
      cases step with
      | lines level => exact holds.lines level
      | access a =>
          rw [List.filterMap_cons_some (f := PlicStep.guest) rfl, List.filterMap_nil,
            List.foldl_cons, List.foldl_nil]
          cases a with
          | read address => exact holds.read address
          | write address v =>
              have haddress := addressed (.write address v)
                (List.mem_append_right _ List.mem_cons_self)
              exact holds.write haddress v

/-! ## Claims -/

/-- The answer of a claim. -/
def code (found : Option (Fin 32)) : U32 := found.elim 0 fun i => BitVec.ofNat 32 i.val

theorem land_one_ne_zero (x : U32) : Int.land x.toNat 1 ≠ 0 ↔ x &&& 1 ≠ 0 := by
  have hpow : (2 : Int) ^ 0 = 1 := rfl
  have hbit : (Bits.bit 0 : U32) = 1 := rfl
  rw [← hpow, Python.Plic.land_flag_ne_zero, ← hbit, Bits.and_bit_ne_zero]
  rfl

theorem exists_mem_map {α β : Type} {p : β → Prop} {f : α → β} {xs : List α} :
    (∃ y ∈ xs.map f, p y) ↔ ∃ x ∈ xs, p (f x) := by
  simp only [List.mem_map, exists_exists_and_eq_and]

/-- The line of `irq` is high. -/
def Raised (irqs : List U32) (level : U32 → U32) (irq : Nat) : Prop :=
  ∃ r ∈ irqs, r.toNat = irq ∧ level r &&& 1 ≠ 0

/-- The line of `irq` is high and the context has enabled it. -/
def Requests (irqs : List U32) (level : U32 → U32) (value : Register → U64) (context : Nat)
    (irq : Fin 32) : Prop :=
  Raised irqs level irq.val ∧ (value (.enable context)).getLsbD irq.val

theorem Holds.value_eq_zero (holds : Holds irqs level value rust python) {context : U64}
    (h : ¬context.toNat < 64) :
    value (.enable context.toNat) = 0 ∧ value (.threshold context.toNat) = 0 := by
  constructor
  · refine holds.unused _ fun r hr => ?_
    cases r with
    | enable c =>
        have hc := c.isLt
        have heq : (c.val : Int) = context.toNat := Register.enable.inj hr
        omega
    | priority irq => cases hr
    | threshold c => cases hr
  · refine holds.unused _ fun r hr => ?_
    cases r with
    | threshold c =>
        have hc := c.isLt
        have heq : (c.val : Int) = context.toNat := Register.threshold.inj hr
        omega
    | priority irq => cases hr
    | enable c => cases hr

theorem Holds.enableGet (holds : Holds irqs level value rust python) (context : U64) :
    rust.enableGet context = (value (.enable context.toNat)).setWidth 32 := by
  unfold Plic.enableGet Plic.slot
  by_cases h : context.toNat < 64
  · rw [dif_pos h]
    exact holds.rustWord (.enable ⟨context.toNat, h⟩)
  · rw [dif_neg h, (holds.value_eq_zero h).1]
    rfl

theorem Holds.thresholdGet (holds : Holds irqs level value rust python) (context : U64) :
    rust.thresholdGet context = (value (.threshold context.toNat)).setWidth 32 := by
  unfold Plic.thresholdGet Plic.slot
  by_cases h : context.toNat < 64
  · rw [dif_pos h]
    exact holds.rustWord (.threshold ⟨context.toNat, h⟩)
  · rw [dif_neg h, (holds.value_eq_zero h).2]
    rfl

theorem irq_total (i j : Fin 32) : i = j ∨ i < j ∨ j < i := by
  rw [Fin.ext_iff, Fin.lt_def, Fin.lt_def]
  omega

/-- Rust arbitrates between the low halves. -/
theorem Holds.rust_found [Host] (holds : Holds irqs level value rust python)
    (registered : ∀ irq ∈ irqs, irq.toNat < 32) (context : U64) :
    ∃ found : Option (Fin 32),
      (rust.claimIrq (fun line => pure (shown line)) context : Call Unit U32) =
        pure (code found) ∧
      Arbiter.Found (Requests irqs level value context.toNat)
        (fun i => (value (.priority i)).setWidth 32 : Fin 32 → U32)
        ((value (.threshold context.toNat)).setWidth 32) Plic.irqs found := by
  have registered' : rust.Registered := by
    unfold Plic.Registered
    rw [holds.rustLines]
    exact List.forall_mem_map.mpr registered
  obtain ⟨best, hclaim, houtcome⟩ := Plic.claimIrq_outcome (σ := Unit) registered' shown context
  obtain ⟨found, hbest, hfound⟩ := houtcome.found
  refine ⟨found, hclaim.trans (congrArg _ hbest), ?_⟩
  have heligible : (fun i : Fin 32 =>
      rust.Pending shown i.val ∧ (rust.enableGet context).getLsbD i.val) =
      Requests irqs level value context.toNat := by
    funext i
    unfold Requests Raised Plic.Pending
    rw [holds.rustLines, rustDevices, exists_mem_map, holds.enableGet, BitVec.getLsbD_setWidth,
      decide_eq_true i.isLt, Bool.true_and]
    rfl
  have hpriority : rust.priority = fun i => (value (.priority i)).setWidth 32 :=
    funext fun i => holds.rustWord (.priority i)
  rw [heligible, hpriority, holds.thresholdGet] at hfound
  exact hfound

/-- Python arbitrates between the whole values. -/
theorem Holds.python_found (holds : Holds irqs level value rust python) (context : U64) :
    ∃ found : Option (Fin 32),
      python.claimIrq context.toNat = (found.elim 0 fun i => (i.val : Int)) ∧
      Arbiter.Found (Requests irqs level value context.toNat) (fun i => value (.priority i))
        (value (.threshold context.toNat)) Plic.irqs found := by
  obtain ⟨found, hclaim, hfound⟩ := python.claimIrq_found context.toNat
  refine ⟨found, hclaim, ?_⟩
  have heligible : (fun i : Fin 32 =>
      python.Pending i.val ∧ Int.testBit (dictGet python.enable context.toNat) i.val) =
      Requests irqs level value context.toNat := by
    funext i
    have henable : dictGet python.enable context.toNat = (value (.enable context.toNat)).toNat :=
      holds.pythonWord (.enable context.toNat)
    unfold Requests Raised Python.Plic.Pending
    rw [holds.pythonLines, pythonDevices, exists_mem_map, henable]
    simp only [land_one_ne_zero]
    rfl
  have hpriority : python.priority = fun i => ((value (.priority i)).toNat : Int) :=
    funext fun i => holds.pythonWord (.priority i)
  have hthreshold : dictGet python.threshold context.toNat =
      (value (.threshold context.toNat)).toNat := holds.pythonWord (.threshold context.toNat)
  rw [heligible, hpriority, hthreshold] at hfound
  refine hfound.transfer irq_total (fun i _ _ => ?_) fun i _ j _ _ _ _ _ _ => ?_
  · exact Int.ofNat_lt
  · exact Int.ofNat_lt

end Simulation

/-! ## What the upper halves decide -/

/-- The low halves of two values compare as the values do. -/
def SameOrder (v w : U64) : Prop := v < w ↔ (v.setWidth 32 : U32) < w.setWidth 32

/-- `irq` belongs to a device and the context has enabled it. -/
structure Routed (irqs : List U32) (value : Register → U64) (context : U64) (irq : Fin 32) :
    Prop where
  nonzero : irq ≠ 0
  device : ∃ r ∈ irqs, r.toNat = irq.val
  enabled : (value (.enable context.toNat)).getLsbD irq.val

/-- The priority of every irq compares with the threshold as the low halves do. -/
def ThresholdsKept (irqs : List U32) (value : Register → U64) : Prop :=
  ∀ (context : U64) (irq : Fin 32), Routed irqs value context irq →
    SameOrder (value (.threshold context.toNat)) (value (.priority irq))

/-- The priorities of the irqs above the threshold compare as their low halves do. -/
def PrioritiesKept (irqs : List U32) (value : Register → U64) (context : U64) : Prop :=
  ∀ i j : Fin 32, i < j → Routed irqs value context i → Routed irqs value context j →
    value (.threshold context.toNat) < value (.priority i) →
    value (.threshold context.toNat) < value (.priority j) →
    SameOrder (value (.priority i)) (value (.priority j))

theorem ofInt_code (found : Option (Fin 32)) :
    BitVec.ofInt 32 (found.elim 0 fun i => (i.val : Int)) = code found := by
  cases found with
  | none => rfl
  | some i => exact BitVec.ofInt_natCast 32 i.val

section Exact

variable {irqs : List U32} {level : U32 → U32} {value : Register → U64} {rust : Plic}
variable {python : Python.Plic} {eligible : Fin 32 → Prop} {found found' : Option (Fin 32)}
variable {π π' : Type} [LE π] [LT π] [LE π'] [LT π'] {priority : Fin 32 → π}
variable {priority' : Fin 32 → π'} {threshold : π} {threshold' : π'}

theorem Requests.routed {context : U64} {irq : Fin 32}
    (h : Requests irqs level value context.toNat irq) (hirq : irq ≠ 0) :
    Routed irqs value context irq := by
  obtain ⟨⟨r, hmem, hr, -⟩, henabled⟩ := h
  exact ⟨hirq, ⟨r, hmem, hr⟩, henabled⟩

theorem found_nonzero (h : Arbiter.Found eligible priority threshold Plic.irqs found) :
    found ≠ some 0 := by
  rintro rfl
  exact Plic.mem_irqs.mp h.mem rfl

theorem code_eq_zero (h : found ≠ some 0) : code found = 0 ↔ found = none := by
  cases found with
  | none => exact iff_of_true rfl rfl
  | some i =>
      refine iff_of_false (fun hcode => ?_) (by simp)
      exact h (congrArg some (Plic.irq_of_ofNat_eq (j := 0) hcode))

theorem code_inj (h : found ≠ some 0) (h' : found' ≠ some 0) (hcode : code found = code found') :
    found = found' := by
  cases found' with
  | none => exact (code_eq_zero h).mp hcode
  | some j =>
      cases found with
      | none => exact ((code_eq_zero h').mp hcode.symm).symm
      | some i => exact congrArg some (Plic.irq_of_ofNat_eq hcode)

variable [Host]

/-- An interrupt is claimable alike exactly if both find one. -/
theorem claimable_iff {context : U64}
    (hrust : (rust.claimIrq (fun line => pure (shown line)) context : Call Unit U32) =
      pure (code found))
    (hpython : python.claimIrq context.toNat = found'.elim 0 fun i => (i.val : Int))
    (h : found ≠ some 0) (h' : found' ≠ some 0) :
    (rust.claimable (fun line => pure (shown line)) context : Call Unit Bool) =
        pure (python.claimable context.toNat) ↔ (found.isSome ↔ found'.isSome) := by
  have hleft : (code found != 0) = found.isSome := by
    rw [Bool.eq_iff_iff, bne_iff_ne, Ne, code_eq_zero h, Option.isSome_iff_ne_none]
  have hright : python.claimable context.toNat = found'.isSome := by
    unfold Python.Plic.claimable
    rw [hpython, Bool.eq_iff_iff, bne_iff_ne]
    cases found' with
    | none => simp
    | some i =>
        have hi : i.val ≠ 0 := fun hi => h' (congrArg some (Fin.ext hi))
        simpa using hi
  rw [Plic.claimable, hrust, pure_bind, hleft, hright, ← Bool.eq_iff_iff]
  exact ⟨fun heq => EStateM.Result.ok.inj (congrFun heq ()) |>.1, fun heq => by rw [heq]⟩

/-- A claim register is read alike exactly if both find the same. -/
theorem readAlike_claim_iff {address : U64} (hclaim : Plic.ClaimRegister address)
    (hrust : (rust.claimIrq (fun line => pure (shown line)) (Plic.contextOf address) :
      Call Unit U32) = pure (code found))
    (hpython : python.claimIrq (Plic.contextOf address).toNat =
      found'.elim 0 fun i => (i.val : Int))
    (h : found ≠ some 0) (h' : found' ≠ some 0) :
    ReadAlike address rust python ↔ found = found' := by
  have hlow (k : U32) : ((k.setWidth 64 : U64).setWidth 32 : U32) = k := by
    rw [BitVec.setWidth_setWidth_of_le _ (by decide), BitVec.setWidth_eq]
  have hleft : (rust.read (fun line => pure (shown line)) address 4 : Call Unit U64) =
      pure ((code found).setWidth 64) := by
    rw [Plic.read_claimRegister hclaim, hrust, pure_bind]
  have hright : Python.Plic.read address.toNat 4 python =
      .ok (found'.elim 0 fun i => (i.val : Int)) python := by
    rw [Python.Plic.read_claimRegister (claimRegister_iff.mp hclaim), ← contextOf_toNat hclaim,
      hpython]
  constructor
  · rintro ⟨v, w, hv, hw, heq⟩
    have hv := (EStateM.Result.ok.inj (congrFun (hleft.symm.trans hv) ())).1
    have hw := (EStateM.Result.ok.inj (hright.symm.trans hw)).1
    rw [← hv, ← hw, ofInt_code, hlow] at heq
    exact code_inj h h' heq
  · rintro rfl
    exact ⟨_, _, hleft, hright, by rw [hlow, ofInt_code]⟩

/-- Away from the claim registers both return the low half of the value stored last. -/
theorem Holds.readAlike (holds : Holds irqs level value rust python) {address : U64}
    (hclaim : ¬Plic.ClaimRegister address) : ReadAlike address rust python := by
  refine ⟨_, _, Plic.read_eq_load hclaim rust _,
    Python.Plic.read_eq_load (mt claimRegister_iff.mpr hclaim) python, ?_⟩
  rw [BitVec.setWidth_setWidth_of_le _ (by decide), BitVec.setWidth_eq]
  unfold Bank.load
  rw [Python.Plic.bank_select]
  change ((Plic.select address).map rust.word).getD 0 = _
  cases hpython : Python.Plic.select address.toNat with
  | none =>
      have hrust : Plic.select address = none := by
        refine Option.eq_none_iff_forall_ne_some.mpr fun r hr => ?_
        rw [select_mapKey, hpython] at hr
        cases hr
      rw [hrust]
      rfl
  | some r =>
      by_cases hr : ∃ r', mapKey r' = r
      · obtain ⟨r', rfl⟩ := hr
        rw [(select_mapKey address r').mpr hpython]
        change rust.word r' = BitVec.ofInt 32 (python.word (mapKey r'))
        rw [holds.rustWord, holds.pythonWord, BitVec.ofInt_natCast]
        rfl
      · have hrust : Plic.select address = none := by
          refine Option.eq_none_iff_forall_ne_some.mpr fun r' hr' => ?_
          rw [select_mapKey, hpython] at hr'
          exact hr ⟨r', (Option.some.inj hr').symm⟩
        rw [hrust]
        change 0 = BitVec.ofInt 32 (python.word r)
        rw [holds.pythonWord, holds.unused r fun r' h => hr ⟨r', h⟩]
        rfl

/-- Where the threshold orders its irqs alike, both find one or neither does. -/
theorem Holds.claimableAlike (holds : Holds irqs level value rust python)
    (registered : ∀ irq ∈ irqs, irq.toNat < 32) (kept : ThresholdsKept irqs value) :
    ClaimableAlike rust python := by
  intro context
  obtain ⟨found, hrust, hfound⟩ := holds.rust_found registered context
  obtain ⟨found', hpython, hfound'⟩ := holds.python_found context
  refine (claimable_iff hrust hpython (found_nonzero hfound) (found_nonzero hfound')).mpr ?_
  rw [hfound.isSome_iff, hfound'.isSome_iff]
  refine exists_congr fun i => and_congr_right fun hi => and_congr_right fun hrequests => ?_
  exact (kept context i (hrequests.routed (Plic.mem_irqs.mp hi))).symm

/-- Where the priorities above it are ordered alike too, both find the same. -/
theorem Holds.readAlike_claim (holds : Holds irqs level value rust python)
    (registered : ∀ irq ∈ irqs, irq.toNat < 32) (kept : ThresholdsKept irqs value) {address : U64}
    (hclaim : Plic.ClaimRegister address)
    (priorities : PrioritiesKept irqs value (Plic.contextOf address)) :
    ReadAlike address rust python := by
  obtain ⟨found, hrust, hfound⟩ := holds.rust_found registered (Plic.contextOf address)
  obtain ⟨found', hpython, hfound'⟩ := holds.python_found (Plic.contextOf address)
  refine (readAlike_claim_iff hclaim hrust hpython (found_nonzero hfound)
    (found_nonzero hfound')).mpr ?_
  refine hfound.unique (hfound'.transfer irq_total (fun i hi hrequests => ?_)
    fun i hi j hj hi' hj' habove habove' hlt => ?_)
  · exact kept _ i (hrequests.routed (Plic.mem_irqs.mp hi))
  · exact priorities i j hlt (hi'.routed (Plic.mem_irqs.mp hi))
      (hj'.routed (Plic.mem_irqs.mp hj)) habove habove'

end Exact

/-! ## Chosen lines -/

section Lines

variable [Host] {size : U64} {irqs : List U32} {accesses before rest : List PlicAccess}

/-- The lines of the irqs in `raised` are high, all others low. -/
def only (raised : List (Fin 32)) : U32 → U32 :=
  fun r => if ∃ i ∈ raised, r.toNat = i.val then 1 else 0

omit [Host] in
theorem requests_only {value : Register → U64} {context : U64} (raised : List (Fin 32))
    (routed : ∀ i ∈ raised, Routed irqs value context i) (j : Fin 32) :
    Requests irqs (only raised) value context.toNat j ↔ j ∈ raised := by
  have hlevel (r : U32) : only raised r &&& 1 ≠ 0 ↔ ∃ i ∈ raised, r.toNat = i.val := by
    unfold only
    split
    next h => exact iff_of_true (by decide) h
    next h => exact iff_of_false (by decide) h
  constructor
  · rintro ⟨⟨r, -, hr, hhigh⟩, -⟩
    obtain ⟨i, hi, hri⟩ := (hlevel r).mp hhigh
    rwa [Fin.ext (hr.symm.trans hri)]
  · intro hj
    obtain ⟨-, ⟨r, hmem, hr⟩, henabled⟩ := routed j hj
    exact ⟨⟨r, hmem, hr, (hlevel r).mpr ⟨j, hj, hr⟩⟩, henabled⟩

/-- The run that sets the lines after the accesses `before`. -/
def withLines (before : List PlicAccess) (level : U32 → U32) : List PlicStep :=
  before.map .access ++ [.lines level]

omit [Host] in
theorem guest_withLines (before rest : List PlicAccess) (level : U32 → U32) :
    (withLines before level ++ rest.map PlicStep.access).filterMap PlicStep.guest =
      before ++ rest := by
  have hmap (accesses : List PlicAccess) :
      (accesses.map PlicStep.access).filterMap PlicStep.guest = accesses := by
    rw [List.filterMap_map]
    exact List.filterMap_some
  rw [withLines, List.filterMap_append, List.filterMap_append, hmap, hmap]
  simp [PlicStep.guest]

omit [Host] in
theorem holds_withLines (irqs : List U32) (size : U64) {before : List PlicAccess}
    (addressed : ∀ a ∈ before, Addressed a.address) (level : U32 → U32) :
    Holds irqs level (stored before) (rustRun irqs size (withLines before level))
      (pythonRun irqs size (withLines before level)) := by
  have hguest := guest_withLines before [] level
  rw [List.map_nil, List.append_nil, List.append_nil] at hguest
  have hlevels : levels (withLines before level) = level := by
    unfold levels withLines
    rw [List.foldl_append]
    rfl
  have holds := holds_run irqs size (withLines before level) (by rwa [hguest])
  rwa [hguest, hlevels] at holds

/-- Both emulators agree over every run with these accesses. -/
def Refines (size : U64) (irqs : List U32) (accesses : List PlicAccess) : Prop :=
  ∀ steps : List PlicStep, steps.filterMap PlicStep.guest = accesses → RunAlike size irqs steps

/-- If the claimable answers agree, the thresholds order their irqs alike: raise one line. -/
theorem thresholdsKept_of_refines (registered : ∀ irq ∈ irqs, irq.toNat < 32)
    (addressed : ∀ a ∈ before ++ rest, Addressed a.address)
    (refines : Refines size irqs (before ++ rest)) : ThresholdsKept irqs (stored before) := by
  intro context irq routed
  have holds := holds_withLines irqs size
    (fun a ha => addressed a (List.mem_append_left _ ha)) (only [irq])
  have halike := (refines _ (guest_withLines before rest (only [irq]))).claimable _
    (List.prefix_append _ _) context
  obtain ⟨found, hrust, hfound⟩ := holds.rust_found registered context
  obtain ⟨found', hpython, hfound'⟩ := holds.python_found context
  rw [claimable_iff hrust hpython (found_nonzero hfound) (found_nonzero hfound'),
    hfound.isSome_iff, hfound'.isSome_iff] at halike
  have hrequests := requests_only [irq] (List.forall_mem_singleton.mpr routed)
  simp only [hrequests, List.mem_singleton] at halike
  have hsingle (p : Fin 32 → Prop) : (∃ i ∈ Plic.irqs, i = irq ∧ p i) ↔ p irq := by
    constructor
    · rintro ⟨i, -, rfl, h⟩
      exact h
    · exact fun h => ⟨irq, Plic.mem_irqs.mpr routed.nonzero, rfl, h⟩
  rw [hsingle, hsingle] at halike
  exact halike.symm

/-- If the claims agree too, the priorities are ordered alike: raise two lines. -/
theorem prioritiesKept_of_refines {address : U64} (registered : ∀ irq ∈ irqs, irq.toNat < 32)
    (addressed : ∀ a ∈ before ++ .read address :: rest, Addressed a.address)
    (refines : Refines size irqs (before ++ .read address :: rest))
    (hclaim : Plic.ClaimRegister address) :
    PrioritiesKept irqs (stored before) (Plic.contextOf address) := by
  intro i j hlt hi hj habove habove'
  have kept := thresholdsKept_of_refines registered addressed refines
  have holds := holds_withLines irqs size
    (fun a ha => addressed a (List.mem_append_left _ ha)) (only [i, j])
  have hreads := (refines _ (guest_withLines before (.read address :: rest) (only [i, j]))).reads
    (withLines before (only [i, j])) address
  rw [List.map_cons, List.append_cons _ _ (rest.map PlicStep.access)] at hreads
  have halike := hreads (List.prefix_append _ _)
  obtain ⟨found, hrust, hfound⟩ := holds.rust_found registered (Plic.contextOf address)
  obtain ⟨found', hpython, hfound'⟩ := holds.python_found (Plic.contextOf address)
  rw [readAlike_claim_iff hclaim hrust hpython (found_nonzero hfound)
    (found_nonzero hfound')] at halike
  have hrequests (k : Fin 32) : Requests irqs (only [i, j]) (stored before)
      (Plic.contextOf address).toNat k ↔ k = i ∨ k = j := by
    rw [requests_only [i, j] (List.forall_mem_cons.mpr ⟨hi, List.forall_mem_singleton.mpr hj⟩),
      List.mem_cons, List.mem_singleton]
  have hmem := Plic.mem_irqs.mpr hi.nonzero
  have hmem' := Plic.mem_irqs.mpr hj.nonzero
  have hpair := hfound.pair hmem hmem' hrequests hlt ((kept _ i hi).mp habove)
  have hpair' := hfound'.pair hmem hmem' hrequests hlt habove
  rw [halike] at hpair
  exact hpair'.symm.trans hpair

end Lines

/-- In every state the thresholds and, where a claim is read, the priorities compare as their low
halves do. -/
structure OrderKept (irqs : List U32) (accesses : List PlicAccess) : Prop where
  thresholds : ∀ before, before <+: accesses → ThresholdsKept irqs (stored before)
  priorities : ∀ before address, before ++ [.read address] <+: accesses →
    Plic.ClaimRegister address → PrioritiesKept irqs (stored before) (Plic.contextOf address)

section Refinement

variable {irqs : List U32} {accesses : List PlicAccess}

/-! ## Stores of 32 bits -/

theorem sameOrder_of_small {v w : U64} (hv : v.toNat < 2 ^ 32) (hw : w.toNat < 2 ^ 32) :
    SameOrder v w := by
  unfold SameOrder
  rw [BitVec.lt_def, BitVec.lt_def, BitVec.toNat_setWidth, BitVec.toNat_setWidth,
    Nat.mod_eq_of_lt hv, Nat.mod_eq_of_lt hw]

theorem stored_small (small : ∀ address v, .write address v ∈ accesses → v.toNat < 2 ^ 32)
    (r : Register) : (stored accesses r).toNat < 2 ^ 32 := by
  induction accesses using List.reverseRecOn with
  | nil => exact Nat.two_pow_pos 32
  | append_singleton accesses a ih =>
      have hlast := ih fun address v h => small address v (List.mem_append_left _ h)
      unfold stored at hlast ⊢
      rw [List.foldl_append, List.foldl_cons, List.foldl_nil]
      cases a with
      | read address => exact hlast
      | write address v =>
          rw [storeStep_write]
          split
          · exact small address v (List.mem_append_right _ List.mem_cons_self)
          · exact hlast

/-- A guest that stores 32-bit values keeps every order. -/
theorem orderKept_of_small (irqs : List U32)
    (small : ∀ address v, .write address v ∈ accesses → v.toNat < 2 ^ 32) :
    OrderKept irqs accesses := by
  have hstored {before : List PlicAccess} (h : before <+: accesses) (r : Register) :=
    stored_small (fun address v hv => small address v (h.subset hv)) r
  refine ⟨fun before h context irq _ => ?_, fun before address h _ i j _ _ _ _ _ => ?_⟩
  · exact sameOrder_of_small (hstored h _) (hstored h _)
  · have hstart := (List.prefix_append before [.read address]).trans h
    exact sameOrder_of_small (hstored hstart _) (hstored hstart _)

/-! ## Refinement -/

theorem refines_of_orderKept [Host] (size : U64) (registered : ∀ irq ∈ irqs, irq.toNat < 32)
    (addressed : ∀ a ∈ accesses, Addressed a.address) (kept : OrderKept irqs accesses) :
    Refines size irqs accesses := by
  rintro steps rfl
  have hholds {before : List PlicStep} (hbefore : before <+: steps) :=
    holds_run irqs size before fun a ha =>
      addressed a ((hbefore.filterMap PlicStep.guest).subset ha)
  refine ⟨fun before hbefore => ?_, fun before address hbefore => ?_⟩
  · exact (hholds hbefore).claimableAlike registered
      (kept.thresholds _ (hbefore.filterMap PlicStep.guest))
  · have hstart := (List.prefix_append before [.access (.read address)]).trans hbefore
    by_cases hclaim : Plic.ClaimRegister address
    · have hread := hbefore.filterMap PlicStep.guest
      rw [List.filterMap_append] at hread
      exact (hholds hstart).readAlike_claim registered
        (kept.thresholds _ (hstart.filterMap PlicStep.guest)) hclaim
        (kept.priorities _ _ hread hclaim)
    · exact (hholds hstart).readAlike hclaim

/-- So the two controllers agree on every guest that stores 32-bit values. -/
theorem refines_of_small [Host] (size : U64) (registered : ∀ irq ∈ irqs, irq.toNat < 32)
    (addressed : ∀ a ∈ accesses, Addressed a.address)
    (small : ∀ address v, .write address v ∈ accesses → v.toNat < 2 ^ 32) :
    Refines size irqs accesses :=
  refines_of_orderKept size registered addressed (orderKept_of_small irqs small)

/-- The controllers agree over every run with some accesses exactly if those keep the orders. -/
theorem refines_iff [Host] (size : U64) (registered : ∀ irq ∈ irqs, irq.toNat < 32)
    (addressed : ∀ a ∈ accesses, Addressed a.address) :
    Refines size irqs accesses ↔ OrderKept irqs accesses := by
  refine ⟨fun refines => ⟨?_, ?_⟩, refines_of_orderKept size registered addressed⟩
  · rintro before ⟨rest, rfl⟩
    exact thresholdsKept_of_refines registered addressed refines
  · rintro before address ⟨rest, rfl⟩ hclaim
    rw [List.append_assoc] at addressed refines
    exact prioritiesKept_of_refines registered addressed refines hclaim

end Refinement

section Example

/-- Irq 1 gets a priority, is enabled for context 1 and claimed there. -/
def claimOne (priority : U64) : List PlicAccess :=
  [.write 0x4 priority, .write 0x2080 0x2, .read 0x201004]

theorem addressed_claimOne (priority : U64) : ∀ a ∈ claimOne priority, Addressed a.address := by
  have hpriority : Addressed 0x4 := .inl (by decide)
  have henable : Addressed 0x2080 := .inr ⟨1, .inl ⟨by decide, by decide⟩⟩
  have hclaim : Addressed 0x201004 := .inr ⟨1, .inr (.inr rfl)⟩
  refine List.forall_mem_cons.mpr ⟨hpriority, List.forall_mem_cons.mpr ⟨henable, ?_⟩⟩
  exact List.forall_mem_singleton.mpr hclaim

theorem refines_claimOne : @Refines .dev 0x400000 [1] (claimOne 1) := by
  have registered : ∀ irq ∈ ([1] : List U32), irq.toNat < 32 :=
    List.forall_mem_singleton.mpr (by decide)
  refine (@refines_iff [1] (claimOne 1) .dev 0x400000 registered (addressed_claimOne 1)).mpr ?_
  refine orderKept_of_small [1] fun address v h => ?_
  simp only [claimOne, List.mem_cons, PlicAccess.write.injEq, List.not_mem_nil, reduceCtorEq,
    or_false] at h
  obtain ⟨-, rfl⟩ | ⟨-, rfl⟩ := h
  · decide
  · decide

/-- A priority of which only the upper half is set: Rust stores 0 and claims nothing. -/
theorem not_refines_wide : (∀ a ∈ claimOne 0x100000000, Addressed a.address) ∧
    ¬@Refines .dev 0x400000 [1] (claimOne 0x100000000) := by
  let : Host := .dev
  refine ⟨addressed_claimOne _, fun refines => ?_⟩
  have hrun := refines (.lines (fun _ => 1) :: (claimOne 0x100000000).map .access) rfl
  have hclaimable := congrFun (hrun.claimable _ (List.prefix_refl _) 1) ()
  have hrust : (Plic.claimable (rustRun [1] 0x400000
      (.lines (fun _ => 1) :: (claimOne 0x100000000).map .access))
      (fun line => pure (shown line)) 1 : Call Unit Bool) () = .ok false () := rfl
  have hpython : Python.Plic.claimable (pythonRun [1] 0x400000
      (.lines (fun _ => 1) :: (claimOne 0x100000000).map .access)) (1 : U64).toNat = true := by
    decide
  rw [hrust, hpython] at hclaimable
  cases hclaimable

end Example

end Riscvm.Lockstep
