import Riscvm.Foundation.Arbiter
import Riscvm.Foundation.Bank
import Riscvm.Python.Utils

/-!
# The interrupt controller in Python

`plic.py`. Unlike its Rust port it keeps enable words and thresholds in dictionaries, for any
context, and stores values as they come.
-/

namespace Riscvm.Python

open Exec

/-- `devicesByIrq` lists the irqs of the devices with the `interrupt_status` each has now. -/
structure Plic where
  size : Int
  devicesByIrq : List (Nat × Int)
  priority : Fin 32 → Int
  enable : Int → Option Int
  threshold : Int → Option Int

namespace Plic

def PRIORITY_BASE : Int := 0x0
def PRIORITY_END : Int := 0x1000
def ENABLE_BASE : Int := 0x2000
def ENABLE_END : Int := 0x1f2000
def ENABLE_STRIDE : Int := 0x80
def CONTEXT_BASE : Int := 0x200000
def CONTEXT_STRIDE : Int := 0x1000
def THRESHOLD_OFFSET : Int := 0x0
def CLAIM_OFFSET : Int := 0x4
def MAX_IRQ : Nat := 32

def new (size : Int) (devicesByIrq : List (Nat × Int)) : Plic :=
  ⟨size, devicesByIrq, fun _ => 0, fun _ => none, fun _ => none⟩

/-- `d.get(k, 0)`. -/
def dictGet (d : Int → Option Int) (k : Int) : Int := (d k).getD 0

/-- `d[k] = value`. -/
def dictSet (d : Int → Option Int) (k value : Int) : Int → Option Int :=
  fun k' => if k' = k then some value else d k'

def pendingMask (plic : Plic) : Int :=
  plic.devicesByIrq.foldl (fun mask device =>
    if Int.land device.2 1 ≠ 0 then Int.lor mask (2 ^ device.1) else mask) 0

/-- The loop over irqs 1 to 31: the running best irq and its priority. -/
def bestIrq (plic : Plic) (candidates threshold : Int) : Int × Int :=
  ((List.finRange MAX_IRQ).drop 1).foldl (fun best irq =>
    if Int.land candidates (2 ^ irq.val) ≠ 0 ∧ best.2 < plic.priority irq then
      (irq.val, plic.priority irq)
    else best) (0, threshold)

def claimIrq (plic : Plic) (context : Int) : Int :=
  let candidates := Int.land plic.pendingMask (dictGet plic.enable context)
  (plic.bestIrq candidates (dictGet plic.threshold context)).1

def claimable (plic : Plic) (context : Int) : Bool := plic.claimIrq context != 0

def read (address size : Int) : Call Plic Int := do
  assert (size = 4)
  let plic ← get
  if PRIORITY_BASE ≤ address ∧ address < PRIORITY_END then
    let irq := address / 4
    return if h : irq.toNat < 32 then plic.priority ⟨irq.toNat, h⟩ else 0
  else if ENABLE_BASE ≤ address ∧ address < ENABLE_END then
    return dictGet plic.enable ((address - ENABLE_BASE) / ENABLE_STRIDE)
  else if CONTEXT_BASE ≤ address then
    let context := (address - CONTEXT_BASE) / CONTEXT_STRIDE
    let offset := (address - CONTEXT_BASE) % CONTEXT_STRIDE
    if offset = THRESHOLD_OFFSET then return dictGet plic.threshold context
    else if offset = CLAIM_OFFSET then return plic.claimIrq context
    else return 0
  else return 0

def write (address size value : Int) : Call Plic Unit := do
  assert (size = 4)
  if PRIORITY_BASE ≤ address ∧ address < PRIORITY_END then
    let irq := address / 4
    modify fun plic =>
      { plic with priority := fun j => if (j.val : Int) = irq then value else plic.priority j }
  else if ENABLE_BASE ≤ address ∧ address < ENABLE_END then
    modify fun plic =>
      { plic with enable := dictSet plic.enable ((address - ENABLE_BASE) / ENABLE_STRIDE) value }
  else if CONTEXT_BASE ≤ address then
    let context := (address - CONTEXT_BASE) / CONTEXT_STRIDE
    let offset := (address - CONTEXT_BASE) % CONTEXT_STRIDE
    -- a write to the claim register is "complete", a no-op
    if offset = THRESHOLD_OFFSET then
      modify fun plic => { plic with threshold := dictSet plic.threshold context value }
    else return ()
  else return ()

/-- The words that the controller stores. -/
inductive Register where
  | priority (irq : Fin 32)
  | enable (context : Int)
  | threshold (context : Int)
  deriving DecidableEq

def word (plic : Plic) : Register → Int
  | .priority irq => plic.priority irq
  | .enable context => dictGet plic.enable context
  | .threshold context => dictGet plic.threshold context

/-- The word that an address selects. -/
def select (address : Int) : Option Register :=
  if PRIORITY_BASE ≤ address ∧ address < PRIORITY_END then
    if h : (address / 4).toNat < 32 then some (.priority ⟨(address / 4).toNat, h⟩) else none
  else if ENABLE_BASE ≤ address ∧ address < ENABLE_END then
    some (.enable ((address - ENABLE_BASE) / ENABLE_STRIDE))
  else if CONTEXT_BASE ≤ address ∧ (address - CONTEXT_BASE) % CONTEXT_STRIDE = THRESHOLD_OFFSET then
    some (.threshold ((address - CONTEXT_BASE) / CONTEXT_STRIDE))
  else none

/-- A store of four bytes. -/
def store (address value : Int) (plic : Plic) : Plic := finish (write address 4 value plic)

theorem dictGet_dictSet (d : Int → Option Int) (k k' value : Int) :
    dictGet (dictSet d k value) k' = if k' = k then value else dictGet d k' := by
  unfold dictGet dictSet
  split <;> rfl

theorem word_store (address value : Int) (plic : Plic) (r : Register) :
    (plic.store address value).word r =
      if select address = some r then value else plic.word r := by
  have hsize : (assert ((4 : Int) = 4) : Call Plic Unit) plic = .ok () plic := rfl
  unfold store write select
  rw [bind_ok hsize]
  dsimp only
  simp only [run_ite]
  by_cases hpriority : PRIORITY_BASE ≤ address ∧ address < PRIORITY_END
  · rw [if_pos hpriority, if_pos hpriority]
    have hnonneg : 0 ≤ address / 4 := Int.ediv_nonneg hpriority.1 (by decide)
    cases r with
    | priority irq =>
        have hirq := irq.isLt
        have hsel : (if h : (address / 4).toNat < 32 then
            some (Register.priority ⟨(address / 4).toNat, h⟩) else none) = some (.priority irq) ↔
            (irq.val : Int) = address / 4 := by
          split
          · rw [Option.some_inj, Register.priority.injEq, Fin.ext_iff]
            dsimp only
            omega
          · refine iff_of_false nofun ?_
            omega
        exact if_congr hsel.symm rfl rfl
    | enable context =>
        rw [if_neg]
        · rfl
        · split <;> nofun
    | threshold context =>
        rw [if_neg]
        · rfl
        · split <;> nofun
  rw [if_neg hpriority, if_neg hpriority]
  by_cases henable : ENABLE_BASE ≤ address ∧ address < ENABLE_END
  · rw [if_pos henable, if_pos henable]
    cases r <;> simp [word, dictGet_dictSet, eq_comm]
  rw [if_neg henable, if_neg henable]
  by_cases hcontext : CONTEXT_BASE ≤ address
  · rw [if_pos hcontext]
    by_cases hoffset : (address - CONTEXT_BASE) % CONTEXT_STRIDE = THRESHOLD_OFFSET
    · have hthreshold := And.intro hcontext hoffset
      rw [if_pos hoffset, if_pos hthreshold]
      cases r <;> simp [word, dictGet_dictSet, eq_comm]
    · simp [hoffset]
  · simp [hcontext]

/-- A write changes no line. -/
theorem devices_write (address value : Int) (plic : Plic) :
    (finish (write address 4 value plic)).devicesByIrq = plic.devicesByIrq := by
  have hsize : (assert ((4 : Int) = 4) : Call Plic Unit) plic = .ok () plic := rfl
  unfold write
  rw [bind_ok hsize]
  dsimp only
  split
  · rfl
  · split
    · rfl
    · split
      · split <;> rfl
      · rfl

/-- The controller is a bank of words. -/
def bank : Bank Plic Int Register Int where
  select := select
  word := word
  store := store
  word_store := word_store

theorem bank_store (address value : Int) (plic : Plic) :
    bank.store address value plic = store address value plic := rfl

theorem bank_select (address : Int) : bank.select address = select address := rfl

theorem finish_write (address value : Int) (plic : Plic) :
    finish (write address 4 value plic) = bank.store address value plic := rfl

/-- The claim/complete register of a context. -/
def ClaimRegister (address : Int) : Prop :=
  CONTEXT_BASE ≤ address ∧ (address - CONTEXT_BASE) % CONTEXT_STRIDE = CLAIM_OFFSET

/-- Away from the claim registers a read returns a word of the bank. -/
theorem read_eq_load {address : Int} (h : ¬ClaimRegister address) (plic : Plic) :
    read address 4 plic = .ok (bank.load 0 address plic) plic := by
  have hload : bank.load 0 address plic = ((select address).map plic.word).getD 0 := rfl
  have hsize : (assert ((4 : Int) = 4) : Call Plic Unit) plic = .ok () plic := rfl
  rw [hload]
  unfold read select
  rw [bind_ok hsize, get_bind_apply]
  dsimp only
  simp only [run_ite]
  by_cases hpriority : PRIORITY_BASE ≤ address ∧ address < PRIORITY_END
  · rw [if_pos hpriority, if_pos hpriority]
    by_cases hirq : (address / 4).toNat < 32
    · rw [dif_pos hirq, dif_pos hirq]
      rfl
    · rw [dif_neg hirq, dif_neg hirq]
      rfl
  rw [if_neg hpriority, if_neg hpriority]
  by_cases henable : ENABLE_BASE ≤ address ∧ address < ENABLE_END
  · rw [if_pos henable, if_pos henable]
    rfl
  rw [if_neg henable, if_neg henable]
  by_cases hcontext : CONTEXT_BASE ≤ address
  · rw [if_pos hcontext]
    by_cases hoffset : (address - CONTEXT_BASE) % CONTEXT_STRIDE = THRESHOLD_OFFSET
    · have hthreshold := And.intro hcontext hoffset
      rw [if_pos hoffset, if_pos hthreshold]
      rfl
    · have hclaim : (address - CONTEXT_BASE) % CONTEXT_STRIDE ≠ CLAIM_OFFSET :=
        fun hclaim => h ⟨hcontext, hclaim⟩
      simp [hoffset, hclaim]
  · simp [hcontext]

theorem read_claimRegister {address : Int} (h : ClaimRegister address) (plic : Plic) :
    read address 4 plic =
      .ok (plic.claimIrq ((address - CONTEXT_BASE) / CONTEXT_STRIDE)) plic := by
  have hsize : (assert ((4 : Int) = 4) : Call Plic Unit) plic = .ok () plic := rfl
  have hbase : 0x200000 ≤ address := h.1
  have hpriority : ¬(PRIORITY_BASE ≤ address ∧ address < PRIORITY_END) := by
    rintro ⟨-, hlt⟩
    have hlt : address < 0x1000 := hlt
    omega
  have henable : ¬(ENABLE_BASE ≤ address ∧ address < ENABLE_END) := by
    rintro ⟨-, hlt⟩
    have hlt : address < 0x1f2000 := hlt
    omega
  have hoffset : (address - CONTEXT_BASE) % CONTEXT_STRIDE ≠ THRESHOLD_OFFSET := by
    rw [h.2]
    decide
  unfold read
  rw [bind_ok hsize, get_bind_apply]
  dsimp only
  simp only [run_ite]
  rw [if_neg hpriority, if_neg henable, if_pos h.1, if_neg hoffset, if_pos h.2]
  rfl

theorem finish_read (address size : Int) (plic : Plic) :
    finish (read address size plic) = plic := by
  unfold read
  by_cases hsize : size = 4
  · have hassert : (assert (size = 4) : Call Plic Unit) plic = .ok () plic := by
      rw [hsize]
      rfl
    rw [bind_ok hassert, get_bind_apply]
    simp only [run_ite]
    split
    · rfl
    · split
      · rfl
      · split
        · split
          · rfl
          · split <;> rfl
        · rfl
  · rw [assert, if_neg hsize]
    rfl

/-- Some device holds the line of `irq`. -/
def Pending (plic : Plic) (irq : Nat) : Prop :=
  ∃ device ∈ plic.devicesByIrq, device.1 = irq ∧ Int.land device.2 1 ≠ 0

theorem land_flag_ne_zero (x : Int) (k : Nat) : Int.land x (2 ^ k) ≠ 0 ↔ Int.testBit x k := by
  have hcast : (2 : Int) ^ k = ((2 ^ k : Nat) : Int) := by push_cast; rfl
  have hpow : ((2 ^ k : Nat) : Int) ≠ 0 := Int.natCast_ne_zero.mpr (Nat.two_pow_pos k).ne'
  rw [hcast, land_flag]
  cases Int.testBit x k with
  | false => simp
  | true => exact iff_of_true hpow rfl

/-- The mask has the bit of every pending irq. -/
theorem testBit_pendingMask (plic : Plic) (i : Nat) :
    Int.testBit plic.pendingMask i ↔ plic.Pending i := by
  unfold pendingMask Pending
  suffices h : ∀ start : Int, Int.testBit (plic.devicesByIrq.foldl (fun mask device =>
      if Int.land device.2 1 ≠ 0 then Int.lor mask (2 ^ device.1) else mask) start) i ↔
      Int.testBit start i ∨ ∃ device ∈ plic.devicesByIrq, device.1 = i ∧ Int.land device.2 1 ≠ 0 by
    refine (h 0).trans (or_iff_right ?_)
    change ¬Nat.testBit 0 i = true
    simp
  generalize plic.devicesByIrq = devices
  induction devices with
  | nil => simp
  | cons device devices ih =>
      intro start
      have hflag : Int.testBit (2 ^ device.1 : Int) i ↔ device.1 = i := by
        have hcast : (2 : Int) ^ device.1 = ((2 ^ device.1 : Nat) : Int) := by push_cast; rfl
        rw [hcast, testBit_flag, decide_eq_true_iff]
      rw [List.foldl_cons, ih, List.exists_mem_cons_iff]
      by_cases hlevel : Int.land device.2 1 ≠ 0
      · rw [if_pos hlevel, Int.testBit_lor, Bool.or_eq_true, hflag, and_iff_left hlevel, or_assoc]
      · have hlow : ¬(device.1 = i ∧ Int.land device.2 1 ≠ 0) := fun h => hlevel h.2
        rw [if_neg hlevel, or_iff_right hlow]

/-- A claim runs the arbitration over the irqs that are pending and enabled. -/
theorem claimIrq_found (plic : Plic) (context : Int) :
    ∃ found : Option (Fin 32), plic.claimIrq context = found.elim 0 (fun i => (i.val : Int)) ∧
      Arbiter.Found
        (fun i : Fin 32 => plic.Pending i.val ∧ Int.testBit (dictGet plic.enable context) i.val)
        plic.priority (dictGet plic.threshold context) ((List.finRange MAX_IRQ).drop 1) found := by
  have hcandidate : (fun i : Fin 32 =>
      Int.land (Int.land plic.pendingMask (dictGet plic.enable context)) (2 ^ i.val) ≠ 0) =
      fun i : Fin 32 =>
        plic.Pending i.val ∧ Int.testBit (dictGet plic.enable context) i.val := by
    funext i
    rw [land_flag_ne_zero, Int.testBit_land, Bool.and_eq_true, testBit_pendingMask]
  have ascending : ((List.finRange MAX_IRQ).drop 1).Pairwise (· < ·) := by decide
  rw [← hcandidate]
  exact (Arbiter.outcome_foldl ascending _).found

end Plic

end Riscvm.Python
