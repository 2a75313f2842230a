import Riscvm.Foundation.Simulates
import Riscvm.Lockstep.PlicRuns
import Riscvm.Lockstep.TimedFetch

/-!
# Timers and interrupt controllers

A driver that stores values of 32 bits to the contexts that both interrupt controllers have leaves
the same words in both, and then both claim the same. The timers hold the same words in any case.
-/

namespace Riscvm.Lockstep

open Exec TwosComplement Rv64rs

/-- The two controllers hold the same words. -/
structure SameWords (python : Python.Plic) (rust : Plic) : Prop where
  word : ∀ r, python.word (mapKey r) = ((rust.word r).toNat : Int)
  unused : ∀ r, (∀ r', mapKey r' ≠ r) → python.word r = 0
  registered : rust.Registered

/-- The same lines are high on both, in whatever order they were registered. -/
def SameLines (level : IrqLine → U32) (python : Python.Plic) (rust : Plic) : Prop :=
  ∀ irq, python.Pending irq ↔ rust.Pending level irq

section Claims

variable {level : IrqLine → U32} {python : Python.Plic} {rust : Plic}

theorem SameWords.enable (same : SameWords python rust) (context : U64) :
    Python.Plic.dictGet python.enable context.toNat = ((rust.enableGet context).toNat : Int) := by
  rw [Plic.enableGet, Plic.slot]
  by_cases h : context.toNat < 64
  · rw [dif_pos h]
    exact same.word (.enable ⟨context.toNat, h⟩)
  · rw [dif_neg h]
    refine same.unused (.enable context.toNat) fun r hr => ?_
    cases r with
    | enable c =>
        have hc := c.isLt
        have heq : (c.val : Int) = context.toNat := Python.Plic.Register.enable.inj hr
        omega
    | priority irq => cases hr
    | threshold c => cases hr

theorem SameWords.threshold (same : SameWords python rust) (context : U64) :
    Python.Plic.dictGet python.threshold context.toNat =
      ((rust.thresholdGet context).toNat : Int) := by
  rw [Plic.thresholdGet, Plic.slot]
  by_cases h : context.toNat < 64
  · rw [dif_pos h]
    exact same.word (.threshold ⟨context.toNat, h⟩)
  · rw [dif_neg h]
    refine same.unused (.threshold context.toNat) fun r hr => ?_
    cases r with
    | threshold c =>
        have hc := c.isLt
        have heq : (c.val : Int) = context.toNat := Python.Plic.Register.threshold.inj hr
        omega
    | priority irq => cases hr
    | enable c => cases hr

/-- Both claim the same. -/
theorem SameWords.claimIrq [Host] {σ : Type} (same : SameWords python rust)
    (lines : SameLines level python rust) (context : U64) :
    ∃ k : U32, (rust.claimIrq (fun line => pure (level line)) context : Call σ U32) = pure k ∧
      python.claimIrq context.toNat = (k.toNat : Int) := by
  obtain ⟨best, hclaim, houtcome⟩ :=
    Plic.claimIrq_outcome (σ := σ) same.registered level context
  obtain ⟨found, hbest, hfound⟩ := houtcome.found
  obtain ⟨found', hpython, hfound'⟩ := python.claimIrq_found context.toNat
  have heligible : (fun i : Fin 32 =>
      python.Pending i.val ∧ Int.testBit (Python.Plic.dictGet python.enable context.toNat) i.val) =
      fun i : Fin 32 => rust.Pending level i.val ∧ (rust.enableGet context).getLsbD i.val := by
    funext i
    rw [lines, same.enable]
    rfl
  have hpriority : python.priority = fun i => ((rust.priority i).toNat : Int) :=
    funext fun i => same.word (.priority i)
  rw [heligible, hpriority, same.threshold] at hfound'
  obtain rfl : found = found' := hfound.unique <|
    hfound'.transfer irq_total (fun i _ _ => Int.ofNat_lt) fun i _ j _ _ _ _ _ _ => Int.ofNat_lt
  refine ⟨code found, hclaim.trans (congrArg _ hbest), hpython.trans ?_⟩
  cases found with
  | none => rfl
  | some i =>
      have hi := i.isLt
      change (i.val : Int) = ((BitVec.ofNat 32 i.val).toNat : Int)
      rw [BitVec.toNat_ofNat, Nat.mod_eq_of_lt (by omega)]

/-- An interrupt is claimable on both or on neither. -/
theorem SameWords.claimable [Host] {σ : Type} (same : SameWords python rust)
    (lines : SameLines level python rust) (context : U64) :
    (rust.claimable (fun line => pure (level line)) context : Call σ Bool) =
      pure (python.claimable context.toNat) := by
  obtain ⟨k, hclaim, hpython⟩ := same.claimIrq (σ := σ) lines context
  rw [Plic.claimable, hclaim, pure_bind, Python.Plic.claimable, hpython]
  refine congrArg pure ?_
  rw [Bool.eq_iff_iff, bne_iff_ne, bne_iff_ne, ne_eq, ne_eq, natCast_eq_zero]

/-- Away from the claim registers both read the same word. -/
theorem SameWords.load (same : SameWords python rust) (address : U64) :
    Python.Plic.bank.load 0 address.toNat python =
      (((Plic.bank.load 0 address rust).setWidth 64 : U64).toNat : Int) := by
  have hrust : Plic.bank.load 0 address rust =
      ((Plic.select address).map rust.word).getD 0 := rfl
  rw [BitVec.toNat_setWidth_of_le (by decide), hrust, Bank.load, Python.Plic.bank_select]
  cases hpython : Python.Plic.select address.toNat with
  | none =>
      have hrust : Plic.select address = none := by
        refine Option.eq_none_iff_forall_ne_some.mpr fun r hr => ?_
        rw [select_mapKey, hpython] at hr
        cases hr
      rw [hrust]
      rfl
  | some r =>
      by_cases hr : ∃ r', mapKey r' = r
      · obtain ⟨r', rfl⟩ := hr
        rw [(select_mapKey address r').mpr hpython]
        exact same.word r'
      · have hrust : Plic.select address = none := by
          refine Option.eq_none_iff_forall_ne_some.mpr fun r' hr' => ?_
          rw [select_mapKey, hpython] at hr'
          exact hr ⟨r', (Option.some.inj hr').symm⟩
        rw [hrust]
        exact same.unused r fun r' h => hr ⟨r', h⟩

/-- Only accesses of four bytes pass the assertion. -/
theorem size_of_assert {size : U8} {α : Type} {f : Unit → Python.Call Python.Plic α} {a : α}
    {python' : Python.Plic}
    (h : (Python.assert ((size.toNat : Int) = 4) >>= f) python = .ok a python') : size = 4 := by
  obtain ⟨_, _, hassert, -⟩ := bind_eq_ok.mp h
  exact (toNat_iff (k := 4) (by decide)).mp (Python.assert_eq_ok.mp hassert).1

theorem SameWords.read [Host] {σ : Type} (same : SameWords python rust)
    (lines : SameLines level python rust) {address : U64} {size : U8} {value : Int}
    {python' : Python.Plic}
    (h : Python.Plic.read address.toNat size.toNat python = .ok value python') :
    python' = python ∧ ∃ w : U64,
      (rust.read (fun line => pure (level line)) address size : Call σ U64) = pure w ∧
        value = (w.toNat : Int) := by
  have hsize := h
  rw [Python.Plic.read] at hsize
  obtain rfl := size_of_assert hsize
  have hsame : python' = python := by
    have hfinish := Python.Plic.finish_read address.toNat (4 : U8).toNat python
    rwa [h] at hfinish
  refine ⟨hsame, ?_⟩
  by_cases hclaim : Plic.ClaimRegister address
  · obtain ⟨k, hrust, hpython⟩ := same.claimIrq (σ := σ) lines (Plic.contextOf address)
    refine ⟨k.setWidth 64, by rw [Plic.read_claimRegister hclaim, hrust, pure_bind], ?_⟩
    have hread := Python.Plic.read_claimRegister (claimRegister_iff.mp hclaim) python
    rw [← contextOf_toNat hclaim, hpython] at hread
    rw [BitVec.toNat_setWidth_of_le (by decide)]
    exact (EStateM.Result.ok.inj (hread.symm.trans h)).1.symm
  · refine ⟨_, Plic.read_eq_load hclaim rust _, ?_⟩
    have hread := Python.Plic.read_eq_load (mt claimRegister_iff.mpr hclaim) python
    exact (EStateM.Result.ok.inj (hread.symm.trans h)).1.symm.trans (same.load address)

/-- A store of four bytes is accepted everywhere. -/
theorem plic_write_ok (address value : U64) (plic : Plic) :
    Plic.write address 4 value plic = .ok () (finish (Plic.write address 4 value plic)) := by
  rw [Plic.write, if_neg (by decide), get_bind_apply]
  dsimp only
  simp only [run_ite]
  split
  · rfl
  · split
    · rfl
    · split
      · split <;> rfl
      · rfl

theorem SameWords.write (same : SameWords python rust) {address : U64} {size : U8} {value : U64}
    (addressed : Addressed address) (narrow : value.toNat < 2 ^ 32) {u : Unit}
    {python' : Python.Plic}
    (h : Python.Plic.write address.toNat size.toNat value.toNat python = .ok u python') :
    ∃ rust', Plic.write address size value rust = .ok () rust' ∧ SameWords python' rust' ∧
      python'.devicesByIrq = python.devicesByIrq ∧ rust'.devicesByIrq = rust.devicesByIrq := by
  have hsize := h
  rw [Python.Plic.write] at hsize
  obtain rfl := size_of_assert hsize
  have hpython : python' = Python.Plic.store address.toNat value.toNat python := by
    rw [Python.Plic.store]
    exact (congrArg finish h).symm
  have hdevices : (finish (Plic.write address 4 value rust)).devicesByIrq = rust.devicesByIrq :=
    Plic.keeps_write address 4 value rust
  refine ⟨_, plic_write_ok address value rust, ⟨fun r => ?_, fun r hr => ?_, ?_⟩, ?_, hdevices⟩
  · rw [hpython, Python.Plic.word_store, Plic.finish_write]
    change _ = (((Plic.store address (value.setWidth 32) rust).word r).toNat : Int)
    rw [Plic.word_store, apply_ite BitVec.toNat, apply_ite (Nat.cast : Nat → Int), same.word]
    refine if_congr (select_mapKey address r).symm ?_ rfl
    rw [BitVec.toNat_setWidth, Nat.mod_eq_of_lt narrow]
  · rw [hpython, Python.Plic.word_store, if_neg, same.unused r hr]
    intro hselect
    obtain ⟨r', hr'⟩ := addressed.mapKey hselect
    exact hr r' hr'
  · rw [Plic.Registered, hdevices]
    exact same.registered
  · rw [hpython]
    exact Python.Plic.devices_write _ _ _

end Claims

/-- The two CLINTs hold the same words, of no more harts than addresses can tell apart. -/
structure SameTimers (python : Python.Clint) (rust : Clint) : Prop where
  mtime : python.mtime = (rust.mtime.toNat : Int)
  mtimecmp : python.mtimecmp = rust.mtimecmp.map fun t => (t.toNat : Int)
  harts : rust.mtimecmp.length < 2 ^ 60

theorem timers_new (size : U64) {nhart : Nat} (harts : nhart < 2 ^ 60) :
    SameTimers (.new nhart) (.new size nhart) where
  mtime := rfl
  mtimecmp := by
    change List.replicate nhart (2 ^ 64 - 1) =
      (List.replicate nhart (-1 : U64)).map fun t => (t.toNat : Int)
    rw [List.map_replicate]
    rfl
  harts := by
    rw [Clint.new, List.length_replicate]
    exact harts

section Timers

variable {python : Python.Clint} {rust : Clint}

theorem SameTimers.length (same : SameTimers python rust) :
    python.mtimecmp.length = rust.mtimecmp.length := by
  rw [same.mtimecmp, List.length_map]

theorem u64_word (value : U64) : Python.u 64 value.toNat = (value.toNat : Int) := by
  have hvalue := value.isLt
  rw [Python.u]
  omega

theorem SameTimers.tick (same : SameTimers python rust) :
    SimulatesAt SameTimers (fun _ _ => True) Python.Clint.tick
      (modify Clint.tick : Call Clint PUnit) python rust := by
  refine .modify rfl { same with mtime := ?_ }
  have hone : (1 : U64).toNat = 1 := rfl
  change Python.u 64 (python.mtime + 1) = ((rust.mtime + 1).toNat : Int)
  rw [same.mtime, Python.u, BitVec.toNat_add, hone]
  omega

/-- The timer of a hart has run out on both or on neither. -/
theorem SameTimers.pending {σ : Type} (same : SameTimers python rust) {hart : Nat} {p : Bool}
    {python' : Python.Clint} (h : Python.Clint.pending hart python = .ok p python') :
    python' = python ∧ (rust.pending hart : Call σ Bool) = pure p := by
  rw [Python.Clint.pending, get_bind_apply, same.mtimecmp, List.getElem?_map] at h
  cases hlimit : rust.mtimecmp[hart]? with
  | none =>
      rw [hlimit] at h
      cases h
  | some limit =>
      rw [hlimit] at h
      cases h
      refine ⟨rfl, ?_⟩
      rw [Clint.pending, Rv64rs.index, hlimit, pure_bind]
      refine congrArg pure ?_
      rw [same.mtime, decide_eq_decide, BitVec.le_def]
      exact Int.ofNat_le.symm

/-- The timer that an address belongs to. -/
theorem SameTimers.index [Host] (same : SameTimers python rust) (address : U64) :
    (python.OfTimer address.toNat ∧ ∃ i < rust.mtimecmp.length,
        (((address.toNat : Int) - Python.Clint.MTIMECMP_OFFSET) / 8).toNat = i ∧
          Clint.mtimecmpIndex address rust = .ok (some i) rust) ∨
      (¬python.OfTimer address.toNat ∧ Clint.mtimecmpIndex address rust = .ok none rust) := by
  have hharts := same.harts
  have hlength := same.length
  have hlen : (BitVec.ofNat 64 rust.mtimecmp.length).toNat = rust.mtimecmp.length := by
    rw [BitVec.toNat_ofNat, Nat.mod_eq_of_lt (by omega)]
  have height : (8 : U64).toNat = 8 := rfl
  have hbase : Clint.MTIMECMP_OFFSET.toNat = 0x4000 := rfl
  have hmul : (8 : U64).toNat * (BitVec.ofNat 64 rust.mtimecmp.length).toNat < 2 ^ 64 := by
    rw [hlen, height]
    omega
  have hbytes : (8 * BitVec.ofNat 64 rust.mtimecmp.length : U64).toNat =
      8 * rust.mtimecmp.length := by
    rw [BitVec.toNat_mul, Nat.mod_eq_of_lt hmul, hlen, height]
  have hadd : Clint.MTIMECMP_OFFSET.toNat +
      (8 * BitVec.ofNat 64 rust.mtimecmp.length : U64).toNat < 2 ^ 64 := by
    rw [hbytes, hbase]
    omega
  have hstop : (Clint.MTIMECMP_OFFSET + 8 * BitVec.ofNat 64 rust.mtimecmp.length : U64).toNat =
      0x4000 + 8 * rust.mtimecmp.length := by
    rw [BitVec.toNat_add, Nat.mod_eq_of_lt hadd, hbytes, hbase]
  have htimer : python.OfTimer address.toNat ↔ Clint.MTIMECMP_OFFSET ≤ address ∧
      address < Clint.MTIMECMP_OFFSET + 8 * BitVec.ofNat 64 rust.mtimecmp.length := by
    rw [BitVec.le_def, BitVec.lt_def, hstop, hbase]
    change ((0x4000 : Int) ≤ address.toNat ∧
      (address.toNat : Int) < 0x4000 + 8 * (python.mtimecmp.length : Int)) ↔ _
    omega
  rw [Clint.mtimecmpIndex, get_bind_apply, mul_of_lt hmul, pure_bind_apply, add_of_lt hadd,
    pure_bind_apply]
  by_cases h : python.OfTimer address.toNat
  · have hrust := htimer.mp h
    have hindex : ((address - Clint.MTIMECMP_OFFSET) / 8 : U64).toNat =
        (address.toNat - 0x4000) / 8 := by
      rw [BitVec.toNat_udiv, BitVec.toNat_sub_of_le hrust.1]
      rfl
    have hlow : 0x4000 ≤ address.toNat := BitVec.le_def.mp hrust.1
    have hhigh : address.toNat < 0x4000 + 8 * rust.mtimecmp.length :=
      hstop ▸ BitVec.lt_def.mp hrust.2
    refine .inl ⟨h, ((address - Clint.MTIMECMP_OFFSET) / 8).toNat, ?_, ?_, ?_⟩
    · exact hindex ▸ (by omega)
    · rw [hindex]
      change (((address.toNat : Int) - 0x4000) / 8).toNat = (address.toNat - 0x4000) / 8
      omega
    · rw [if_pos hrust]
      rfl
  · refine .inr ⟨h, ?_⟩
    rw [if_neg (mt htimer.mpr h)]
    rfl

theorem SameTimers.read [Host] (same : SameTimers python rust) (address : U64) (size : U8) :
    SimulatesAt SameTimers (fun v w => v = ((w.toNat : Nat) : Int))
      (Python.Clint.read address.toNat size.toNat) (Clint.read address size) python rust := by
  refine .check Python.assert_eq_ok.mp fun hsize => .get_left ?_
  obtain rfl : size = 8 := (toNat_iff (k := 8) (by decide)).mp hsize
  have height : ¬(8 : U8) ≠ 8 := not_not_intro rfl
  rw [Clint.read, if_neg height]
  refine .ite (toNat_iff (k := 0xbff8) (by decide)) (fun _ => ?_) fun _ => ?_
  · exact .bind_right (c := get) rfl (.pure same same.mtime)
  obtain ⟨htimer, i, hi, hpython, hrust⟩ | ⟨hother, hrust⟩ := same.index address
  · refine .bind_right hrust (.bind_right (c := get) rfl ?_)
    rw [if_pos htimer, hpython, Python.RangeManger.item, same.mtimecmp, List.getElem?_map,
      List.getElem?_eq_getElem hi, index_of_lt hi]
    exact .pure same rfl
  · refine .bind_right hrust ?_
    rw [if_neg hother]
    exact .pure same rfl

theorem SameTimers.write [Host] (same : SameTimers python rust) (address : U64) (size : U8)
    (value : U64) :
    SimulatesAt SameTimers (fun _ _ => True)
      (Python.Clint.write address.toNat size.toNat value.toNat) (Clint.write address size value)
      python rust := by
  refine .check Python.assert_eq_ok.mp fun hsize => .get_left ?_
  obtain rfl : size = 8 := (toNat_iff (k := 8) (by decide)).mp hsize
  have height : ¬(8 : U8) ≠ 8 := not_not_intro rfl
  rw [Clint.write, if_neg height]
  refine .ite (toNat_iff (k := 0xbff8) (by decide)) (fun _ => ?_) fun _ => ?_
  · exact .modify rfl { same with mtime := u64_word value }
  obtain ⟨htimer, i, hi, hpython, hrust⟩ | ⟨hother, hrust⟩ := same.index address
  · refine .bind_right hrust (.bind_right (c := get) rfl ?_)
    have hcopy : (copyFromSlice rust.mtimecmp i (i + 1) [value] : Call Clint (List U64)) =
        pure (rust.mtimecmp.take i ++ [value] ++ rust.mtimecmp.drop (i + 1)) :=
      copyFromSlice_of_le hi rfl
    rw [if_pos htimer, hpython, hcopy, pure_bind, u64_word]
    have hset : rust.mtimecmp.take i ++ [value] ++ rust.mtimecmp.drop (i + 1) =
        rust.mtimecmp.set i value := by
      rw [List.set_eq_take_append_cons_drop, if_pos hi, List.append_assoc]
      rfl
    rw [hset]
    refine .modify rfl { same with mtimecmp := ?_, harts := ?_ }
    · rw [same.mtimecmp, List.map_set]
    · rw [List.length_set]
      exact same.harts
  · refine .bind_right hrust ?_
    rw [if_neg hother]
    exact .pure same trivial

end Timers

end Riscvm.Lockstep
