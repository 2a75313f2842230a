import Riscvm.Foundation.Arbiter
import Riscvm.Rv64rs.Emulator

/-!
# Claiming interrupts

The harts of a machine share one interrupt controller, and the lines it samples belong to
devices that change in between. The controller keeps no claim state: a line is pending as
long as its device holds it, and completion is a no-op. So what a claim returns follows from
the registers and the lines of that moment alone, and claiming leaves no trace.
-/

namespace Riscvm.Rv64rs

open Bits Exec

/-- The level of the line behind an irq. -/
def Devices.level (dev : Devices) : IrqLine → U32
  | .uart => dev.uart.interruptStatus
  | .virtio => dev.virtio.interruptStatus
  | .external status => status

namespace Plic

/-- Some device holds the line of `irq`. -/
def Pending (plic : Plic) (level : IrqLine → U32) (irq : Nat) : Prop :=
  ∃ device ∈ plic.devicesByIrq, device.1.toNat = irq ∧ level device.2 &&& 1 ≠ 0

/-- Every registered irq has a bit in the mask. -/
def Registered (plic : Plic) : Prop := ∀ device ∈ plic.devicesByIrq, device.1.toNat < 32

/-- The irqs that a claim considers, in the order in which it visits them. -/
def irqs : List (Fin 32) := (List.finRange MAX_IRQ).drop 1

/-- `irq` is what the context `context` has to serve next: pending, enabled, above the
threshold, of the highest priority and the lowest number. -/
def Next (plic : Plic) (level : IrqLine → U32) (context : U64) (irq : Fin 32) : Prop :=
  Arbiter.Wins (fun i => plic.Pending level i.val ∧ (plic.enableGet context).getLsbD i.val)
    plic.priority (plic.thresholdGet context) irqs irq

/-- `irq` is pending, enabled for the context and of a priority strictly above its threshold. -/
def Eligible (plic : Plic) (level : IrqLine → U32) (context : U64) (irq : Fin 32) : Prop :=
  irq.val ≠ 0 ∧ plic.Pending level irq.val ∧ (plic.enableGet context).getLsbD irq.val ∧
    plic.thresholdGet context < plic.priority irq

/-- The claim/complete register of a context. -/
def ClaimRegister (address : U64) : Prop :=
  CONTEXT_BASE ≤ address ∧ (address - CONTEXT_BASE) % CONTEXT_STRIDE = CLAIM_OFFSET

instance (address : U64) : Decidable (ClaimRegister address) := inferInstanceAs (Decidable (_ ∧ _))

def contextOf (address : U64) : U64 := (address - CONTEXT_BASE) / CONTEXT_STRIDE

variable [Host] {σ : Type}

omit [Host] in
theorem irqs_ascending : irqs.Pairwise (· < ·) := by decide

omit [Host] in
theorem mem_irqs {irq : Fin 32} : irq ∈ irqs ↔ irq ≠ 0 := by
  revert irq
  decide

omit [Host] in
theorem irq_of_ofNat_eq {i j : Fin 32} (h : BitVec.ofNat 32 i.val = BitVec.ofNat 32 j.val) :
    i = j := by
  have hval := congrArg BitVec.toNat h
  rw [BitVec.toNat_ofNat, BitVec.toNat_ofNat, Nat.mod_eq_of_lt (by omega),
    Nat.mod_eq_of_lt (by omega)] at hval
  exact Fin.ext hval

/-- The mask has the bit of every pending irq. -/
theorem pendingMask_eq {plic : Plic} (registered : plic.Registered) (level : IrqLine → U32) :
    ∃ mask : U32, (plic.pendingMask fun line => pure (level line) : Call σ U32) = pure mask ∧
      ∀ i < 32, mask.getLsbD i ↔ plic.Pending level i := by
  unfold pendingMask Pending
  unfold Registered at registered
  suffices h : ∀ start : U32, ∃ mask : U32,
      (plic.devicesByIrq.foldlM (fun mask device => do
        if (← (pure (level device.2) : Call σ U32)) &&& 1 ≠ 0 then
          return mask ||| (← shl 1 device.1.toNat)
        else return mask) start : Call σ U32) = pure mask ∧
      ∀ i < 32, mask.getLsbD i ↔ start.getLsbD i ∨
        ∃ device ∈ plic.devicesByIrq, device.1.toNat = i ∧ level device.2 &&& 1 ≠ 0 by
    obtain ⟨mask, hmask, hbits⟩ := h 0
    refine ⟨mask, hmask, fun i hi => (hbits i hi).trans ?_⟩
    simp
  generalize plic.devicesByIrq = devices at registered ⊢
  induction devices with
  | nil => exact fun start => ⟨start, rfl, fun i _ => by simp⟩
  | cons device devices ih =>
      intro start
      obtain ⟨hdevice, hdevices⟩ := List.forall_mem_cons.mp registered
      by_cases hlevel : level device.2 &&& 1 ≠ 0
      · obtain ⟨mask, hmask, hbits⟩ := ih hdevices (start ||| bit device.1.toNat)
        refine ⟨mask, ?_, fun i hi => (hbits i hi).trans ?_⟩
        · rw [List.foldlM_cons, pure_bind, if_pos hlevel, shl_of_lt hdevice, pure_bind, pure_bind]
          exact hmask
        · have hbit : (bit device.1.toNat : U32).getLsbD i ↔ device.1.toNat = i := by
            rw [getLsbD_bit, decide_eq_true hi, Bool.true_and, decide_eq_true_iff]
            exact eq_comm
          rw [BitVec.getLsbD_or, Bool.or_eq_true, hbit, List.exists_mem_cons_iff,
            and_iff_left hlevel, or_assoc]
      · obtain ⟨mask, hmask, hbits⟩ := ih hdevices start
        refine ⟨mask, ?_, fun i hi => (hbits i hi).trans ?_⟩
        · rw [List.foldlM_cons, pure_bind, if_neg hlevel, pure_bind]
          exact hmask
        · have hlow : ¬(device.1.toNat = i ∧ level device.2 &&& 1 ≠ 0) := fun h => hlevel h.2
          rw [List.exists_mem_cons_iff, or_iff_right hlow]

/-- A claim runs the arbitration over the irqs that are pending and enabled. -/
theorem claimIrq_outcome {plic : Plic} (registered : plic.Registered) (level : IrqLine → U32)
    (context : U64) :
    ∃ best : U32 × U32,
      (plic.claimIrq (fun line => pure (level line)) context : Call σ U32) = pure best.1 ∧
      Arbiter.Outcome
        (fun i : Fin 32 => plic.Pending level i.val ∧ (plic.enableGet context).getLsbD i.val)
        plic.priority (fun i => BitVec.ofNat 32 i.val)
          (0, plic.thresholdGet context) irqs best := by
  obtain ⟨mask, hmask, hbits⟩ := pendingMask_eq (σ := σ) registered level
  have hcandidate : (fun i : Fin 32 => mask &&& plic.enableGet context &&& bit i.val ≠ 0) =
      fun i : Fin 32 => plic.Pending level i.val ∧ (plic.enableGet context).getLsbD i.val := by
    funext i
    rw [and_bit_ne_zero, BitVec.getLsbD_and, Bool.and_eq_true, hbits i i.isLt]
  refine ⟨plic.bestIrq (mask &&& plic.enableGet context) (plic.thresholdGet context),
    by rw [claimIrq, hmask, pure_bind], ?_⟩
  rw [← hcandidate]
  exact Arbiter.outcome_foldl irqs_ascending _

/-- A claim returns the irq to serve next, or 0 if there is none. -/
theorem claimIrq_eq {plic : Plic} (registered : plic.Registered) (level : IrqLine → U32)
    (context : U64) :
    ∃ k : U32, (plic.claimIrq (fun line => pure (level line)) context : Call σ U32) = pure k ∧
      ∀ irq : Fin 32, irq ≠ 0 → (k = BitVec.ofNat 32 irq.val ↔ plic.Next level context irq) := by
  obtain ⟨best, hclaim, houtcome⟩ := claimIrq_outcome (σ := σ) registered level context
  refine ⟨best.1, hclaim, fun irq hirq => ?_⟩
  unfold Next
  cases houtcome with
  | unchanged below =>
      constructor
      · intro h
        exact absurd (irq_of_ofNat_eq (i := 0) h).symm hirq
      · intro wins
        exact absurd (below irq wins.mem wins.requests) (Std.not_le.mpr wins.above)
  | winner i wins =>
      constructor
      · intro h
        exact irq_of_ofNat_eq h ▸ wins
      · intro wins'
        rw [wins.unique wins']

/-- A claim returns 0 exactly if no irq is eligible, and otherwise the eligible irq of highest
priority, of equal ones the first; an interrupt is claimable exactly if the claim is not 0. -/
theorem claimIrq_arbitrates {plic : Plic} (registered : plic.Registered) (level : IrqLine → U32)
    (context : U64) :
    ∃ k : U32, (plic.claimIrq (fun line => pure (level line)) context : Call σ U32) = pure k ∧
      (plic.claimable (fun line => pure (level line)) context : Call σ Bool) = pure (k != 0) ∧
      (k = 0 ↔ ∀ irq, ¬plic.Eligible level context irq) ∧
      (k ≠ 0 → ∃ irq : Fin 32, k = BitVec.ofNat 32 irq.val ∧ plic.Eligible level context irq ∧
        ∀ other, plic.Eligible level context other → plic.priority other ≤ plic.priority irq ∧
          (plic.priority other = plic.priority irq → irq ≤ other)) := by
  obtain ⟨best, hclaim, houtcome⟩ := claimIrq_outcome (σ := σ) registered level context
  refine ⟨best.1, hclaim, by rw [claimable, hclaim, pure_bind], ?_⟩
  cases houtcome with
  | unchanged below =>
      refine ⟨iff_of_true rfl ?_, fun h => absurd rfl h⟩
      rintro irq ⟨hirq, hpending, henabled, habove⟩
      have hmem := mem_irqs.mpr fun h => hirq (congrArg Fin.val h)
      exact absurd (below irq hmem ⟨hpending, henabled⟩) (Std.not_le.mpr habove)
  | winner irq wins =>
      have hirq : irq ≠ 0 := mem_irqs.mp wins.mem
      have heligible : plic.Eligible level context irq :=
        ⟨fun h => hirq (Fin.ext h), wins.requests.1, wins.requests.2, wins.above⟩
      have hk : BitVec.ofNat 32 irq.val ≠ 0 := fun h => hirq (irq_of_ofNat_eq (j := 0) h)
      refine ⟨iff_of_false hk fun hnone => hnone irq heligible, fun _ => ⟨irq, rfl, heligible, ?_⟩⟩
      rintro other ⟨hother, hpending, henabled, -⟩
      have hmem := mem_irqs.mpr fun h => hother (congrArg Fin.val h)
      refine ⟨wins.highest other hmem ⟨hpending, henabled⟩, fun heq => ?_⟩
      obtain rfl | hlt := wins.first other hmem ⟨hpending, henabled⟩ heq
      · exact le_refl _
      · exact le_of_lt hlt

/-- Both devices of the machine interrupt, at the same priority. -/
def tied : Plic :=
  { Xv6Emulator.plic with priority := fun _ => 3, enable := fun _ => -1, threshold := fun _ => 2 }

omit [Host] in
theorem claimIrq_arbitrates_tied :
    ∃ k : U32, (@claimIrq .dev Unit tied (fun _ => pure 1) 1) = pure k ∧
      (k = 0 ↔ ∀ irq, ¬tied.Eligible (fun _ => 1) 1 irq) := by
  let : Host := .dev
  have registered : tied.Registered := by
    unfold Registered
    decide
  obtain ⟨k, hclaim, -, hzero, -⟩ := claimIrq_arbitrates (σ := Unit) registered (fun _ => 1) 1
  exact ⟨k, hclaim, hzero⟩

omit [Host] in
/-- Context registers lie behind the priorities and the enable bits. -/
theorem ClaimRegister.not_before {address : U64} (h : ClaimRegister address) :
    ¬address < PRIORITY_END ∧ ¬(ENABLE_BASE ≤ address ∧ address < ENABLE_END) := by
  have hbase : 0x200000 ≤ address.toNat := BitVec.le_def.mp h.1
  constructor
  · intro hlt
    have hlt : address.toNat < 0x1000 := BitVec.lt_def.mp hlt
    omega
  · rintro ⟨-, hlt⟩
    have hlt : address.toNat < 0x1f2000 := BitVec.lt_def.mp hlt
    omega

theorem read_claimRegister {address : U64} (h : ClaimRegister address) (plic : Plic)
    (status : IrqLine → Call σ U32) :
    plic.read status address 4 = (do
      return (← plic.claimIrq status (contextOf address)).setWidth 64) := by
  obtain ⟨hpriority, henable⟩ := h.not_before
  have hoffset : ¬(address - CONTEXT_BASE) % CONTEXT_STRIDE = THRESHOLD_OFFSET := by
    rw [h.2]
    decide
  unfold Plic.read contextOf
  rw [if_neg (not_not_intro rfl), if_neg hpriority, if_neg henable, if_pos h.1]
  exact (if_neg hoffset).trans (if_pos h.2)

omit [Host] in
/-- A store to a claim register changes nothing. -/
theorem write_claimRegister {address : U64} (h : ClaimRegister address) (size : U8) (value : U64)
    (plic : Plic) : finish (Plic.write address size value plic) = plic := by
  obtain ⟨hpriority, henable⟩ := h.not_before
  have hoffset : ¬(address - CONTEXT_BASE) % CONTEXT_STRIDE = THRESHOLD_OFFSET := by
    rw [h.2]
    decide
  unfold Plic.write
  by_cases hsize : size ≠ 4
  · rw [if_pos hsize]
    rfl
  · rw [if_neg hsize, get_bind_apply, if_neg hpriority, if_neg henable, if_pos h.1]
    exact congrArg (fun x : Call Plic Unit => finish (x plic)) (if_neg hoffset)

omit [Host] in
/-- The registers keep the registered irqs. -/
theorem keeps_write (address : U64) (size : U8) (value : U64) :
    Keeps (fun plic plic' : Plic => plic'.devicesByIrq = plic.devicesByIrq)
      (Plic.write address size value) := by
  intro plic
  unfold Plic.write
  simp only [run_ite, get_bind_apply]
  split
  · rfl
  split
  · rfl
  split
  · rfl
  split
  · split
    · rfl
    · rfl
  · rfl

end Plic

/-- An access of a hart to the controller, or a change of the devices that drive its lines. -/
inductive PlicEvent where
  | read (hart : Nat) (address : U64) (size : U8)
  | write (hart : Nat) (address : U64) (size : U8) (value : U64)
  | lines (uart : Uart) (virtio : VirtIOBlk)

/-- The event is a claim or a completion. -/
def PlicEvent.touchesClaim : PlicEvent → Bool
  | .read _ address _ | .write _ address _ _ => Plic.ClaimRegister address
  | .lines _ _ => false

namespace Devices

variable [Host]

/-- A read of the controller, by whichever hart. -/
def readPlic (dev : Devices) (address : U64) (size : U8) : EStateM.Result Fault Devices U64 :=
  dev.plic.read (Bus.lineStatus dev false) address size dev

def event (dev : Devices) : PlicEvent → Devices
  | .read _ address size => finish (dev.readPlic address size)
  | .write _ address size value =>
      { dev with plic := finish (Plic.write address size value dev.plic) }
  | .lines uart virtio => { dev with uart, virtio }

def run (dev : Devices) (events : List PlicEvent) : Devices := events.foldl event dev

theorem event_read (dev : Devices) (hart : Nat) (address : U64) (size : U8) :
    dev.event (.read hart address size) = dev :=
  dev.plic.readOnly_read (Bus.readOnly_lineStatus dev false) address size dev

/-- Claims and completions leave no trace. -/
theorem event_of_touchesClaim {dev : Devices} {e : PlicEvent} (h : e.touchesClaim) :
    dev.event e = dev := by
  cases e with
  | read hart address size => exact event_read ..
  | write hart address size value =>
      have haddress : Plic.ClaimRegister address := of_decide_eq_true h
      rw [event, Plic.write_claimRegister haddress]
  | lines uart virtio => exact absurd h Bool.false_ne_true

theorem registered_event {dev : Devices} (registered : dev.plic.Registered) (e : PlicEvent) :
    (dev.event e).plic.Registered := by
  cases e with
  | read hart address size =>
      rw [event_read]
      exact registered
  | write hart address size value =>
      unfold Plic.Registered event
      rw [Plic.keeps_write address size value dev.plic]
      exact registered
  | lines uart virtio => exact registered

theorem registered_run {dev : Devices} (registered : dev.plic.Registered)
    (events : List PlicEvent) : (dev.run events).plic.Registered := by
  induction events generalizing dev with
  | nil => exact registered
  | cons e events ih => exact ih (registered_event registered e)

/-- Leaving out the claims and completions of a run reaches the same state. -/
theorem run_filter (dev : Devices) (events : List PlicEvent) :
    dev.run (events.filter fun e => !e.touchesClaim) = dev.run events := by
  induction events generalizing dev with
  | nil => rfl
  | cons e events ih =>
      cases h : e.touchesClaim with
      | true =>
          rw [List.filter_cons_of_neg (by simp [h]), ih, run, run, List.foldl_cons,
            event_of_touchesClaim h]
      | false =>
          rw [List.filter_cons_of_pos (by simp [h]), run, List.foldl_cons]
          exact ih (dev.event e)

omit [Host] in
theorem lineStatus_false (dev : Devices) {σ : Type} :
    (Bus.lineStatus dev false : IrqLine → Call σ U32) = fun line => pure (dev.level line) := by
  funext line
  cases line <;> rfl

/-- After any interleaving a claim returns what the context has to serve next by the registers
and the lines of that moment, whether or not other contexts have claimed it, and the interrupt
is claimable just then; claims and completions take no part in how the state was reached. -/
theorem claims_follow_lines {dev : Devices} (registered : dev.plic.Registered)
    (events : List PlicEvent) :
    dev.run (events.filter fun e => !e.touchesClaim) = dev.run events ∧
      ∀ address, Plic.ClaimRegister address → ∃ k : U32,
        (dev.run events).readPlic address 4 = .ok (k.setWidth 64) (dev.run events) ∧
        (dev.run events).plic.claimable (Bus.lineStatus (dev.run events) false)
          (Plic.contextOf address) (dev.run events) = .ok (k != 0) (dev.run events) ∧
        ∀ irq : Fin 32, irq ≠ 0 → (k = BitVec.ofNat 32 irq.val ↔
          (dev.run events).plic.Next (dev.run events).level (Plic.contextOf address) irq) := by
  refine ⟨run_filter dev events, fun address haddress => ?_⟩
  obtain ⟨k, hk, hnext⟩ := Plic.claimIrq_eq (σ := Devices) (registered_run registered events)
    (dev.run events).level (Plic.contextOf address)
  refine ⟨k, ?_, ?_, hnext⟩
  · rw [readPlic, Plic.read_claimRegister haddress, lineStatus_false, hk]
    rfl
  · rw [Plic.claimable, lineStatus_false, hk]
    rfl

/-- What a read of the controller returns. -/
def claimed (dev : Devices) (address : U64) : Option U64 :=
  match dev.readPlic address 4 with
  | .ok k _ => some k
  | .error _ _ => none

/-- The event is the completion of `k` through the register at `address`. -/
def Completes (address k : U64) : PlicEvent → Prop
  | .write _ other size value => other = address ∧ size = 4 ∧ value.setWidth 32 = k.setWidth 32
  | .read _ _ _ | .lines _ _ => False

/-- What one context has claimed no other context is given before it is completed. -/
def ExclusiveClaims (dev : Devices) : Prop :=
  ∀ (before between : List PlicEvent) (hart : Nat) (address other k : U64),
    Plic.ClaimRegister address → Plic.ClaimRegister other →
    Plic.contextOf address ≠ Plic.contextOf other → k ≠ 0 →
    (dev.run before).claimed address = some k → (∀ e ∈ between, ¬Completes address k e) →
    (dev.run (before ++ .read hart address 4 :: between)).claimed other ≠ some k

omit [Host]

/-- A machine whose UART holds its line. -/
def withInput : Devices where
  clint := .new CLINT_SIZE 2
  uart := { Uart.new UART_SIZE none none with rxQueue := [0x61], interruptEnabledRx := true }
  plic := Xv6Emulator.plic
  virtio := .new 0 none

/-- Two harts enable the UART's irq for their S-mode contexts. -/
def enableUart : List PlicEvent :=
  [.write 0 (4 * 10) 4 1, .write 0 0x2080 4 (bit 10), .write 1 0x2180 4 (bit 10)]

/-- Context 3 is given the irq that context 1 has just claimed. -/
theorem claims_not_exclusive : ¬@ExclusiveClaims .dev withInput := by
  let : Host := .dev
  intro exclusive
  refine exclusive enableUart [] 0 0x201004 0x203004 10 (by decide) (by decide) (by decide)
    (by decide) (by decide) (fun e he => absurd he List.not_mem_nil) ?_
  rw [List.append_cons, List.append_nil]
  decide

theorem claims_follow_lines_enableUart :
    let now := @run .dev withInput enableUart
    ∃ k : U32, @readPlic .dev now 0x203004 4 = .ok (k.setWidth 64) now ∧
      (k = 10 ↔ now.plic.Next now.level 3 10) := by
  let : Host := .dev
  have registered : withInput.plic.Registered := by
    unfold Plic.Registered
    decide
  obtain ⟨-, claims⟩ := claims_follow_lines registered enableUart
  obtain ⟨k, hread, -, hnext⟩ := claims 0x203004 (by decide)
  exact ⟨k, hread, hnext 10 (by decide)⟩

end Devices

end Riscvm.Rv64rs
