import Riscvm.Lockstep.Memories
import Riscvm.Python.Xv6

/-!
# The block device on memory

The bus that the block device is given has every device on it, the block device too. As long as its
reads and writes fall into RAM, stack and bootloader it does what it does on a bus that maps these
only.
-/

namespace Riscvm.Python

namespace XV6

open Exec

/-- The access falls into the window of no device; one outside every range raises. -/
def inMemory (machine : XV6) (address size : Int) : Bool :=
  match getDevice address size machine with
  | .ok found _ => found.1 = .ram
  | .error _ _ => true

/-- A request of the block device stays in memory. -/
def requestInMemory (machine : XV6) :
    (β : Type) → DmaRequest β → EStateM.Result Exception XV6 β → Bool
  | _, .read address size, _ => machine.inMemory address size
  | _, .write address size _, _ => machine.inMemory address size
  | _, .device, _ | _, .setDisk _, _ | _, .completed _ _, _ | _, .require _ _, _ => true

variable [Interpreter]

/-- What the device notified of a queue reads and writes stays in memory. -/
def dmaInMemory [CallStack] (queueIdx : Int) (machine : XV6) : Bool :=
  (DmaScript.processQueue queueIdx).check machine.requestInMemory
    (handle (writeWith (notify CallStack.nested))) machine

/-- Where a store notifies the device, its accesses stay in memory. -/
def storeInMemory [CallStack] (address size value : Int) (machine : XV6) : Bool :=
  match getDevice address size machine with
  | .ok (.virtio, range) _ =>
      address - range.1 ≠ VirtIOBlk.QUEUE_NOTIFY || machine.dmaInMemory value
  | _ => true

/-- A store on a machine whose block device reaches memory only. -/
def writeOwn : (address size value : Int) → Call Unit :=
  writeWith fun queueIdx => onVirtio (VirtIOBlk.processQueue queueIdx)

/-- There a store to the block device is nothing but a register write. -/
theorem writeOwn_virtio (offset size value : Int) :
    (if size = 4 ∧ offset = VirtIOBlk.QUEUE_NOTIFY then onVirtio (VirtIOBlk.processQueue value)
      else onVirtio (VirtIOBlk.write offset size value)) =
      onVirtio (VirtIOBlk.write offset size value) := by
  split
  next hnotify =>
      obtain ⟨rfl, rfl⟩ := hnotify
      rfl
  next => rfl

section Layout

variable {machine machine' : XV6} {address size : Int}

omit [Interpreter] in
theorem getDevice_eq : getDevice address size machine =
    match RangeManger.getRange address size machine.rangeManager with
    | .ok range m =>
        match machine.devices.lookup range with
        | some device => .ok (device, range) { machine with rangeManager := m }
        | none => .error (.bus .keyError) { machine with rangeManager := m }
    | .error e m => .error (.bus e) { machine with rangeManager := m } := by
  rw [getDevice, bind_apply, onRangeManger, on]
  cases RangeManger.getRange address size machine.rangeManager with
  | error e m => rfl
  | ok range m =>
      dsimp only
      rw [get_bind_apply]
      dsimp only
      cases machine.devices.lookup range <;> rfl

omit [Interpreter] in
/-- What the block device holds has no part in where an access falls. -/
theorem inMemory_withVirtio (virtio : VirtIOBlk) :
    inMemory { machine with virtio } address size = machine.inMemory address size := by
  rw [inMemory, inMemory, getDevice_eq, getDevice_eq]
  cases RangeManger.getRange address size machine.rangeManager with
  | error e m => rfl
  | ok range m =>
      dsimp only
      cases machine.devices.lookup range <;> rfl

omit [Interpreter] in
/-- An access that stays in memory and finds a device finds memory. -/
theorem getDevice_inMemory (inMemory : machine.inMemory address size = true)
    {found : Device × (Int × Int)} (h : getDevice address size machine = .ok found machine') :
    found.1 = .ram ∧ machine' = machine := by
  obtain ⟨m, hget, rfl, -⟩ := getDevice_ok h
  obtain ⟨rfl, -, -, -⟩ := RangeManger.getRange_ok hget
  rw [XV6.inMemory, h] at inMemory
  exact ⟨of_decide_eq_true inMemory, rfl⟩

end Layout

section Runs

variable {machine machine' : XV6} {virtio : VirtIOBlk} {store : Int → Call Unit}

/-- A request that stays in memory is one to the device's own bus. -/
theorem handle_inMemory {β : Type} {r : DmaRequest β} {b : β}
    {result : EStateM.Result Exception XV6 β}
    (inMemory : machine.requestInMemory β r result = true)
    (h : handle (writeWith store) β r { machine with virtio } = .ok b machine') :
    ∃ virtio', VirtIOBlk.handle β r virtio = .ok b virtio' ∧
      machine' = { machine with virtio := virtio' } := by
  cases r with
  | device | setDisk | completed =>
      cases h
      exact ⟨_, rfl, rfl⟩
  | require holds cause =>
      cases holds with
      | false => cases h
      | true =>
          cases h
          exact ⟨_, rfl, rfl⟩
  | read address size =>
      obtain ⟨⟨device, range⟩, machine₁, hdevice, h⟩ := bind_eq_ok.mp h
      obtain ⟨rfl, rfl⟩ := getDevice_inMemory ((inMemory_withVirtio virtio).trans inMemory) hdevice
      exact on_ok h
  | write address size value =>
      obtain ⟨⟨device, range⟩, machine₁, hdevice, h⟩ := bind_eq_ok.mp h
      obtain ⟨rfl, rfl⟩ := getDevice_inMemory ((inMemory_withVirtio virtio).trans inMemory) hdevice
      exact on_ok h

/-- A run that stays in memory is one of the device on its own bus. -/
theorem run_inMemory {α : Type} {script : DmaScript α} {a : α}
    (inMemory : script.check machine.requestInMemory (handle (writeWith store))
      { machine with virtio } = true)
    (h : script.run (handle (writeWith store)) { machine with virtio } = .ok a machine') :
    ∃ virtio', script.run VirtIOBlk.handle virtio = .ok a virtio' ∧
      machine' = { machine with virtio := virtio' } := by
  induction script generalizing virtio with
  | done a' =>
      cases h
      exact ⟨virtio, rfl, rfl⟩
  | ask r next ih =>
      obtain ⟨b, machine₁, hr, hnext⟩ := bind_eq_ok.mp h
      rw [Script.check, Bool.and_eq_true_iff, hr] at inMemory
      obtain ⟨virtio₁, hown, rfl⟩ := handle_inMemory inMemory.1 hr
      obtain ⟨virtio', hrest, hmachine⟩ := ih b inMemory.2 hnext
      exact ⟨virtio', (bind_ok hown _).trans hrest, hmachine⟩

variable [CallStack]

/-- A store whose notification stays in memory is one on a machine whose block device reaches
memory only. -/
theorem write_inMemory {address size value : Int} {u : Unit}
    (inMemory : storeInMemory address size value machine = true)
    (h : write address size value machine = .ok u machine') :
    writeOwn address size value machine = .ok u machine' := by
  obtain ⟨⟨device, range⟩, machine₁, hdevice, h⟩ := bind_eq_ok.mp h
  refine (bind_ok hdevice _).trans ?_
  rw [storeInMemory, hdevice] at inMemory
  obtain ⟨m, hget, rfl, -⟩ := getDevice_ok hdevice
  obtain ⟨rfl, -, -, -⟩ := RangeManger.getRange_ok hget
  cases device with
  | ram | clint | uart | plic => exact h
  | virtio =>
      dsimp only at inMemory h ⊢
      split at h
      next hnotify =>
          rw [if_pos hnotify]
          rw [decide_eq_false (not_not_intro hnotify.2), Bool.false_or] at inMemory
          obtain ⟨virtio', hown, rfl⟩ := run_inMemory inMemory h
          rw [DmaScript.run_processQueue] at hown
          rw [onVirtio, on, hown]
      next hother =>
          rw [if_neg hother]
          exact h

end Runs

end XV6

end Riscvm.Python
