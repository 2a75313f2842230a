import Riscvm.Foundation.Bytes
import Riscvm.Python.Cpu
import Riscvm.Python.RangeManger

/-!
# The bus of a plain machine

`bus.py` and `ram.py`: a plain `Emulator` has RAM devices only. The CPU holds no device
handles there, so this is a board by itself.
-/

namespace Riscvm.Python

open Bytes Exec

/-- `RAM`; slices of a `bytearray` are clipped at its end. -/
abbrev Ram := List (BitVec 8)

namespace Ram

def read (address size : Int) (data : Ram) : Call Unit Int :=
  if size = 1 ∨ size = 2 ∨ size = 4 ∨ size = 8 then
    return (leNat (extract data address.toNat size.toNat) : Nat)
  else error (.invalidAddressSize address)

def write (address size value : Int) (data : Ram) : Call Unit Ram :=
  if size = 1 ∨ size = 2 ∨ size = 4 ∨ size = 8 then
    return splice data address.toNat (leBytes size.toNat (value % 256 ^ size.toNat).toNat)
  else error (.invalidAddressSize address)

end Ram

structure Bus where
  rangeManager : RangeManger
  devices : List ((Int × Int) × Ram)

namespace Bus

def new : Bus := ⟨.new, []⟩

def onRangeManger {α : Type} (x : Call RangeManger α) : Call Bus α :=
  zoom rangeManager (fun m bus => { bus with rangeManager := m }) x

/-- `devices[device_range]` together with the range. -/
def getDevice (address size : Int) : Call Bus (Ram × (Int × Int)) := do
  let range ← onRangeManger (RangeManger.getRange address size)
  match (← get).devices.lookup range with
  | some device => return (device, range)
  | none => throw .keyError

/-- A call of a device, which is no object of its own here. -/
def onDevice {α : Type} (x : Call Unit α) : Call Bus α := zoom (fun _ => ()) (fun _ bus => bus) x

def read (address size : Int) : Call Bus Int := do
  let (device, range) ← getDevice address size
  onDevice (Ram.read (address - range.1) size device)

def write (address size value : Int) : Call Bus Unit := do
  let (device, range) ← getDevice address size
  let device ← onDevice (Ram.write (address - range.1) size value device)
  modify fun bus =>
    { bus with devices := bus.devices.map fun d => if d.1 = range then (range, device) else d }

def addDevice (device : Ram) (range : Int × Int) : Call Bus Unit := do
  onRangeManger (RangeManger.addRange range)
  assert ((← get).devices.lookup range = none)
  modify fun bus => { bus with devices := bus.devices ++ [(range, device)] }

/-- Not a trap. -/
def NoTrap (e : Exception) : Prop := ∀ t, e ≠ .trap t

theorem noTrap_error {σ α : Type} (e : InternalException) : Raises NoTrap (error e : Call σ α) :=
  .throw fun _ h => nomatch h

theorem noTrap_assert {σ : Type} (p : Prop) [Decidable p] :
    Raises NoTrap (assert p : Call σ Unit) :=
  .ite (.pure _) (.throw fun _ h => nomatch h)

theorem noTrap_item {σ : Type} (xs : List Int) (k : Nat) :
    Raises NoTrap (RangeManger.item xs k : Call σ Int) := by
  unfold RangeManger.item
  cases xs[k]? with
  | some x => exact .pure x
  | none => exact .throw fun _ h => nomatch h

theorem noTrap_getRange (address size : Int) :
    Raises NoTrap (RangeManger.getRange address size) := by
  refine .ite (noTrap_error _) (.ite (noTrap_error _) (.bind .get fun manager => ?_))
  refine .ite (noTrap_error _) (.bind (noTrap_item _ _) fun start => ?_)
  refine .bind (noTrap_item _ _) fun length => .bind (noTrap_assert _) fun _ => ?_
  exact .ite (.pure _) (noTrap_error _)

theorem noTrap_getDevice (address size : Int) : Raises NoTrap (getDevice address size) := by
  refine .bind (noTrap_getRange _ _).zoom fun range => .bind .get fun bus => ?_
  cases bus.devices.lookup range with
  | some device => exact .pure _
  | none => exact .throw fun _ h => nomatch h

theorem noTrap_read (address size : Int) : Raises NoTrap (read address size) :=
  .bind (noTrap_getDevice _ _) fun _ => Raises.zoom (.ite (.pure _) (noTrap_error _))

theorem noTrap_write (address size value : Int) : Raises NoTrap (write address size value) := by
  refine .bind (noTrap_getDevice _ _) fun _ => ?_
  refine .bind (Raises.zoom (.ite (.pure _) (noTrap_error _))) fun device => ?_
  rintro s e t ⟨⟩

instance : Board Bus where
  read := read
  write := write
  clint := none
  plic := none
  uart := none
  read_no_trap := fun address size s t s' h => noTrap_read address size s _ s' h t rfl
  write_no_trap := fun address size value s t s' h => noTrap_write address size value s _ s' h t rfl

end Bus

end Riscvm.Python
