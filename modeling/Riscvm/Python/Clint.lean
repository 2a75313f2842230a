import Riscvm.Python.Bus
import Riscvm.Python.Emulator

/-!
# A CPU with a timer

`clint.py`, and the board of a CPU that holds a `clint`. The bus of that board maps RAM only, so
that an access to the registers of the device raises.
-/

namespace Riscvm.Python

open Exec

structure Clint where
  mtime : Int
  mtimecmp : List Int
  deriving DecidableEq, Repr

namespace Clint

/-- No timer runs out before it is set. -/
def new (nhart : Nat) : Clint := ⟨0, List.replicate nhart (2 ^ 64 - 1)⟩

def tick : Call Clint Unit := modify fun clint => { clint with mtime := u 64 (clint.mtime + 1) }

def pending (hart : Nat) : Call Clint Bool := do
  let clint ← get
  match clint.mtimecmp[hart]? with
  | some mtimecmp => return decide (clint.mtime ≥ mtimecmp)
  | none => throw .indexError

def MTIME_OFFSET : Int := 0xbff8
def MTIMECMP_OFFSET : Int := 0x4000

/-- The address of a timer, of which there are as many as harts. -/
def OfTimer (clint : Clint) (address : Int) : Prop :=
  MTIMECMP_OFFSET ≤ address ∧ address < MTIMECMP_OFFSET + 8 * clint.mtimecmp.length

instance (clint : Clint) (address : Int) : Decidable (clint.OfTimer address) :=
  inferInstanceAs (Decidable (_ ∧ _))

def read (address size : Int) : Call Clint Int := do
  assert (size = 8)
  let clint ← get
  if address = MTIME_OFFSET then return clint.mtime
  else if clint.OfTimer address then
    RangeManger.item clint.mtimecmp ((address - MTIMECMP_OFFSET) / 8).toNat
  else return 0

def write (address size value : Int) : Call Clint Unit := do
  assert (size = 8)
  let clint ← get
  if address = MTIME_OFFSET then modify fun clint => { clint with mtime := u 64 value }
  else if clint.OfTimer address then
    modify fun clint =>
      { clint with
        mtimecmp := clint.mtimecmp.set ((address - MTIMECMP_OFFSET) / 8).toNat (u 64 value) }
  else return ()

end Clint

structure TimerBoard where
  bus : Bus
  clint : Clint

namespace TimerBoard

def onBus {α : Type} (x : Call Bus α) : Call TimerBoard α :=
  zoom bus (fun bus board => { board with bus }) x

def onClint {α : Type} (x : Call Clint α) : Call TimerBoard α :=
  zoom clint (fun clint board => { board with clint }) x

theorem onBus_ok {α : Type} {x : Call Bus α} {board board' : TimerBoard} {a : α}
    (h : onBus x board = .ok a board') :
    ∃ bus, x board.bus = .ok a bus ∧ board' = { board with bus } := by
  unfold onBus zoom at h
  cases hx : x board.bus with
  | ok b bus =>
      rw [hx] at h
      cases h
      exact ⟨bus, rfl, rfl⟩
  | error e bus =>
      rw [hx] at h
      cases h

theorem onBus_no_trap {α : Type} {x : Call Bus α}
    (h : ∀ s t s', x s ≠ .error (.trap t) s') (board : TimerBoard) (t : ArchitecturalTrap)
    (board' : TimerBoard) : onBus x board ≠ .error (.trap t) board' := by
  intro hx
  unfold onBus zoom at hx
  cases hbus : x board.bus with
  | ok a bus =>
      rw [hbus] at hx
      cases hx
  | error e bus =>
      rw [hbus] at hx
      cases hx
      exact h _ _ _ hbus

instance : Board TimerBoard where
  read address size := onBus (Board.read address size)
  write address size value := onBus (Board.write address size value)
  clint := some ⟨onClint Clint.tick, fun hart => onClint (Clint.pending hart)⟩
  plic := none
  uart := none
  read_no_trap address size := onBus_no_trap (Board.read_no_trap address size)
  write_no_trap address size value := onBus_no_trap (Board.write_no_trap address size value)

end TimerBoard

end Riscvm.Python
