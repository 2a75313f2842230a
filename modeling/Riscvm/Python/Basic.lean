import Riscvm.Foundation.Exec

/-!
# The Python emulator: exceptions

`exception.py`, and the exceptions the interpreter itself raises. A Python call is a
transformer of the objects it can reach; an exception keeps what was changed before
it was raised.
-/

namespace Riscvm.Python

/-- A number in the lower-case hexadecimal of `{:x}`. -/
def hex (n : Int) : String :=
  if n < 0 then "-" ++ String.ofList (Nat.toDigits 16 n.natAbs)
  else String.ofList (Nat.toDigits 16 n.toNat)

/-- `{:0wx}`: hexadecimal padded with zeros to `width` characters. -/
def hexPad (width : Nat) (n : Int) : String :=
  let digits := hex n
  String.ofList (List.replicate (width - digits.length) '0') ++ digits

/-- Every `InternalException`, with the values its message interpolates. -/
inductive InternalException where
  | invalidRange (start size : Int)
  | overflowRange (start size : Int)
  | cannotFit (start size : Int) (ranges : List (Int × Int))
  | noDevice
  | noDeviceCovers (start stop : Int)
  | invalidAddressSize (address : Int)
  | unsupportedMode (mode : Int)
  | walkExhausted (va : Int)
  | invalidPte (va : Int) (level : Nat) (pte pteAddr : Int)
  | reservedPte (va : Int)
  | permission (access : String) (va pte : Int)
  | misalignedSuperpage (va : Int)
  | zeroImmediate
  | invalidInstruction (value pc : Int)
  deriving DecidableEq, Repr

/-- The message of the exception. -/
def InternalException.message : InternalException → String
  | .invalidRange start size => s!"invalid range ({start}, {size})"
  | .overflowRange start size => s!"overflow range ({start}, {size})"
  | .cannotFit start size ranges =>
      let held := String.join (ranges.map fun r => s!"[{hex r.1} - {hex (r.1 + r.2)})")
      s!"range ({start}, {size}) cannot fit in {held}"
  | .noDevice => "no device mapped to this address range"
  | .noDeviceCovers start stop => s!"no device mapped to cover (0x{hex start}, 0x{hex stop})"
  | .invalidAddressSize address => s!"invalid address size {address}"
  | .unsupportedMode mode => s!"unsupported satp MODE {mode} (only Bare and Sv39 are implemented)"
  | .walkExhausted va => s!"page fault: page table walk exhausted translating VA 0x{hex va}"
  | .invalidPte va level pte pteAddr =>
      s!"page fault: invalid PTE translating VA 0x{hex va} (level {level}, pte 0x{hex pte} " ++
        s!"@0x{hex pteAddr})"
  | .reservedPte va =>
      s!"page fault: reserved PTE encoding (W without R/X) translating VA 0x{hex va}"
  | .permission access va pte =>
      s!"page fault: permission denied ({access}) translating VA 0x{hex va} (pte 0x{hex pte})"
  | .misalignedSuperpage va => s!"page fault: misaligned superpage translating VA 0x{hex va}"
  | .zeroImmediate => "unexpected zero immediate value"
  | .invalidInstruction value pc =>
      s!"invalid instruction: 0x{hexPad 8 value} @0x{hexPad 16 pc}"

/-- `ArchitecturalTrap`; `illegal` marks the subclass `IllegalInstruction`. -/
structure ArchitecturalTrap where
  cause : Int
  tval : Int
  illegal : Bool
  deriving DecidableEq, Repr

/-- What a call can raise. -/
inductive Exception where
  | internal (e : InternalException)
  | trap (t : ArchitecturalTrap)
  | assertionError
  | indexError
  | keyError
  | attributeError
  deriving DecidableEq, Repr

/-- A call that can change `σ`. -/
abbrev Call (σ α : Type) := EStateM Exception σ α

variable {σ α : Type}

/-- `error(message)` of `exception.py`. -/
def error (e : InternalException) : Call σ α := throw (.internal e)

def raise (t : ArchitecturalTrap) : Call σ α := throw (.trap t)

/-- `assert p`. -/
def assert (p : Prop) [Decidable p] : Call σ Unit :=
  if p then return () else throw .assertionError

@[simp] theorem error_apply (e : InternalException) (s : σ) :
    (error e : Call σ α) s = .error (.internal e) s := rfl

@[simp] theorem raise_apply (t : ArchitecturalTrap) (s : σ) :
    (raise t : Call σ α) s = .error (.trap t) s := rfl

theorem assert_eq_ok {p : Prop} [Decidable p] {u : Unit} {s t : σ} :
    (assert p : Call σ Unit) s = .ok u t ↔ p ∧ t = s := by
  unfold assert
  by_cases h : p
  · simp [h, eq_comm]
  · simp [h]

end Riscvm.Python
