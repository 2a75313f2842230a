import Riscvm.Foundation.Bytes
import Riscvm.Rv64rs.Basic

/-!
# RAM and the range manager

`Ram` is `ram.rs`: a flat byte vector read and written little-endian in widths
1, 2, 4 and 8. `Range` and `RangeManager` are the first half of `bus.rs`.
-/

namespace Riscvm.Rv64rs

open Bytes Exec

structure Ram where
  data : List U8

namespace Ram

def new (size : U64) : Ram := ⟨List.replicate size.toNat 0⟩

/-- Pad up to `size` or the content's length, whichever is larger. -/
def withContent (size : U64) (content : List U8) : Ram :=
  let len := max size.toNat content.length
  ⟨content ++ List.replicate (len - content.length) 0⟩

def len (ram : Ram) : U64 := BitVec.ofNat 64 ram.data.length

def read (address : U64) (size : U8) : Call Ram U64 := do
  let ram ← get
  let a := address.toNat
  match size with
  | 1#8 => return (← index ram.data a).setWidth 64
  | 2#8 => return BitVec.ofNat 64 (leNat (← slice ram.data a (a + 2)))
  | 4#8 => return BitVec.ofNat 64 (leNat (← slice ram.data a (a + 4)))
  | 8#8 => return BitVec.ofNat 64 (leNat (← slice ram.data a (a + 8)))
  | _ => error (.invalidAddressSize address)

def write (address : U64) (size : U8) (value : U64) : Call Ram Unit := do
  let ram ← get
  let a := address.toNat
  match size with
  | 1#8 => set (Ram.mk (← copyFromSlice ram.data a (a + 1) [value.setWidth 8]))
  | 2#8 => set (Ram.mk (← copyFromSlice ram.data a (a + 2) (leBytes 2 value.toNat)))
  | 4#8 => set (Ram.mk (← copyFromSlice ram.data a (a + 4) (leBytes 4 value.toNat)))
  | 8#8 => set (Ram.mk (← copyFromSlice ram.data a (a + 8) (leBytes 8 value.toNat)))
  | _ => error (.invalidAddressSize address)

theorem readOnly_read (address : U64) (size : U8) : ReadOnly (read address size) := by
  unfold read
  refine .bind .get fun ram => ?_
  split
  · exact (readOnly_index _ _).bind fun _ => .pure _
  · exact (readOnly_slice _ _ _).bind fun _ => .pure _
  · exact (readOnly_slice _ _ _).bind fun _ => .pure _
  · exact (readOnly_slice _ _ _).bind fun _ => .pure _
  · exact readOnly_error _

/-- The widths of an access. -/
def Width (size : U8) : Prop := size = 1 ∨ size = 2 ∨ size = 4 ∨ size = 8

instance (size : U8) : Decidable (Width size) := inferInstanceAs (Decidable (_ ∨ _))

variable {ram : Ram} {address : U64} {size : U8}

theorem read_ok (width : Width size) (h : address.toNat + size.toNat ≤ ram.data.length) :
    read address size ram =
      .ok (BitVec.ofNat 64 (leNat (extract ram.data address.toNat size.toNat))) ram := by
  rcases width with rfl | rfl | rfl | rfl
  · have hbyte : extract ram.data address.toNat 1 = [ram.data[address.toNat]] := by
      rw [extract, List.drop_eq_getElem_cons h, List.take_succ_cons, List.take_zero]
    change (index ram.data address.toNat >>= fun b => pure (b.setWidth 64)) ram = _
    rw [index_of_lt h, pure_bind_apply]
    change _ = EStateM.Result.ok (BitVec.ofNat 64 (leNat (extract ram.data address.toNat 1))) ram
    have hvalue : ram.data[address.toNat].setWidth 64 =
        BitVec.ofNat 64 (leNat [ram.data[address.toNat]]) := by
      apply BitVec.eq_of_toNat_eq
      simp
    rw [hbyte, ← hvalue, pure_apply]
  all_goals
    refine (bind_ok (congrFun (slice_of_le (Nat.le_add_right _ _) h) ram) _).trans ?_
    rw [Nat.add_sub_cancel_left]
    rfl

theorem write_ok (width : Width size) (h : address.toNat + size.toNat ≤ ram.data.length)
    (value : U64) :
    write address size value ram =
      .ok () ⟨splice ram.data address.toNat (leBytes size.toNat value.toNat)⟩ := by
  rcases width with rfl | rfl | rfl | rfl
  all_goals
    refine (bind_ok (congrFun (copyFromSlice_of_le h (by simp)) ram) _).trans ?_
    rw [splice, leBytes_length]
    rfl

end Ram

structure Range where
  start : U64
  size : U64
  deriving DecidableEq, Repr

namespace Range

/-- The sentinel of an unpopulated slot. -/
def none : Range := ⟨0, 0⟩

def contains [Host] {σ : Type} (range : Range) (address size : U64) : Call σ Bool := do
  match checkedAdd address size with
  | some stop =>
      -- `&&` evaluates the end of the range only when the start test passed
      if range.start ≤ address then
        let rangeEnd ← add range.start range.size
        return decide (stop ≤ rangeEnd)
      else return false
  | .none => return false

theorem readOnly_contains [Host] {σ : Type} (range : Range) (address size : U64) :
    ReadOnly (range.contains address size : Call σ Bool) := by
  unfold contains
  split
  · exact .ite ((readOnly_add _ _).bind fun _ => .pure _) (.pure _)
  · exact .pure _

end Range

structure RangeManager where
  starts : List U64
  sizes : List U64
  deriving DecidableEq, Repr

namespace RangeManager

def new : RangeManager := ⟨[], []⟩

/-- `slice::partition_point` on a slice that is partitioned by `p`. -/
def partitionPoint (xs : List U64) (p : U64 → Bool) : Nat := (xs.takeWhile p).length

variable [Host]

/-- The held ranges with their ends, as `describe` prints them. -/
def describe : Call RangeManager (List (U64 × U64)) := do
  let manager ← get
  (manager.starts.zip manager.sizes).mapM fun r => do return (r.1, ← add r.1 r.2)

/-- Refuse `range` because it does not fit between the held ranges. -/
def cannotFit (range : Range) : Call RangeManager Nat := do
  error (.cannotFit range.start range.size (← describe))

def addRange (range : Range) : Call RangeManager Nat := do
  if range.size = 0 then error (.invalidRange range.start range.size)
  else if checkedAdd range.start range.size = none then
    error (.overflowRange range.start range.size)
  else
    let manager ← get
    let position := partitionPoint manager.starts (· < range.start)
    if position = manager.starts.length then
      let fits ← if 0 < position then do
          let prevEnd ← add (← index manager.starts (position - 1))
            (← index manager.sizes (position - 1))
          pure (decide (prevEnd ≤ range.start))
        else pure true
      if fits then
        set (RangeManager.mk (manager.starts ++ [range.start]) (manager.sizes ++ [range.size]))
        return position
      else cannotFit range
    else
      let next ← index manager.starts position
      if next = range.start then cannotFit range
      else
        let stop ← add range.start range.size
        if next < stop then cannotFit range
        else
          set (RangeManager.mk (manager.starts.insertIdx position range.start)
            (manager.sizes.insertIdx position range.size))
          return position

def getRange (address size : U64) : Call RangeManager (Nat × Range) := do
  if size = 0 then error (.invalidRange address size)
  else if checkedAdd address size = none then error (.overflowRange address size)
  else
    let manager ← get
    let position := partitionPoint manager.starts (· ≤ address)
    if position = 0 then error .noDevice
    else
      let targetStart ← index manager.starts (position - 1)
      let targetSize ← index manager.sizes (position - 1)
      let stop ← add address size
      let targetEnd ← add targetStart targetSize
      if stop ≤ targetEnd then return (position - 1, ⟨targetStart, targetSize⟩)
      else error (.noDeviceCovers address stop)

end RangeManager

end Riscvm.Rv64rs
