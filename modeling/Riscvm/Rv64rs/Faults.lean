import Riscvm.Rv64rs.Execute
import Riscvm.Rv64rs.QueueScript

/-!
# Where an illegal instruction comes from

Memory, the devices, the bus and the page walk have errors of their own. The error for a word
that is not implemented is raised by `execute` alone.
-/

namespace Riscvm.Rv64rs

open Exec

/-- The error for a word that is not implemented. -/
def IsIllegal (e : Fault) : Prop :=
  ∃ opcode word pc, e = .err (.illegalInstruction opcode word pc)

/-- No run ends in the error for a word that is not implemented. -/
def Legal {σ α : Type} (x : Call σ α) : Prop := Raises (fun e => ¬IsIllegal e) x

namespace Legal

variable {σ τ α β : Type} {x : Call σ α}

theorem pure (a : α) : Legal (pure a : Call σ α) := Raises.pure a

theorem get : Legal (get : Call σ σ) := Raises.get

theorem set (s : σ) : Legal (set s : Call σ PUnit) := Raises.set s

theorem modify (f : σ → σ) : Legal (modify f : Call σ PUnit) := Raises.modify f

theorem panic (cause : Panic) : Legal (panic cause : Call σ α) := by
  refine Raises.throw ?_
  rintro ⟨opcode, word, pc, h⟩
  cases h

theorem error {e : EmuError} (h : ∀ opcode word pc, e ≠ .illegalInstruction opcode word pc) :
    Legal (error e : Call σ α) := by
  refine Raises.throw ?_
  rintro ⟨opcode, word, pc, he⟩
  injection he with he
  exact h opcode word pc he

theorem bind {f : α → Call σ β} (first : Legal x) (rest : ∀ a, Legal (f a)) : Legal (x >>= f) :=
  Raises.bind first rest

theorem ite {p : Prop} [Decidable p] {y : Call σ α} (hx : Legal x) (hy : Legal y) :
    Legal (if p then x else y) := Raises.ite hx hy

theorem zoom {view : τ → σ} {put : σ → τ → τ} (h : Legal x) : Legal (zoom view put x) :=
  Raises.zoom h

end Legal

section Operators

variable {σ α : Type}

theorem legal_index (xs : List α) (i : Nat) : Legal (index xs i : Call σ α) := by
  unfold index
  cases xs[i]? with
  | some x => exact .pure x
  | none => exact .panic _

theorem legal_slice (xs : List α) (a b : Nat) : Legal (slice xs a b : Call σ (List α)) :=
  .ite (.pure _) (.panic _)

theorem legal_copyFromSlice (xs : List α) (a b : Nat) (ys : List α) :
    Legal (copyFromSlice xs a b ys : Call σ (List α)) := .ite (.pure _) (.panic _)

variable [Host] {w : Nat} (a b : BitVec w)

theorem legal_add : Legal (add a b : Call σ (BitVec w)) := .ite (.panic _) (.pure _)

theorem legal_sub : Legal (sub a b : Call σ (BitVec w)) := .ite (.panic _) (.pure _)

theorem legal_mul : Legal (mul a b : Call σ (BitVec w)) := .ite (.panic _) (.pure _)

theorem legal_shl (n : Nat) : Legal (shl a n : Call σ (BitVec w)) := .ite (.panic _) (.pure _)

theorem legal_shr (n : Nat) : Legal (shr a n : Call σ (BitVec w)) := .ite (.panic _) (.pure _)

end Operators

namespace Ram

variable (address : U64) (size : U8)

theorem legal_read : Legal (read address size) := by
  unfold read
  refine .bind .get fun ram => ?_
  dsimp only
  split
  · exact .bind (legal_index _ _) fun _ => .pure _
  · exact .bind (legal_slice _ _ _) fun _ => .pure _
  · exact .bind (legal_slice _ _ _) fun _ => .pure _
  · exact .bind (legal_slice _ _ _) fun _ => .pure _
  · exact .error nofun

theorem legal_write (value : U64) : Legal (write address size value) := by
  unfold write
  refine .bind .get fun ram => ?_
  dsimp only
  split
  · exact .bind (legal_copyFromSlice _ _ _ _) fun _ => .set _
  · exact .bind (legal_copyFromSlice _ _ _ _) fun _ => .set _
  · exact .bind (legal_copyFromSlice _ _ _ _) fun _ => .set _
  · exact .bind (legal_copyFromSlice _ _ _ _) fun _ => .set _
  · exact .error nofun

end Ram

theorem Range.legal_contains [Host] {σ : Type} (range : Range) (address size : U64) :
    Legal (range.contains address size : Call σ Bool) := by
  unfold contains
  split
  · exact .ite (.bind (legal_add _ _) fun _ => .pure _) (.pure _)
  · exact .pure _

namespace Clint

variable [Host] (address : U64) (size : U8)

theorem legal_mtimecmpIndex : Legal (mtimecmpIndex address) := by
  refine .bind .get fun clint => .bind (legal_mul _ _) fun bytes => ?_
  exact .bind (legal_add _ _) fun stop => .ite (.pure _) (.pure _)

theorem legal_read : Legal (read address size) := by
  refine .ite (.error nofun) (.ite (.bind .get fun _ => .pure _) ?_)
  refine .bind (legal_mtimecmpIndex _) fun slot => ?_
  cases slot with
  | some i => exact .bind .get fun clint => legal_index _ _
  | none => exact .pure _

theorem legal_write (value : U64) : Legal (write address size value) := by
  refine .ite (.error nofun) (.ite (.modify _) ?_)
  refine .bind (legal_mtimecmpIndex _) fun slot => ?_
  cases slot with
  | some i => exact .bind .get fun clint => .bind (legal_copyFromSlice _ _ _ _) fun _ => .set _
  | none => exact .pure _

end Clint

namespace Uart

variable (address : U64) (size : U8)

theorem legal_read : Legal (read address size) := by
  unfold read
  refine .ite (.error nofun) (.bind .get fun uart => ?_)
  dsimp only
  split
  · exact .ite (.pure _) (.bind (.set _) fun _ => .pure _)
  · exact .pure _
  · exact .pure _
  · exact .pure _
  · exact .pure _

theorem legal_write (value : U64) : Legal (write address size value) := by
  unfold write
  refine .ite (.error nofun) (.bind .get fun uart => ?_)
  split
  · exact .error nofun
  · exact .error nofun
  · exact .ite (.set _) (.set _)
  · exact .ite (.set _) (.ite (.error nofun) (.set _))
  · exact .set _
  · exact .pure _

end Uart

namespace Plic

variable (address : U64) (size : U8)

theorem legal_write (value : U64) : Legal (write address size value) := by
  refine .ite (.error nofun) (.bind .get fun plic => ?_)
  exact .ite (.set _) (.ite (.set _) (.ite (.ite (.set _) (.pure _)) (.pure _)))

variable [Host] {σ : Type} {status : IrqLine → Call σ U32}

theorem legal_pendingMask (plic : Plic) (hs : ∀ line, Legal (status line)) :
    Legal (plic.pendingMask status) := by
  unfold pendingMask
  suffices h : ∀ mask : U32, Legal (List.foldlM _ mask plic.devicesByIrq) from h 0
  induction plic.devicesByIrq with
  | nil => exact fun mask => .pure mask
  | cons device devices ih =>
      intro mask
      rw [List.foldlM_cons]
      refine .bind (.bind (hs _) fun level => ?_) ih
      exact .ite (.bind (legal_shl _ _) fun _ => .pure _) (.pure _)

theorem legal_read (plic : Plic) (hs : ∀ line, Legal (status line)) :
    Legal (plic.read status address size) := by
  have hclaim (context : U64) : Legal (plic.claimIrq status context) :=
    .bind (plic.legal_pendingMask hs) fun _ => .pure _
  refine .ite (.error nofun) (.ite (.pure _) (.ite (.pure _) (.ite ?_ (.pure _))))
  exact .ite (.pure _) (.ite (.bind (hclaim _) fun _ => .pure _) (.pure _))

end Plic

theorem VirtIOBlk.legal_read (address : U64) (size : U8) : Legal (read address size) := by
  unfold read
  refine .ite (.error nofun) (.bind .get fun device => ?_)
  split
  all_goals exact .pure _

namespace Bus

theorem legal_lineStatus {σ : Type} (dev : Devices) (borrowed : Bool) (line : IrqLine) :
    Legal (lineStatus dev borrowed line : Call σ U32) := by
  cases line with
  | uart => exact .pure _
  | virtio => exact .ite (.panic _) (.pure _)
  | external status => exact .pure _

variable [Host]

theorem legal_compositional : Compositional fun _ x => Legal x where
  bind := .bind
  get := .get
  contains := Range.legal_contains
  offset := legal_sub
  handle := fun _ => .ite (.pure _) (.panic _)
  borrowed := .panic _
  noDevice := .error nofun

theorem legal_readAt (borrowed : Bool) (address : U64) (size : U8) :
    Legal (readAt borrowed address size) := by
  refine legal_compositional.readAt ?_ ?_ ?_ ?_ ?_ ?_ ?_ address
  · exact fun _ => .zoom (Ram.legal_read _ _)
  · exact fun _ => .zoom (Ram.legal_read _ _)
  · exact fun _ => .zoom (Ram.legal_read _ _)
  · exact fun _ => .zoom (Clint.legal_read _ _)
  · exact fun _ => .zoom (Uart.legal_read _ _)
  · exact fun bus _ => Plic.legal_read _ _ _ (legal_lineStatus _ _)
  · exact fun _ => .zoom (VirtIOBlk.legal_read _ _)

theorem legal_writeWith {virtioWrite : U64 → U8 → U64 → Call Bus Unit}
    (hvirtio : ∀ offset size value, Legal (virtioWrite offset size value)) (address : U64)
    (size : U8) (value : U64) : Legal (writeWith virtioWrite address size value) := by
  refine legal_compositional.writeWith ?_ ?_ ?_ ?_ ?_ ?_ ?_ address
  · exact fun _ => .zoom (Ram.legal_write _ _ _)
  · exact fun _ => .zoom (Ram.legal_write _ _ _)
  · exact fun _ => .zoom (Ram.legal_write _ _ _)
  · exact fun _ => .zoom (Clint.legal_write _ _ _)
  · exact fun _ => .zoom (Uart.legal_write _ _ _)
  · exact fun _ => .zoom (Plic.legal_write _ _ _)
  · exact fun _ => hvirtio _ _ _

theorem legal_handle (β : Type) (r : DmaRequest β) : Legal (handle β r) := by
  cases r with
  | device => exact .bind .get fun _ => .pure _
  | update f => exact (Legal.zoom (.modify f) : Legal (onVirtio (modify f)))
  | read address size => exact legal_readAt true address size
  | write address size value => exact legal_writeWith (fun _ _ _ => .panic _) _ _ _
  | require holds cause => exact .ite (.pure _) (.panic _)

theorem legal_virtioWrite (address : U64) (size : U8) (value : U64) :
    Legal (VirtIOBlk.write address size value) := by
  have hqueue (queueIdx : U32) : Legal (VirtIOBlk.processQueue queueIdx) := by
    rw [← DmaScript.run_processQueue]
    exact Script.raises_run legal_handle _
  unfold VirtIOBlk.write
  refine .ite (.error nofun) ?_
  dsimp only
  split
  all_goals first
    | exact hqueue _
    | exact .pure _
    | exact .zoom (.modify _)

theorem legal_write (address : U64) (size : U8) (value : U64) : Legal (write address size value) :=
  legal_writeWith legal_virtioWrite address size value

end Bus

section Machine

variable [Host]

open Machine

theorem Mmu.legal_walkLoop (va : U64) (remaining : Nat) (a : U64) :
    Legal (walkLoop va remaining a) := by
  induction remaining generalizing a with
  | zero => exact .error nofun
  | succ level ih =>
      refine .bind (legal_mul _ _) fun _ => .bind (legal_add _ _) fun _ => ?_
      refine .bind (Bus.legal_readAt _ _ _) fun pte => .ite (.error nofun) (.ite (.pure _) ?_)
      exact .ite (.error nofun) (.bind (legal_mul _ _) fun _ => ih _)

theorem Mmu.legal_translate (va : U64) (access : Access) : Legal (translate va access) := by
  have hleaf (level : Nat) (pte : U64) : Legal (leafPpn va access level pte : Call Bus U64) :=
    .ite (.error nofun) (.ite (.ite (.error nofun) (.pure _)) (.pure _))
  have hwalk (satp : U64) : Legal (walk satp va access) := by
    refine .bind (legal_mul _ _) fun _ => .bind (legal_walkLoop _ _ _) fun leaf => ?_
    exact .bind (hleaf _ _) fun _ => .pure _
  refine .bind .get fun m => .ite (.pure _) (.ite (.error nofun) (.bind .get fun m => ?_))
  dsimp only
  split
  · exact .ite (.error nofun) (.pure _)
  · exact .bind (.zoom (hwalk _)) fun _ => .bind (.modify _) fun _ => .pure _

theorem Trap.legal_raiseTrap (cause : U64) (isInterrupt : Bool) (tval : U64) :
    Legal (raiseTrap cause isInterrupt tval) := by
  have hrest (delegate : Bool) : Legal (if delegate then do
        modify fun cpu => takenS cpu (causeValue cause isInterrupt) tval
        return (← get).csrs.get Csr.STVEC &&& ~~~0b11
      else do
        modify fun cpu => takenM cpu (causeValue cause isInterrupt) tval
        return (← get).csrs.get Csr.MTVEC &&& ~~~0b11 : Call Cpu U64) :=
    .ite (.bind (.modify _) fun _ => .bind .get fun _ => .pure _)
      (.bind (.modify _) fun _ => .bind .get fun _ => .pure _)
  refine .bind .get fun cpu => .ite ?_ (hrest false)
  exact .bind (legal_shr _ _) fun _ => hrest _

theorem Machine.legal_read (address : U64) (size : U8) : Legal (read address size) :=
  .bind (Mmu.legal_translate _ _) fun _ => .zoom (Bus.legal_readAt _ _ _)

theorem Machine.legal_write (address : U64) (size : U8) (value : U64) :
    Legal (write address size value) :=
  .bind (Mmu.legal_translate _ _) fun _ => .zoom (Bus.legal_write _ _ _)

end Machine

end Riscvm.Rv64rs
