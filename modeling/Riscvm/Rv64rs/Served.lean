import Riscvm.Rv64rs.Reentrancy

/-!
# Buses that serve their windows

A bus on which every window belongs to a device answers each access with a value or an `Err`.
The one exception is a store to the notify register, which runs the block device's queue.
-/

namespace Riscvm.Rv64rs

open Exec

theorem not_panics_bind {σ α β : Type} {x : Call σ α} {f : α → Call σ β} {s : σ}
    (first : ¬Panics (x s)) (rest : ∀ a t, x s = .ok a t → ¬Panics (f a t)) :
    ¬Panics ((x >>= f) s) := by
  rintro ⟨cause, t, h⟩
  obtain h | ⟨a, u, hx, h⟩ := bind_eq_error.mp h
  · exact first ⟨cause, t, h⟩
  · exact rest a u hx ⟨cause, t, h⟩

namespace Bus

/-- Every window is in place: its range is proper, its device is held, the timers fit into the
CLINT and the registered irqs into the PLIC. -/
structure Served (bus : Bus) : Prop where
  wf : bus.Wf
  holds : ∀ w, (bus.range w).size ≠ 0 → bus.holds w = true
  timers : bus.dev.clint.Fits
  registered : bus.dev.plic.Registered

theorem registered_xv6 {plic : Plic} (lines : plic.devicesByIrq = Xv6Emulator.plic.devicesByIrq) :
    plic.Registered := by
  unfold Plic.Registered
  rw [lines]
  decide

theorem Booted.served {bus : Bus} (booted : bus.Booted) : bus.Served :=
  ⟨booted.wf, fun w _ => booted.holds w, booted.timers, registered_xv6 booted.lines⟩

/-- A window that holds an access of at least one byte is not empty. -/
theorem Served.holds_of_locate {bus : Bus} (served : bus.Served) {address n : U64} {w : Window}
    (h : bus.locate address n = some w) (pos : n ≠ 0) : bus.holds w = true := by
  refine served.holds w fun hsize => ?_
  obtain ⟨hstart, hstop⟩ := contains_of_locate h
  have hstart := BitVec.le_def.mp hstart
  have hpos := BitVec.toNat_pos_of_ne_zero pos
  rw [hsize, show (0 : U64).toNat = 0 from rfl] at hstop
  omega

variable [Host] {bus : Bus} {address : U64} {size : U8}

omit [Host] in
theorem raises_virtio_read (address : U64) (size : U8) :
    Raises IsErr (VirtIOBlk.read address size) := by
  unfold VirtIOBlk.read
  refine .ite (raises_error _) (.bind .get fun device => ?_)
  split <;> exact .pure _

theorem not_panics_plic_read {plic : Plic} (registered : plic.Registered) (dev : Devices)
    (address : U64) (size : U8) (bus : Bus) :
    ¬Panics (plic.read (lineStatus dev false) address size bus) := by
  by_cases hclaim : size = 4 ∧ Plic.ClaimRegister address
  · obtain ⟨rfl, hclaim⟩ := hclaim
    obtain ⟨k, hk, -⟩ := Plic.claimIrq_eq (σ := Bus) registered dev.level (Plic.contextOf address)
    rw [Plic.read_claimRegister hclaim, Devices.lineStatus_false, hk]
    exact not_panics_ok _ _
  · exact not_panics_of_raises (Plic.raises_read plic _ hclaim) bus

/-- A read returns a value or an `Err`. -/
theorem not_panics_read (served : bus.Served) (pos : size ≠ 0) :
    ¬Panics (read address size bus) := by
  have hpos : size.setWidth 64 ≠ (0 : U64) :=
    fun h => pos ((Bits.setWidth_eq_zero size (by decide)).mp h)
  refine not_panics_readAt served.wf served.timers (fun w hw => served.holds_of_locate hw hpos)
    (fun _ => not_panics_plic_read served.registered _ _ _ _) fun _ => ⟨rfl, ?_⟩
  exact not_panics_of_raises (raises_virtio_read _ _) _

/-- Away from the notify register the block device only sets its registers. -/
theorem raises_virtio_write {size : U8} (h : ¬(size = 4 ∧ address = 0x050)) (value : U64) :
    Raises IsErr (VirtIOBlk.write address size value) := by
  have hupdate (f : VirtIOBlk → VirtIOBlk) : Raises IsErr (onVirtio (modify f)) :=
    Raises.zoom (by rintro s e t ⟨⟩)
  unfold VirtIOBlk.write
  by_cases hsize : size ≠ 4
  · rw [if_pos hsize]
    exact raises_error _
  rw [if_neg hsize]
  dsimp only
  split
  all_goals first
    | exact hupdate _
    | exact .pure _
    | exact absurd ⟨Decidable.not_not.mp hsize, rfl⟩ h

/-- A write that is not a notify returns or is an `Err`. -/
theorem not_panics_write (served : bus.Served) (pos : size ≠ 0)
    (h : ¬(size = 4 ∧ bus.Notifies address)) (value : U64) :
    ¬Panics (write address size value bus) := by
  have hpos : size.setWidth 64 ≠ (0 : U64) :=
    fun h => pos ((Bits.setWidth_eq_zero size (by decide)).mp h)
  refine not_panics_writeWith served.wf served.timers
    (fun w hw => served.holds_of_locate hw hpos) value fun hw => ?_
  refine not_panics_of_raises (raises_virtio_write (fun hnotify => h ?_) value) bus
  obtain ⟨rfl, hoffset⟩ := hnotify
  exact ⟨rfl, hw, hoffset⟩

end Bus

end Riscvm.Rv64rs
