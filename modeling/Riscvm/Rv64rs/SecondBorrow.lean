import Riscvm.Rv64rs.NotifyFits

/-!
# Borrowed twice

A store to the notify register runs the device while it is borrowed. On a machine that `new_smp`
built it returns unless an access of the device is dispatched back to the device, or a number of
the notify does not fit.
-/

namespace Riscvm.Rv64rs

open Bytes Exec

namespace Bus

section Notify

variable [Host]

/-- The state in which the device makes a request is laid out like the one it was notified in. -/
theorem sameShape_of_asks {bus t : Bus} {γ α : Type} {r : DmaRequest γ} {script : DmaScript α}
    (h : Script.Asks handle r t script bus) : SameShape bus t := by
  refine h.invariant (P := SameShape bus) (fun β q s b s' hs hq => hs.trans ?_) (.refl bus)
  have := keepsShape_handle β q s
  rwa [hq] at this

/-- The device comes to make an access that is dispatched back to it. -/
def ComesBack (queueIdx : U32) (bus : Bus) : Prop :=
  ∃ (γ : Type) (r : DmaRequest γ) (t : Bus),
    Script.Asks handle r t (DmaScript.processQueue queueIdx) bus ∧ bus.Reenters γ r

theorem borrows_processQueue_iff {bus : Bus} (booted : bus.Booted) (queueIdx : U32) :
    (∃ t, VirtIOBlk.processQueue queueIdx bus = .error (.panic .alreadyBorrowed) t) ↔
      bus.ComesBack queueIdx := by
  rw [← DmaScript.run_processQueue]
  constructor
  · rintro ⟨u, h⟩
    obtain ⟨γ, r, t, hasks, hr⟩ := Script.run_eq_error.mp h
    have same := sameShape_of_asks hasks
    have sound := (DmaScript.sound_processQueue queueIdx).asks hasks
    refine ⟨γ, r, t, hasks, (same.reenters_iff r).mp ?_⟩
    exact (handle_borrows_iff (same.booted booted) sound).mp ⟨u, hr⟩
  · rintro ⟨γ, r, t, hasks, hreenters⟩
    have same := sameShape_of_asks hasks
    have sound := (DmaScript.sound_processQueue queueIdx).asks hasks
    obtain ⟨u, hr⟩ := (handle_borrows_iff (same.booted booted) sound).mpr
      ((same.reenters_iff r).mpr hreenters)
    exact ⟨u, Script.run_eq_error.mpr ⟨γ, r, t, hasks, hr⟩⟩

/-- An access that does not come back to the device is answered. -/
theorem answered_of_not_comesBack {bus : Bus} {queueIdx : U32} (booted : bus.Booted)
    (never : ¬bus.ComesBack queueIdx) : Script.Trusted VirtIOBlk.IsPanic VirtIOBlk.Accesses handle
      (DmaScript.processQueue queueIdx) bus := by
  intro γ r t hasks access hfails
  have same := sameShape_of_asks hasks
  have hreenters : ¬t.Reenters γ r :=
    fun h => never ⟨γ, r, t, hasks, (same.reenters_iff r).mp h⟩
  rw [VirtIOBlk.failsBy_isPanic] at hfails
  cases r with
  | device | update f | require holds cause => exact access
  | read address size => exact not_panics_dmaRead (same.booted booted) hreenters hfails
  | write address size value =>
      exact not_panics_dmaWrite (same.booted booted) value hreenters hfails

/-- A store to the notify register of a machine laid out as `new_smp` built it returns `Ok` or
`Err` exactly if none of the device's accesses comes back to the device and the numbers of its
rounds fit, and it borrows the device a second time exactly if an access comes back. -/
theorem notify_returns_iff {program : List U8} {start : U64} {uartOutput : Option (List U8)}
    {uartInput : Option (List (Option (List U8)))} {diskImage : Option (List U8)} {ncpu : U64}
    {emu : Xv6Emulator} {built : Bus}
    (boot : Xv6Emulator.newSmp program start uartOutput uartInput diskImage ncpu = .ok emu built)
    {bus : Bus} (shape : SameShape emu.bus bus) {address : U64} (notifies : bus.Notifies address)
    (value : U64) :
    (¬Panics (write address 4 value bus) ↔ ¬bus.ComesBack (value.setWidth 32) ∧
      VirtIOBlk.NotifyFits bus (value.setWidth 32)) ∧
    ((∃ t, write address 4 value bus = .error (.panic .alreadyBorrowed) t) ↔
      bus.ComesBack (value.setWidth 32)) := by
  have booted := shape.booted (Xv6Emulator.booted_newSmp boot)
  have hborrows := borrows_processQueue_iff booted (value.setWidth 32)
  have demands (never : ¬bus.ComesBack (value.setWidth 32)) :=
    VirtIOBlk.needs_processQueue (value.setWidth 32) booted.wf.bounded
      (answered_of_not_comesBack booted never)
  rw [VirtIOBlk.failsBy_isPanic, DmaScript.run_processQueue] at demands
  rw [write_notify booted notifies]
  refine ⟨⟨fun returns => ?_, fun ⟨never, fits⟩ => (demands never).mpr fits⟩, hborrows⟩
  have never : ¬bus.ComesBack (value.setWidth 32) := by
    intro comesBack
    obtain ⟨t, hborrow⟩ := hborrows.mpr comesBack
    exact returns ⟨_, t, hborrow⟩
  exact ⟨never, (demands never).mp returns⟩

end Notify

section Kernel

attribute [local instance] Host.dev

/-- The driver has put the available ring into the device's own window. -/
def ringInWindow (bus : Bus) : Bus :=
  { bus with
    dev := { bus.dev with
      virtio := { bus.dev.virtio with
        queueNum := 1, queueReady := 1, availAddr := VIRTIO_DISK_BASE } } }

theorem sameShape_ringInWindow (bus : Bus) : SameShape bus bus.ringInWindow :=
  ⟨fun w => by cases w <;> rfl, rfl, rfl, rfl, rfl, fun w => by cases w <;> rfl, rfl, rfl⟩

/-- Where the kernel's machine has its device. -/
theorem locate_virtio_kernel {emu : Xv6Emulator} {built : Bus}
    (boot : Xv6Emulator.newSmp [0x13, 0, 0, 0] 0x80000000 none none none 1 = .ok emu built) :
    (emu.bus.ramRange = ⟨0x80000000, 0x1000⟩ ∧
        emu.bus.range .virtio = ⟨VIRTIO_DISK_BASE, VirtIOBlk.len⟩) ∧
      emu.bus.locate (VIRTIO_DISK_BASE + 0x050) 4 = some .virtio ∧
      emu.bus.locate (VIRTIO_DISK_BASE + 2) 2 = some .virtio := by
  obtain ⟨ramLen, stackBegin, hram, hstack, -, hwindows⟩ := Xv6Emulator.newSmp_spec boot
  obtain rfl : ramLen = 0x1000 := BitVec.eq_of_toNat_eq hram
  subst hstack
  simp only [windows, List.cons.injEq, and_true] at hwindows
  obtain ⟨hram, hstack, hboot, hclint, huart, hplic, hvirtio⟩ := hwindows
  simp only [locate, Window.all, range, List.find?, hram, hstack, hboot, hclint, huart, hplic,
    hvirtio]
  decide

/-- A table that reads two bytes of sector 0 in three descriptors. -/
def readTable : List U8 :=
  leBytes 16 (0x80000200 + 2 ^ 64 * 16 + 2 ^ 96 * 1 + 2 ^ 112 * 1) ++
    leBytes 16 (0x80000210 + 2 ^ 64 * 2 + 2 ^ 96 * 3 + 2 ^ 112 * 2) ++
    leBytes 16 (0x80000212 + 2 ^ 64 * 1 + 2 ^ 96 * 2)

/-- The driver has published the request of the table, which stands in RAM behind the program. -/
def queueInRam (bus : Bus) : Bus :=
  ((bus.withVirtio { bus.dev.virtio with
    queueNum := 4, queueReady := 1, descAddr := 0x80000100, availAddr := 0x80000140,
    usedAddr := 0x80000160 }).poke 0x80000100 readTable).poke 0x80000142 (leBytes 2 1)

/-- Storing to RAM leaves the layout as it is. -/
theorem sameShape_poke {bus : Bus} (wf : bus.Wf) {a : Nat} {bytes : List U8}
    (h : bus.InRam a bytes.length) : SameShape bus (bus.poke a bytes) := by
  have wf' := wf.poke h
  refine ⟨range_poke bus a bytes, rfl, rfl, rfl, rfl, fun w => ?_, rfl, rfl⟩
  cases w with
  | ram => exact congrArg some ((wf'.length .ram _ rfl).trans (wf.length .ram _ rfl).symm)
  | stack => exact congrArg some ((wf'.length .stack _ rfl).trans (wf.length .stack _ rfl).symm)
  | bootloader =>
      exact congrArg some ((wf'.length .bootloader _ rfl).trans (wf.length .bootloader _ rfl).symm)
  | clint | uart | plic | virtio => rfl

theorem sameShape_queueInRam {bus : Bus} (wf : bus.Wf) (start : bus.ramRange.start = 0x80000000)
    (size : bus.ramRange.size = 0x1000) : SameShape bus bus.queueInRam := by
  have hpoke {bus' : Bus} (shape : SameShape bus bus') {a : Nat} {bytes : List U8}
      (above : 0x80000000 ≤ a) (below : a + bytes.length ≤ 0x80001000) :
      SameShape bus (bus'.poke a bytes) := by
    have hrange : bus'.ramRange = bus.ramRange := shape.ranges .ram
    refine shape.trans (sameShape_poke (shape.wf wf) (.ofRam ?_ ?_))
    · rw [hrange, start]
      exact above
    · rw [hrange, start, size]
      exact below
  have hdevice (virtio : VirtIOBlk) : SameShape bus (bus.withVirtio virtio) :=
    ⟨fun w => by cases w <;> rfl, rfl, rfl, rfl, rfl, fun w => by cases w <;> rfl, rfl, rfl⟩
  exact hpoke (hpoke (hdevice _) (by decide) (by decide)) (by decide) (by decide)

/-- The kernel's machine notified of a queue in its RAM. -/
theorem notify_returns_iff_kernel :
    ∃ emu built, Xv6Emulator.newSmp [0x13, 0, 0, 0] 0x80000000 none none none 1 = .ok emu built ∧
      (¬Panics (write (VIRTIO_DISK_BASE + 0x050) 4 0 emu.bus.queueInRam) ↔
        ¬emu.bus.queueInRam.ComesBack 0 ∧ VirtIOBlk.NotifyFits emu.bus.queueInRam 0) := by
  obtain ⟨emu, built, boot⟩ := Xv6Emulator.boots_kernel
  obtain ⟨⟨hram, hrange⟩, hnotify, -⟩ := locate_virtio_kernel boot
  have booted := Xv6Emulator.booted_newSmp boot
  have shape : SameShape emu.bus emu.bus.queueInRam :=
    sameShape_queueInRam booted.wf (congrArg Range.start hram) (congrArg Range.size hram)
  have notifies : emu.bus.queueInRam.Notifies (VIRTIO_DISK_BASE + 0x050) :=
    ⟨(shape.locate_eq _ _).trans hnotify, by rw [shape.offset_eq, offset, hrange]; decide⟩
  exact ⟨emu, built, boot, (notify_returns_iff boot shape notifies 0).1⟩

/-- The notified device looks for its ring in its own window. -/
theorem notify_borrows_twice :
    ∃ emu built, Xv6Emulator.newSmp [0x13, 0, 0, 0] 0x80000000 none none none 1 = .ok emu built ∧
      ∃ t, write (VIRTIO_DISK_BASE + 0x050) 4 0 emu.bus.ringInWindow =
        .error (.panic .alreadyBorrowed) t := by
  obtain ⟨emu, built, boot⟩ := Xv6Emulator.boots_kernel
  obtain ⟨⟨-, hrange⟩, hnotify, hring⟩ := locate_virtio_kernel boot
  have shape := sameShape_ringInWindow emu.bus
  have booted := shape.booted (Xv6Emulator.booted_newSmp boot)
  have notifies : emu.bus.ringInWindow.Notifies (VIRTIO_DISK_BASE + 0x050) :=
    ⟨(shape.locate_eq _ _).trans hnotify, by rw [shape.offset_eq, offset, hrange]; decide⟩
  have hadd : (add VIRTIO_DISK_BASE 2 : Call Bus U64) = pure (VIRTIO_DISK_BASE + 2) :=
    add_of_lt (by decide)
  have hreenters : emu.bus.ringInWindow.ReadReenters (VIRTIO_DISK_BASE + 2) 2 :=
    .inl ((shape.locate_eq _ _).trans hring)
  refine ⟨emu, built, boot, emu.bus.ringInWindow, ?_⟩
  rw [write_notify booted notifies, VirtIOBlk.processQueue, get_bind_apply]
  change ((add VIRTIO_DISK_BASE 2 : Call Bus U64) >>= _) _ = _
  rw [hadd, pure_bind_apply, bind_error (dmaRead_reenters booted hreenters)]

end Kernel

end Bus

end Riscvm.Rv64rs
