import Riscvm.Rv64rs.AddressMap
import Riscvm.Rv64rs.PlicClaims
import Riscvm.Rv64rs.QueueScript
import Riscvm.Rv64rs.Windows

/-!
# The shape of a machine

Bus accesses change the contents of memories and devices, never the layout: the windows, the
handles, the sizes of the memories, the registered interrupt lines and the number of timers
stay as `new_smp` set them up.
-/

namespace Riscvm.Rv64rs

open Exec

/-- Storing a slice back fails without an effect or keeps the length. -/
theorem finish_store {σ α : Type} (xs : List α) (a b : Nat) (ys : List α) (f : List α → σ) (s : σ) :
    let r := (do set (f (← copyFromSlice xs a b ys)) : Call σ Unit) s
    finish r = s ∨ ∃ zs, zs.length = xs.length ∧ finish r = f zs := by
  dsimp only
  unfold copyFromSlice
  by_cases h : a ≤ b ∧ b ≤ xs.length ∧ ys.length = b - a
  · rw [if_pos h]
    refine .inr ⟨_, ?_, rfl⟩
    rw [List.length_append, List.length_append, List.length_take, List.length_drop]
    omega
  · rw [if_neg h]
    exact .inl rfl

theorem Ram.keeps_write (address : U64) (size : U8) (value : U64) :
    Keeps (fun ram ram' : Ram => ram'.data.length = ram.data.length)
      (write address size value) := by
  have hstore (ram : Ram) (a b : Nat) (ys : List U8) :
      Keeps (fun ram' ram'' : Ram => ram' = ram → ram''.data.length = ram.data.length)
        (do set (Ram.mk (← copyFromSlice ram.data a b ys)) : Call Ram Unit) := by
    rintro ram rfl
    obtain h | ⟨zs, hlength, h⟩ := finish_store ram.data a b ys Ram.mk ram
    · rw [h]
    · rw [h]
      exact hlength
  unfold write
  refine .get_bind_eq fun ram => ?_
  dsimp only
  split
  · exact hstore _ _ _ _
  · exact hstore _ _ _ _
  · exact hstore _ _ _ _
  · exact hstore _ _ _ _
  · exact fun _ h => congrArg (·.data.length) h

theorem Clint.keeps_write [Host] (address : U64) (size : U8) (value : U64) :
    Keeps (fun clint clint' : Clint => clint'.mtimecmp.length = clint.mtimecmp.length)
      (write address size value) := by
  have hindex : ReadOnly (mtimecmpIndex address) := by
    unfold mtimecmpIndex
    refine .bind .get fun clint => .bind (readOnly_mul _ _) fun bytes => ?_
    exact .bind (readOnly_add _ _) fun stop => .ite (.pure _) (.pure _)
  refine .ite (fun _ => rfl) (.ite (fun _ => rfl) ?_)
  refine .bind (fun h h' => h'.trans h) (hindex.mono fun _ _ h => by rw [h]) fun slot => ?_
  cases slot with
  | none => exact fun _ => rfl
  | some i =>
      intro clint
      obtain h | ⟨zs, hlength, h⟩ := finish_store clint.mtimecmp i (i + 1) [value]
        (fun mtimecmp => { clint with mtimecmp }) clint
      · exact (congrArg (·.mtimecmp.length) h : _)
      · exact (congrArg (·.mtimecmp.length) h).trans hlength

namespace Bus

/-- The layout of the machine. -/
structure SameShape (bus bus' : Bus) : Prop where
  ranges : ∀ w, bus'.range w = bus.range w
  clint : bus'.clint = bus.clint
  uart : bus'.uart = bus.uart
  plic : bus'.plic = bus.plic
  virtio : bus'.virtio = bus.virtio
  lengths : ∀ w, (bus'.memory w).map (·.data.length) = (bus.memory w).map (·.data.length)
  lines : bus'.dev.plic.devicesByIrq = bus.dev.plic.devicesByIrq
  timers : bus'.dev.clint.mtimecmp.length = bus.dev.clint.mtimecmp.length

theorem SameShape.refl (bus : Bus) : SameShape bus bus :=
  ⟨fun _ => rfl, rfl, rfl, rfl, rfl, fun _ => rfl, rfl, rfl⟩

theorem SameShape.trans {bus bus' bus'' : Bus} (h : SameShape bus bus')
    (h' : SameShape bus' bus'') : SameShape bus bus'' :=
  ⟨fun w => (h'.ranges w).trans (h.ranges w), h'.clint.trans h.clint, h'.uart.trans h.uart,
    h'.plic.trans h.plic, h'.virtio.trans h.virtio, fun w => (h'.lengths w).trans (h.lengths w),
    h'.lines.trans h.lines, h'.timers.trans h.timers⟩

def KeepsShape {α : Type} (x : Call Bus α) : Prop := Keeps SameShape x

namespace KeepsShape

variable {α β : Type} {x : Call Bus α}

theorem bind {f : α → Call Bus β} (first : KeepsShape x) (rest : ∀ a, KeepsShape (f a)) :
    KeepsShape (x >>= f) := Keeps.bind SameShape.trans first rest

theorem ite {p : Prop} [Decidable p] {y : Call Bus α} (hx : KeepsShape x) (hy : KeepsShape y) :
    KeepsShape (if p then x else y) := Keeps.ite hx hy

theorem readOnly (h : ReadOnly x) : KeepsShape x := h.mono fun _ _ h => h ▸ .refl _

theorem throw (e : Fault) : KeepsShape (throw e : Call Bus α) := Keeps.throw SameShape.refl e

theorem get : KeepsShape (get : Call Bus Bus) := Keeps.get SameShape.refl

theorem onRam {x : Call Ram α}
    (h : Keeps (fun ram ram' : Ram => ram'.data.length = ram.data.length) x) :
    KeepsShape (onRam x) :=
  h.zoom fun bus ram hlength => ⟨fun w => by cases w <;> rfl, rfl, rfl, rfl, rfl, fun w => by
    cases w with
    | ram => exact congrArg some hlength
    | _ => rfl, rfl, rfl⟩

theorem onStack {x : Call Ram α}
    (h : Keeps (fun ram ram' : Ram => ram'.data.length = ram.data.length) x) :
    KeepsShape (onStack x) :=
  h.zoom fun bus ram hlength => ⟨fun w => by cases w <;> rfl, rfl, rfl, rfl, rfl, fun w => by
    cases w with
    | stack => exact congrArg some hlength
    | _ => rfl, rfl, rfl⟩

theorem onBootloader {x : Call Ram α}
    (h : Keeps (fun ram ram' : Ram => ram'.data.length = ram.data.length) x) :
    KeepsShape (onBootloader x) :=
  h.zoom fun bus ram hlength => ⟨fun w => by cases w <;> rfl, rfl, rfl, rfl, rfl, fun w => by
    cases w with
    | bootloader => exact congrArg some hlength
    | _ => rfl, rfl, rfl⟩

theorem onClint {x : Call Clint α} (h : Keeps
    (fun clint clint' : Clint => clint'.mtimecmp.length = clint.mtimecmp.length) x) :
    KeepsShape (onClint x) :=
  h.zoom fun bus clint hlength =>
    ⟨fun w => by cases w <;> rfl, rfl, rfl, rfl, rfl, fun w => by cases w <;> rfl, rfl, hlength⟩

theorem onUart (x : Call Uart α) : KeepsShape (onUart x) :=
  Keeps.zoom (R := fun _ _ => True) (fun _ => trivial) fun bus uart _ =>
    ⟨fun w => by cases w <;> rfl, rfl, rfl, rfl, rfl, fun w => by cases w <;> rfl, rfl, rfl⟩

theorem onPlic {x : Call Plic α}
    (h : Keeps (fun plic plic' : Plic => plic'.devicesByIrq = plic.devicesByIrq) x) :
    KeepsShape (onPlic x) :=
  h.zoom fun bus plic hlines =>
    ⟨fun w => by cases w <;> rfl, rfl, rfl, rfl, rfl, fun w => by cases w <;> rfl, hlines, rfl⟩

theorem onVirtio (x : Call VirtIOBlk α) : KeepsShape (onVirtio x) :=
  Keeps.zoom (R := fun _ _ => True) (fun _ => trivial) fun bus device _ =>
    ⟨fun w => by cases w <;> rfl, rfl, rfl, rfl, rfl, fun w => by cases w <;> rfl, rfl, rfl⟩

end KeepsShape

section Shape

variable [Host]

omit [Host] in
theorem keeps_length_read (address : U64) (size : U8) :
    Keeps (fun ram ram' : Ram => ram'.data.length = ram.data.length) (Ram.read address size) :=
  (Ram.readOnly_read _ _).mono fun _ _ h => by rw [h]

theorem keepsShape_readAt (borrowed : Bool) (address : U64) (size : U8) :
    KeepsShape (readAt borrowed address size) := by
  have judgment : Compositional fun _ x => KeepsShape x := .keeps SameShape.refl SameShape.trans
  refine judgment.readAt ?_ ?_ ?_ ?_ ?_ ?_ ?_ address
  · exact fun _ => .onRam (keeps_length_read _ _)
  · exact fun _ => .onStack (keeps_length_read _ _)
  · exact fun _ => .onBootloader (keeps_length_read _ _)
  · exact fun _ => .onClint ((Clint.readOnly_read _ _).mono fun _ _ h => by rw [h])
  · exact fun _ => .onUart _
  · exact fun bus _ => .readOnly (Plic.readOnly_read _ (readOnly_lineStatus _ _) _ _)
  · exact fun _ => .onVirtio _

theorem keepsShape_writeWith {virtioWrite : U64 → U8 → U64 → Call Bus Unit}
    (hvirtio : ∀ offset size value, KeepsShape (virtioWrite offset size value)) (address : U64)
    (size : U8) (value : U64) : KeepsShape (writeWith virtioWrite address size value) := by
  have judgment : Compositional fun _ x => KeepsShape x := .keeps SameShape.refl SameShape.trans
  refine judgment.writeWith ?_ ?_ ?_ ?_ ?_ ?_ ?_ address
  · exact fun _ => .onRam (Ram.keeps_write _ _ _)
  · exact fun _ => .onStack (Ram.keeps_write _ _ _)
  · exact fun _ => .onBootloader (Ram.keeps_write _ _ _)
  · exact fun _ => .onClint (Clint.keeps_write _ _ _)
  · exact fun _ => .onUart _
  · exact fun _ => .onPlic (Plic.keeps_write _ _ _)
  · exact fun _ => hvirtio _ _ _

theorem keepsShape_handle (β : Type) (r : DmaRequest β) : KeepsShape (handle β r) := by
  cases r with
  | device => exact .readOnly (ReadOnly.get.bind fun _ => .pure _)
  | update f => exact .onVirtio _
  | read address size => exact keepsShape_readAt true address size
  | write address size value => exact keepsShape_writeWith (fun _ _ _ => .throw _) _ _ _
  | require holds cause => exact .ite (.readOnly (.pure _)) (.throw _)

theorem keepsShape_processQueue (queueIdx : U32) :
    KeepsShape (VirtIOBlk.processQueue queueIdx) := by
  rw [← DmaScript.run_processQueue]
  exact Script.keeps_run SameShape.refl SameShape.trans keepsShape_handle _

theorem keepsShape_virtioWrite (address : U64) (size : U8) (value : U64) :
    KeepsShape (VirtIOBlk.write address size value) := by
  unfold VirtIOBlk.write
  refine .ite (.throw _) ?_
  dsimp only
  split
  all_goals first | exact .onVirtio _ | exact keepsShape_processQueue _ | exact .readOnly (.pure _)

theorem keepsShape_write (address : U64) (size : U8) (value : U64) :
    KeepsShape (write address size value) :=
  keepsShape_writeWith keepsShape_virtioWrite address size value

end Shape

end Bus

/-- A machine's timers fit in their window. -/
def Clint.Fits (clint : Clint) : Prop := clint.mtimecmp.length ≤ 64

namespace Bus

/-- A machine whose handles are set and whose lines are those of the xv6 machine. -/
structure Booted (bus : Bus) : Prop where
  wf : bus.Wf
  clint : bus.clint = true
  uart : bus.uart = true
  plic : bus.plic = true
  virtio : bus.virtio = true
  lines : bus.dev.plic.devicesByIrq = Xv6Emulator.plic.devicesByIrq
  timers : bus.dev.clint.Fits

theorem SameShape.wf {bus bus' : Bus} (same : SameShape bus bus') (wf : bus.Wf) : bus'.Wf := by
  refine ⟨fun w => ?_, fun w ram hram => ?_⟩
  · rw [same.ranges]
    exact wf.bounded w
  · have hlength := same.lengths w
    rw [hram, Option.map_some] at hlength
    obtain ⟨ram', hram', heq⟩ := Option.map_eq_some_iff.mp hlength.symm
    rw [same.ranges, ← wf.length w ram' hram']
    exact heq.symm

theorem SameShape.booted {bus bus' : Bus} (same : SameShape bus bus') (booted : bus.Booted) :
    bus'.Booted :=
  ⟨same.wf booted.wf, same.clint.trans booted.clint, same.uart.trans booted.uart,
    same.plic.trans booted.plic, same.virtio.trans booted.virtio, same.lines.trans booted.lines,
    same.timers.trans_le booted.timers⟩

theorem SameShape.locate_eq {bus bus' : Bus} (same : SameShape bus bus') (address n : U64) :
    bus'.locate address n = bus.locate address n := by
  unfold locate
  simp only [same.ranges]

theorem SameShape.offset_eq {bus bus' : Bus} (same : SameShape bus bus') (w : Window)
    (address : U64) : bus'.offset w address = bus.offset w address := by
  rw [offset, offset, same.ranges]

end Bus

namespace Ram

theorem len_toNat {ram : Ram} (h : ram.data.length < 2 ^ 64) : ram.len.toNat = ram.data.length := by
  rw [len, BitVec.toNat_ofNat, Nat.mod_eq_of_lt h]

theorem length_withContent (size : U64) (content : List U8) :
    (withContent size content).data.length = max size.toNat content.length := by
  rw [withContent, List.length_append, List.length_replicate,
    Nat.add_sub_cancel' (Nat.le_max_right _ _)]

end Ram

namespace Xv6Emulator

variable [Host]

theorem booted_attach {program : List U8} {address stackBegin : U64}
    {uartOutput : Option (List U8)} {uartInput : Option (List (Option (List U8)))}
    {diskImage : Option (List U8)} {ncpu : U64} {bus bus' : Bus}
    (sorted : bus.rangeManager.Sorted) (harts : ncpu.toNat ≤ 64)
    (h : attach program address stackBegin uartOutput uartInput diskImage ncpu bus = .ok () bus') :
    bus'.Booted := by
  have hbounded : ∀ w, (bus'.range w).start.toNat + (bus'.range w).size.toNat < 2 ^ 64 := by
    obtain ⟨ramSize, -, -, hreserves, hwindows⟩ := attach_spec h
    obtain ⟨hvalid, -, -⟩ := hreserves.clears sorted
    have hreserved : ∀ r ∈ bus'.windows,
        r ∈ reservations (Ram.withContent ramSize program).len address stackBegin := by
      rw [hwindows]
      simp [reservations, fixedWindows]
    intro w
    refine (hvalid _ (hreserved _ ?_)).2
    cases w <;> simp [Bus.windows, Bus.range]
  have hdev := attach_dev h
  simp only [attach, bind_eq_ok, Bus.setRam_eq_ok, Bus.setStack_eq_ok, Bus.setClint_eq_ok,
    Bus.setUart_eq_ok, Bus.setVirtio_eq_ok, Bus.setPlic_eq_ok, Bus.setBootloader_eq_ok] at h
  obtain ⟨ramSize, _, -, _, _, halloc, _, _, -, _, _, ⟨_, _, -, hram⟩, _, _,
      ⟨_, _, -, hstack⟩, _, _,
    ⟨_, _, -, hclint⟩, _, _, ⟨_, _, -, huart⟩, _, _, hdisk, _, _, ⟨_, _, -, hvirtio⟩, _, _,
    ⟨_, _, -, hplic⟩, _, _, -, hboot⟩ := h
  obtain ⟨hlt, -, -⟩ := allocate_eq_ok.mp halloc
  have hsame := (readOnly_allocateDisk _ _).state_eq hdisk
  have hram_length : (Ram.withContent ramSize program).len.toNat =
      (Ram.withContent ramSize program).data.length := by
    refine Ram.len_toNat ?_
    rw [Ram.length_withContent]
    exact Nat.lt_trans hlt (by decide)
  have hstack_length : (Ram.new STACK_SIZE).len.toNat = (Ram.new STACK_SIZE).data.length := by
    rw [stack_len, Ram.new, List.length_replicate]
  refine ⟨⟨hbounded, fun w ram hmemory => ?_⟩, ?_, ?_, ?_, ?_, ?_, ?_⟩
  · cases w with
    | ram =>
        have hcontent : bus'.ram = ram := Option.some.inj hmemory
        rw [← hcontent, Bus.range_ram]
        simp only [hboot, hplic, hvirtio, hsame, huart, hclint, hstack, hram, hram_length]
    | stack =>
        have hcontent : bus'.stack = ram := Option.some.inj hmemory
        rw [← hcontent, Bus.range_stack]
        simp only [hboot, hplic, hvirtio, hsame, huart, hclint, hstack, hstack_length]
    | bootloader =>
        have hcontent : bus'.bootloader = ram := Option.some.inj hmemory
        rw [← hcontent, Bus.range_bootloader]
        simp only [hboot]
        rfl
    | clint | uart | plic | virtio => cases hmemory
  · simp only [hboot, hplic, hvirtio, hsame, huart, hclint]
  · simp only [hboot, hplic, hvirtio, hsame, huart]
  · simp only [hboot, hplic]
  · simp only [hboot, hplic, hvirtio]
  · rw [hdev]
  · rw [hdev, Clint.Fits, Clint.new, List.length_replicate]
    exact harts

/-- A machine that is built is booted. -/
theorem booted_newSmp {program : List U8} {address : U64} {uartOutput : Option (List U8)}
    {uartInput : Option (List (Option (List U8)))} {diskImage : Option (List U8)} {ncpu : U64}
    {emu : Xv6Emulator} {bus : Bus}
    (h : newSmp program address uartOutput uartInput diskImage ncpu = .ok emu bus) :
    emu.bus.Booted := by
  obtain ⟨sb, hncpu, -, hattach, -⟩ := newSmp_ok h
  exact booted_attach RangeManager.new_disjoint.toSorted (hncpu.trans (by decide)) hattach

end Xv6Emulator

end Riscvm.Rv64rs
