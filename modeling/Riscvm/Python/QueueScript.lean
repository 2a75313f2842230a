import Riscvm.Foundation.Script
import Riscvm.Python.VirtIO

/-!
# The block device as a script

`_process_queue`, told as the requests it makes, so that a bus with devices on it can handle them.
Such a bus can reach the registers of the device itself; each is looked at where the source looks at
it. `run_processQueue` says that on a bus that maps RAM only the script is the device.
-/

namespace Riscvm.Python

open Exec

/-- What the processing of a queue raises by itself. -/
inductive DmaScript.Exception where
  | memoryError
  | zeroDivisionError
  deriving DecidableEq, Repr

/-- What the notified device asks for. `completed` stores the cursor and raises the interrupt. -/
inductive DmaRequest : Type → Type where
  | device : DmaRequest VirtIOBlk
  | setDisk (disk : List (BitVec 8)) : DmaRequest Unit
  | completed (queueIdx last : Int) : DmaRequest Unit
  | read (address size : Int) : DmaRequest Int
  | write (address size value : Int) : DmaRequest Unit
  | require (holds : Bool) (cause : DmaScript.Exception) : DmaRequest Unit

abbrev DmaScript := Script DmaRequest

/-- The device with a cursor stored and its interrupt raised. -/
def VirtIOBlk.completed (queueIdx last : Int) (device : VirtIOBlk) : VirtIOBlk :=
  { device with
    lastAvailIdx := Plic.dictSet device.lastAvailIdx queueIdx last
    interruptStatus := Int.lor device.interruptStatus 1 }

namespace DmaScript

open Script VirtIOBlk

def device : DmaScript VirtIOBlk := request .device

def read (address size : Int) : DmaScript Int := request (.read address size)

def write (address size value : Int) : DmaScript Unit := request (.write address size value)

def require (holds : Bool) (cause : Exception) : DmaScript Unit := request (.require holds cause)

/-- Only memory answers a read of two bytes, so that an index is a number below 65536 here too. -/
def collectDescs (descBase : Int) : (fuel : Nat) → (idx : Int) → (seen : List Int) →
    (descs : List Desc) → DmaScript (List Desc)
  | 0, _, _, descs => return descs
  | fuel + 1, idx, seen, descs => do
      if idx ∈ seen then return descs
      else
        let off := descBase + idx * 16
        let addr ← read off 8
        let length ← read (off + 8) 4
        let flags ← read (off + 12) 2
        let nxt ← read (off + 14) 2
        let descs := descs ++ [⟨addr, length, flags⟩]
        if Int.land flags VIRTQ_DESC_F_NEXT ≠ 0 then
          collectDescs descBase fuel nxt (idx :: seen) descs
        else return descs

def writeBytes (addr : Int) : (i : Nat) → (data : List (BitVec 8)) → DmaScript Unit
  | _, [] => return ()
  | i, b :: data => do
      write (addr + i) 1 b.toNat
      writeBytes addr (i + 1) data

/-- The UART answers a read of one byte with a number below 256, as RAM does, and no other device
answers one. -/
def readBytes (addr : Int) : (i n : Nat) → DmaScript (List (BitVec 8))
  | _, 0 => return []
  | i, n + 1 => do
      let b ← read (addr + i) 1
      return BitVec.ofInt 8 b :: (← readBytes addr (i + 1) n)

/-- The entry of a ring for an index. -/
def slot (idx : Int) : DmaScript Int := do
  let queueNum := (← device).queueNum
  require (queueNum ≠ 0) .zeroDivisionError
  return idx % queueNum

variable [Interpreter]

def growDisk (stop : Int) : DmaScript Unit := do
  let disk := (← device).disk
  if (disk.length : Int) < stop then
    require (stop ≤ Interpreter.memory) .memoryError
    request (.setDisk (disk ++ List.replicate (stop.toNat - disk.length) 0))
  else return ()

def processDescriptorChain (descBase head : Int) : DmaScript Int := do
  let descs ← collectDescs descBase 65537 head [] []
  match descs with
  | header :: data :: rest =>
      match rest.getLast? with
      | none => return 0
      | some status =>
          let reqType ← read header.addr 4
          let sector ← read (header.addr + 8) 8
          let offset := sector * SECTOR_SIZE
          if reqType = VIRTIO_BLK_T_IN then
            let stop := offset + data.length
            growDisk stop
            let disk := (← device).disk
            writeBytes data.addr 0 ((disk.drop offset.toNat).take (stop.toNat - offset.toNat))
          else if reqType = VIRTIO_BLK_T_OUT then
            let chunk ← readBytes data.addr 0 data.length.toNat
            let stop := offset + data.length
            growDisk stop
            let disk := (← device).disk
            request (.setDisk (disk.take offset.toNat ++ chunk ++ disk.drop stop.toNat))
          writeBytes status.addr 0 [0]
          return 0
  | _ => return 0

def serveChain (descBase availBase usedBase last usedIdx : Int) : DmaScript Unit := do
  let ringOff := availBase + 4 + (← slot last) * 2
  let head ← read ringOff 2
  let length ← processDescriptorChain descBase head
  let usedElemOff := usedBase + 4 + (← slot usedIdx) * 8
  write usedElemOff 4 head
  write (usedElemOff + 4) 4 length
  write (usedBase + 2) 2 (u 16 (usedIdx + 1))

def serveChains (descBase availBase usedBase availIdx : Int) : (fuel : Nat) →
    (last usedIdx : Int) → DmaScript Int
  | 0, last, _ => return last
  | fuel + 1, last, usedIdx => do
      if u 16 last = availIdx then return last
      else
        serveChain descBase availBase usedBase last usedIdx
        serveChains descBase availBase usedBase availIdx fuel (u 16 (last + 1))
          (u 16 (usedIdx + 1))

def processQueue (queueIdx : Int) : DmaScript Unit := do
  let dev ← device
  if dev.queueReady = 0 ∨ dev.queueNum = 0 then return ()
  else
    let availIdx ← read (dev.availAddr + 2) 2
    let usedIdx ← read (dev.usedAddr + 2) 2
    let last := (dev.lastAvailIdx queueIdx).getD usedIdx
    let last ← serveChains dev.descAddr dev.availAddr dev.usedAddr availIdx 65536 last usedIdx
    request (.completed queueIdx last)

end DmaScript

namespace VirtIOBlk

/-- What a request is to a device with a bus of its own. -/
def handle : (β : Type) → DmaRequest β → Call β
  | _, .device => get
  | _, .setDisk disk => modify fun device => { device with disk }
  | _, .completed queueIdx last => modify (completed queueIdx last)
  | _, .read address size => onBus (Bus.read address size)
  | _, .write address size value => onBus (Bus.write address size value)
  | _, .require holds _ => if holds then pure () else throw .memoryError

/-- The queue has the size it had. -/
def SameSize (before after : VirtIOBlk) : Prop := after.queueNum = before.queueNum

/-- No request changes the size of the queue. -/
theorem keeps_queueNum (β : Type) (r : DmaRequest β) : Keeps SameSize (handle β r) := by
  intro device
  have onBus_queueNum {α : Type} (x : Python.Call Bus α) :
      (finish (onBus x device)).queueNum = device.queueNum := by
    rw [onBus]
    cases x device.bus with
    | ok a bus => rfl
    | error e bus => rfl
  cases r with
  | device | setDisk | completed => rfl
  | read address size => exact onBus_queueNum _
  | write address size value => exact onBus_queueNum _
  | require holds cause => cases holds <;> rfl

end VirtIOBlk

namespace DmaScript

open Script VirtIOBlk

@[simp] theorem run_device : device.run VirtIOBlk.handle = get := run_request _

@[simp] theorem run_read (address size : Int) :
    (read address size).run VirtIOBlk.handle = onBus (Bus.read address size) := run_request _

@[simp] theorem run_write (address size value : Int) :
    (write address size value).run VirtIOBlk.handle = onBus (Bus.write address size value) :=
  run_request _

@[simp] theorem run_setDisk (disk : List (BitVec 8)) :
    (request (.setDisk disk)).run VirtIOBlk.handle = modify fun device => { device with disk } :=
  run_request _

@[simp] theorem run_require (holds : Bool) (cause : Exception) :
    (require holds cause).run VirtIOBlk.handle =
      if holds then pure () else throw .memoryError := run_request _

@[simp] theorem run_collectDescs (descBase : Int) (fuel : Nat) (idx : Int) (seen : List Int)
    (descs : List Desc) : (collectDescs descBase fuel idx seen descs).run VirtIOBlk.handle =
      VirtIOBlk.collectDescs descBase fuel idx seen descs := by
  induction fuel generalizing idx seen descs with
  | zero => rfl
  | succ fuel ih =>
      simp only [collectDescs, VirtIOBlk.collectDescs, run_cond, run_bind, run_pure, run_read, ih,
        r64, r32, r16]

@[simp] theorem run_writeBytes (addr : Int) (i : Nat) (data : List (BitVec 8)) :
    (writeBytes addr i data).run VirtIOBlk.handle = VirtIOBlk.writeBytes addr i data := by
  induction data generalizing i with
  | nil => rfl
  | cons b data ih => simp only [writeBytes, VirtIOBlk.writeBytes, run_bind, run_write, ih]

@[simp] theorem run_readBytes (addr : Int) (i n : Nat) :
    (readBytes addr i n).run VirtIOBlk.handle = VirtIOBlk.readBytes addr i n := by
  induction n generalizing i with
  | zero => rfl
  | succ n ih =>
      simp only [readBytes, VirtIOBlk.readBytes, run_bind, run_pure, run_read, ih]

/-- A queue that has a size has a slot for every index. -/
theorem run_slot {dev : VirtIOBlk} (sized : dev.queueNum ≠ 0) (idx : Int) :
    (slot idx).run VirtIOBlk.handle dev = .ok (idx % dev.queueNum) dev := by
  rw [slot, run_bind, run_device, get_bind_apply, run_bind, run_require, decide_eq_true sized,
    if_pos rfl]
  rfl

variable [Interpreter]

@[simp] theorem run_growDisk (stop : Int) :
    (growDisk stop).run VirtIOBlk.handle = VirtIOBlk.growDisk stop := by
  rw [growDisk, run_bind, run_device]
  funext dev
  rw [get_bind_apply, VirtIOBlk.growDisk, get_bind_apply, run_cond, run_ite, run_ite]
  by_cases hgrow : (dev.disk.length : Int) < stop
  · rw [if_pos hgrow, if_pos hgrow, run_bind, run_require, run_setDisk, run_ite]
    by_cases hroom : (Interpreter.memory : Int) < stop
    · rw [if_pos hroom, decide_eq_false (Int.not_le.mpr hroom)]
      rfl
    · rw [if_neg hroom, decide_eq_true (Int.not_lt.mp hroom)]
      rfl
  · rw [if_neg hgrow, if_neg hgrow]
    rfl

@[simp] theorem run_processDescriptorChain (descBase head : Int) :
    (processDescriptorChain descBase head).run VirtIOBlk.handle =
      VirtIOBlk.processDescriptorChain descBase head := by
  rw [processDescriptorChain, VirtIOBlk.processDescriptorChain, run_bind, run_collectDescs]
  refine congrArg _ (funext fun descs => ?_)
  match descs with
  | [] | [_] => rfl
  | header :: data :: rest =>
      dsimp only
      cases rest.getLast? with
      | none => rfl
      | some status =>
          simp only [run_bind, run_cond, run_pure, run_read, run_device, run_growDisk,
            run_writeBytes, run_readBytes, run_setDisk, r32, r64]
          rfl

omit [Interpreter] in
/-- Sequences agree that agree after every way in which their first part returns. -/
theorem bind_eq_bind {α β : Type} {x : VirtIOBlk.Call α} {f g : α → VirtIOBlk.Call β}
    {dev : VirtIOBlk} (h : ∀ a dev', x dev = .ok a dev' → f a dev' = g a dev') :
    (x >>= f) dev = (x >>= g) dev := by
  rw [bind_apply, bind_apply]
  cases hx : x dev with
  | ok a dev' => exact h a dev' hx
  | error e dev' => rfl

omit [Interpreter] in
/-- What a script returns with leaves the size of the queue. -/
theorem queueNum_eq {α : Type} {script : DmaScript α} {dev dev' : VirtIOBlk} {a : α}
    (h : script.run VirtIOBlk.handle dev = .ok a dev') : dev'.queueNum = dev.queueNum := by
  have hnum := keeps_run (R := SameSize) (fun _ => rfl) (fun h h' => Eq.trans h' h) keeps_queueNum
    script dev
  rwa [h, finish_ok] at hnum

theorem run_serveChain {dev : VirtIOBlk} (sized : dev.queueNum ≠ 0)
    (descBase availBase usedBase last usedIdx : Int) :
    (serveChain descBase availBase usedBase last usedIdx).run VirtIOBlk.handle dev =
      VirtIOBlk.serveChain descBase availBase usedBase dev.queueNum last usedIdx dev := by
  rw [serveChain, run_bind, bind_ok (run_slot sized last), VirtIOBlk.serveChain, run_bind, run_read]
  refine bind_eq_bind fun head dev₁ hhead => ?_
  rw [run_bind, run_processDescriptorChain]
  refine bind_eq_bind fun length dev₂ hchain => ?_
  have hnum₁ : dev₁.queueNum = dev.queueNum :=
    queueNum_eq ((congrFun (run_read _ _) dev).trans hhead)
  have hnum₂ : dev₂.queueNum = dev.queueNum :=
    (queueNum_eq ((congrFun (run_processDescriptorChain _ _) dev₁).trans hchain)).trans hnum₁
  rw [run_bind, bind_ok (run_slot (hnum₂ ▸ sized) usedIdx), hnum₂]
  simp only [run_bind, run_write, w32, w16]

theorem run_serveChains {dev : VirtIOBlk} (sized : dev.queueNum ≠ 0)
    (descBase availBase usedBase availIdx : Int) (fuel : Nat) (last usedIdx : Int) :
    (serveChains descBase availBase usedBase availIdx fuel last usedIdx).run VirtIOBlk.handle dev =
      VirtIOBlk.serveChains descBase availBase usedBase dev.queueNum availIdx fuel last usedIdx
        dev := by
  induction fuel generalizing dev last usedIdx with
  | zero => rfl
  | succ fuel ih =>
      rw [serveChains, VirtIOBlk.serveChains, run_cond, run_ite, run_ite]
      refine if_congr Iff.rfl rfl ?_
      rw [run_bind, bind_apply, bind_apply, run_serveChain sized]
      cases hchain : VirtIOBlk.serveChain descBase availBase usedBase dev.queueNum last usedIdx
          dev with
      | error e dev' => rfl
      | ok u dev' =>
          have hnum := queueNum_eq ((run_serveChain sized _ _ _ _ _).trans hchain)
          exact (ih (hnum ▸ sized) _ _).trans (by rw [hnum])

/-- On a bus that maps RAM only the script is the device. -/
theorem run_processQueue (queueIdx : Int) :
    (processQueue queueIdx).run VirtIOBlk.handle = VirtIOBlk.processQueue queueIdx := by
  funext dev
  rw [processQueue, run_bind, run_device, get_bind_apply, VirtIOBlk.processQueue, get_bind_apply,
    run_cond, run_ite, run_ite]
  by_cases hready : dev.queueReady = 0 ∨ dev.queueNum = 0
  · rw [if_pos hready, if_pos hready]
    rfl
  · rw [if_neg hready, if_neg hready, run_bind, run_read]
    refine bind_eq_bind fun availIdx dev₁ havail => ?_
    rw [run_bind, run_read]
    refine bind_eq_bind fun usedIdx dev₂ hused => ?_
    have hnum₁ : dev₁.queueNum = dev.queueNum :=
      queueNum_eq ((congrFun (run_read _ _) dev).trans havail)
    have hnum₂ : dev₂.queueNum = dev.queueNum :=
      (queueNum_eq ((congrFun (run_read _ _) dev₁).trans hused)).trans hnum₁
    have sized : dev₂.queueNum ≠ 0 := fun hzero => hready (.inr (hnum₂ ▸ hzero))
    rw [run_bind, bind_apply, bind_apply, run_serveChains sized, hnum₂]
    rfl

end DmaScript

end Riscvm.Python
