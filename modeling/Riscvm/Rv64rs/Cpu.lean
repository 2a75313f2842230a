import Riscvm.Rv64rs.Bus

/-!
# Hart state

`register.rs`, `csr.rs`, the TLB of `mmu.rs` and the fields of `Cpu`. A hart and
the bus it is given for the length of a call form a `Machine`.
-/

namespace Riscvm.Rv64rs

open Exec

/-- The array is private and `write` guards index 0, so `x0` stays zero. -/
structure Registers where
  regs : BitVec 5 → U64
  x0 : regs 0 = 0

namespace Registers

def new : Registers := ⟨fun _ => 0, rfl⟩

def read (r : Registers) (index : BitVec 5) : U64 := r.regs index

def write (r : Registers) (index : BitVec 5) (value : U64) : Registers :=
  if h : index = 0 then r
  else ⟨fun i => if i = index then value else r.regs i, by
    rw [if_neg (Ne.symm h)]
    exact r.x0⟩

@[ext] theorem ext {r s : Registers} (h : ∀ i, r.read i = s.read i) : r = s := by
  cases r
  cases s
  congr
  exact funext h

@[simp] theorem read_zero (r : Registers) : r.read 0 = 0 := r.x0

theorem read_write (r : Registers) (i j : BitVec 5) (v : U64) :
    (r.write i v).read j = if j = i ∧ i ≠ 0 then v else r.read j := by
  unfold write
  by_cases hi : i = 0
  · rw [dif_pos hi, if_neg (fun h => h.2 hi)]
  · rw [dif_neg hi]
    simp only [read, ne_eq, hi, not_false_eq_true, and_true]

@[simp] theorem write_zero (r : Registers) (v : U64) : r.write 0 v = r := by
  simp [write]

theorem read_write_same (r : Registers) {i : BitVec 5} (v : U64) (h : i ≠ 0) :
    (r.write i v).read i = v := by
  rw [read_write, if_pos ⟨rfl, h⟩]

end Registers

def PRIV_U : U8 := 0
def PRIV_S : U8 := 1
def PRIV_M : U8 := 3

namespace Csr

def SSTATUS : U32 := 0x100
def SIE : U32 := 0x104
def STVEC : U32 := 0x105
def SSCRATCH : U32 := 0x140
def SEPC : U32 := 0x141
def SCAUSE : U32 := 0x142
def STVAL : U32 := 0x143
def SIP : U32 := 0x144
def SATP : U32 := 0x180
def MSTATUS : U32 := 0x300
def MEDELEG : U32 := 0x302
def MIDELEG : U32 := 0x303
def MIE : U32 := 0x304
def MTVEC : U32 := 0x305
def MSCRATCH : U32 := 0x340
def MEPC : U32 := 0x341
def MCAUSE : U32 := 0x342
def MTVAL : U32 := 0x343
def MIP : U32 := 0x344
def MHARTID : U32 := 0xf14

end Csr

/-- The flat array of 4096 CSRs. -/
structure Csrs where
  slots : BitVec 12 → U64

namespace Csrs

def new : Csrs := ⟨fun _ => 0⟩

/-- `addr & 0xfff` selects the slot. -/
def get (c : Csrs) (addr : U32) : U64 := c.slots (addr.setWidth 12)

def insert (c : Csrs) (addr : U32) (value : U64) : Csrs :=
  ⟨fun i => if i = addr.setWidth 12 then value else c.slots i⟩

@[ext] theorem ext {c d : Csrs} (h : ∀ i, c.slots i = d.slots i) : c = d := by
  cases c
  cases d
  congr
  exact funext h

theorem get_insert (c : Csrs) (a b : U32) (v : U64) :
    (c.insert a v).get b = if b.setWidth 12 = a.setWidth 12 then v else c.get b := rfl

@[simp] theorem get_insert_same (c : Csrs) (a : U32) (v : U64) : (c.insert a v).get a = v := by
  simp [get_insert]

theorem get_insert_ne (c : Csrs) {a b : U32} (v : U64) (h : b.setWidth 12 ≠ a.setWidth 12) :
    (c.insert a v).get b = c.get b := by
  simp [get_insert, h]

end Csrs

structure TlbEntry where
  valid : Bool
  vpn : U64
  ppn : U64
  /-- The leaf PTE's `PTE_R | PTE_W | PTE_X` bits. -/
  perm : U64
  deriving DecidableEq, Repr

/-- 256 direct-mapped entries. -/
structure Tlb where
  entries : BitVec 8 → TlbEntry

namespace Tlb

def new : Tlb := ⟨fun _ => ⟨false, 0, 0, 0⟩⟩

/-- `vpn % 256`. -/
def slot (vpn : U64) : BitVec 8 := vpn.setWidth 8

def lookup (tlb : Tlb) (vpn : U64) : Option (U64 × U64) :=
  let e := tlb.entries (slot vpn)
  if e.valid && e.vpn == vpn then some (e.ppn, e.perm) else none

def insert (tlb : Tlb) (vpn ppn perm : U64) : Tlb :=
  ⟨fun i => if i = slot vpn then ⟨true, vpn, ppn, perm⟩ else tlb.entries i⟩

def flush (tlb : Tlb) : Tlb := ⟨fun i => { tlb.entries i with valid := false }⟩

end Tlb

/-- `clint`, `uart` and `plic` say whether the hart holds a handle to the shared
instance. -/
structure Cpu where
  regs : Registers
  pc : U64
  csrs : Csrs
  mode : U8
  hartid : U64
  clint : Bool
  uart : Bool
  plic : Bool
  tlb : Tlb
  uartPollCountdown : BitVec 64

namespace Cpu

def new (hartid : U64) : Cpu :=
  { regs := .new
    pc := 0
    csrs := ((Csrs.new.insert Csr.MSTATUS 0x000a00000000).insert Csr.MIE 0x222).insert
      Csr.MHARTID hartid
    mode := PRIV_M
    hartid
    clint := false
    uart := false
    plic := false
    tlb := .new
    uartPollCountdown := 0 }

end Cpu

/-- What a method with `cpu: &mut Cpu` and `bus: &mut Bus` can change. -/
structure Machine where
  cpu : Cpu
  bus : Bus

namespace Machine

variable {α : Type}

def onCpu (x : Call Cpu α) : Call Machine α := zoom cpu (fun c m => { m with cpu := c }) x

def onBus (x : Call Bus α) : Call Machine α := zoom bus (fun b m => { m with bus := b }) x

theorem onCpu_ok {x : Call Cpu α} {m : Machine} {a : α} {cpu : Cpu}
    (h : x m.cpu = .ok a cpu) : onCpu x m = .ok a { m with cpu } := zoom_ok h

theorem onBus_ok {x : Call Bus α} {m : Machine} {a : α} {bus : Bus}
    (h : x m.bus = .ok a bus) : onBus x m = .ok a { m with bus } := zoom_ok h

theorem onBus_error {x : Call Bus α} {m : Machine} {e : Fault} {bus : Bus}
    (h : x m.bus = .error e bus) : onBus x m = .error e { m with bus } := zoom_error h

/-- A change of the hart that cannot fail. -/
def modifyCpu (f : Cpu → Cpu) : Call Machine Unit :=
  modify fun m => { m with cpu := f m.cpu }

/-- `cpu.regs.read`. -/
def readReg (index : BitVec 5) : Call Machine U64 := return (← get).cpu.regs.read index

/-- `cpu.regs.write`. -/
def writeReg (index : BitVec 5) (value : U64) : Call Machine Unit :=
  modifyCpu fun cpu => { cpu with regs := cpu.regs.write index value }

@[simp] theorem readReg_apply (i : BitVec 5) (m : Machine) :
    readReg i m = .ok (m.cpu.regs.read i) m := rfl

@[simp] theorem writeReg_apply (i : BitVec 5) (v : U64) (m : Machine) :
    writeReg i v m =
      .ok () { m with cpu := { m.cpu with regs := m.cpu.regs.write i v } } := rfl

@[simp] theorem modifyCpu_apply (f : Cpu → Cpu) (m : Machine) :
    modifyCpu f m = .ok () { m with cpu := f m.cpu } := rfl

end Machine

end Riscvm.Rv64rs
