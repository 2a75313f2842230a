import Riscvm.Rv64rs.Trap

/-!
# Sv39 translation

`mmu.rs`. The walk reads page table entries through the bus, from the root at
level 2 down to a leaf; `translate` consults the TLB first and fills it after a
successful walk. There is no privilege exemption: only `satp.MODE` decides
whether an address is translated.
-/

namespace Riscvm.Rv64rs

open Bits Exec Machine

inductive Access where
  | R
  | W
  | X
  deriving DecidableEq, Repr

namespace Mmu

def MODE_BARE : U64 := 0
def MODE_SV39 : U64 := 8

def PAGESIZE : U64 := 0x1000
def PTE_SIZE : U64 := 8
def LEVELS : Nat := 3

def PTE_V : U64 := bit 0
def PTE_R : U64 := bit 1
def PTE_W : U64 := bit 2
def PTE_X : U64 := bit 3

def PPN_MASK : U64 := bit 44 - 1

/-- The permission bit a leaf must have for `access`. -/
def required : Access → U64
  | .R => PTE_R
  | .W => PTE_W
  | .X => PTE_X

/-- The entry of the array `vpn` for `level`. -/
def vpn (va : U64) : (level : Nat) → U64
  | 0 => (va >>> 12) &&& 0x1ff
  | 1 => (va >>> 21) &&& 0x1ff
  | _ => (va >>> 30) &&& 0x1ff

variable [Host]

/-- The loop of `translate_paged` with `remaining` levels to go, from the table
at `a`: the level and the word of the leaf it ends at. -/
def walkLoop (va : U64) : (remaining : Nat) → (a : U64) → Call Bus (Nat × U64)
  | 0, _ => error (.walkExhausted va)
  | level + 1, a => do
      let pteAddr ← add a (← mul (vpn va level) PTE_SIZE)
      let pte ← Bus.read pteAddr (PTE_SIZE.setWidth 8)
      if pte &&& PTE_V = 0 then error (.invalidPte va level pte pteAddr)
      else if pte &&& (PTE_R ||| PTE_X) ≠ 0 then return (level, pte)
      else if pte &&& PTE_W ≠ 0 then error (.reservedPte va)
      else walkLoop va level (← mul ((pte >>> 10) &&& PPN_MASK) PAGESIZE)

/-- What follows the loop: the page frame that the leaf `pte` at `level` gives `va`. -/
def leafPpn {σ : Type} (va : U64) (access : Access) (level : Nat) (pte : U64) : Call σ U64 := do
  if pte &&& required access = 0 then error (.permission va pte)
  else
    let ppn := (pte >>> 10) &&& PPN_MASK
    if 0 < level then
      -- the low fields of a superpage's frame come from the address
      let lowMask : U64 := bit (9 * level) - 1
      if ppn &&& lowMask ≠ 0 then error (.misalignedSuperpage va)
      else
        let vaLow := (List.range level).foldl (fun low l => low ||| (vpn va l <<< (9 * l))) 0
        return (ppn &&& ~~~lowMask) ||| vaLow
    else return ppn

/-- The walk under `satp`: the page frame of `va` and the leaf's permissions. -/
def walk (satp va : U64) (access : Access) : Call Bus (U64 × U64) := do
  let (level, pte) ← walkLoop va LEVELS (← mul (satp &&& PPN_MASK) PAGESIZE)
  let ppn ← leafPpn va access level pte
  return (ppn, pte &&& (PTE_R ||| PTE_W ||| PTE_X))

def translatePaged (va : U64) (access : Access) (satp : U64) : Call Machine U64 := do
  let mode := satp >>> 60
  if mode ≠ MODE_SV39 then error (.unsupportedMode mode)
  else
    let vpnFull := va >>> 12
    match (← get).cpu.tlb.lookup vpnFull with
    | some (ppn, perm) =>
        if perm &&& required access = 0 then error (.cachedPermission va perm)
        else return (ppn <<< 12) ||| (va &&& 0xfff)
    | none =>
        let (ppn, perm) ← onBus (walk satp va access)
        modifyCpu fun cpu => { cpu with tlb := cpu.tlb.insert vpnFull ppn perm }
        return (ppn <<< 12) ||| (va &&& 0xfff)

def translate (va : U64) (access : Access) : Call Machine U64 := do
  let satp := (← get).cpu.csrs.get Csr.SATP
  if satp >>> 60 = MODE_BARE then return va
  else translatePaged va access satp

end Mmu

namespace Machine

variable [Host]

/-- `Cpu::read`. -/
def read (address : U64) (size : U8) : Call Machine U64 := do
  let pa ← Mmu.translate address .R
  onBus (Bus.read pa size)

/-- `Cpu::write`. -/
def write (address : U64) (size : U8) (value : U64) : Call Machine Unit := do
  let pa ← Mmu.translate address .W
  onBus (Bus.write pa size value)

end Machine

end Riscvm.Rv64rs
