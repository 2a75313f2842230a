import Riscvm.Rv64rs.Step

/-!
# The xv6 machine

`Xv6Emulator` of `emulator.rs`: RAM with the program at its load address, 128 MB of
stack behind it, the four devices at their fixed addresses and the bootloader at
`0x1000`, where every hart starts. `new_smp` attaches them in this order and fails at
the first window the range manager refuses.
-/

namespace Riscvm.Rv64rs

open Exec

def STACK_SIZE : U64 := 0x08000000

def CLINT_BASE : U64 := 0x02000000
def CLINT_SIZE : U64 := 0x10000
def UART_BASE : U64 := 0x10000000
def UART_SIZE : U64 := 0x100
def UART0_IRQ : U32 := 10
def VIRTIO_DISK_BASE : U64 := 0x10001000
def VIRTIO_DISK_SIZE_DEFAULT : U64 := 8 * 1024 * 1024
def VIRTIO0_IRQ : U32 := 1
def PLIC_BASE : U64 := 0x0c000000
def PLIC_SIZE : U64 := 0x0fffffff - PLIC_BASE + 1
def BOOTLOADER_ADDR : U64 := 0x1000

/-- `hex_decode(BOOTLOADER_HEX)`. -/
def BOOTLOADER : List U8 :=
  [0x97, 0x02, 0x00, 0x00, 0x13, 0x86, 0x82, 0x02, 0x73, 0x25, 0x40, 0xf1, 0x83, 0xb5, 0x02, 0x02,
    0x83, 0xb2, 0x82, 0x01, 0x67, 0x80, 0x02, 0x00, 0x00, 0x00, 0x00, 0x80, 0x00, 0x00, 0x00, 0x00,
    0x00, 0x00, 0x00, 0x87, 0x00, 0x00, 0x00, 0x00]

structure Xv6Emulator where
  bus : Bus
  cpus : List Cpu

namespace Xv6Emulator

variable [Host]

/-- The program's length rounded up to a page, past `address`. -/
def stackBegin {σ : Type} (programLen address : U64) : Call σ U64 := do
  add ((← add programLen 0xfff) &&& ~~~(0xfff : U64)) address

/-- The vector of the disk: `vec!` or `resize`, unless the image is large enough. -/
def allocateDisk {σ : Type} (diskSize : U64) : Option (List U8) → Call σ Unit
  | some image => if image.length < diskSize.toNat then allocate diskSize.toNat else return ()
  | none => allocate diskSize.toNat

omit [Host] in
def plic : Plic :=
  ((Plic.new PLIC_SIZE).registerIrq UART0_IRQ .uart).registerIrq VIRTIO0_IRQ .virtio

omit [Host] in
/-- A hart as it leaves reset, with a handle to each device it polls. -/
def resetCpu (hartid : U64) : Cpu :=
  { Cpu.new hartid with clint := true, uart := true, plic := true, pc := BOOTLOADER_ADDR }

/-- The part of `new_smp` behind `Bus::new()`, up to the harts. -/
def attach (program : List U8) (address stackBegin : U64) (uartOutput : Option (List U8))
    (uartInput : Option (List (Option (List U8)))) (diskImage : Option (List U8))
    (ncpu : U64) : Call Bus Unit := do
  let ramSize ← sub stackBegin address
  allocate (max ramSize.toNat program.length)
  allocate STACK_SIZE.toNat
  Bus.setRam (.withContent ramSize program) address
  Bus.setStack (.new STACK_SIZE) stackBegin
  Bus.setClint (.new CLINT_SIZE ncpu.toNat) CLINT_BASE
  Bus.setUart (.new UART_SIZE uartOutput uartInput) UART_BASE
  allocateDisk VIRTIO_DISK_SIZE_DEFAULT diskImage
  Bus.setVirtio (.new VIRTIO_DISK_SIZE_DEFAULT diskImage) VIRTIO_DISK_BASE
  Bus.setPlic plic PLIC_BASE
  Bus.setBootloader (.withContent (BitVec.ofNat 64 BOOTLOADER.length) BOOTLOADER) BOOTLOADER_ADDR

def newSmp (program : List U8) (address : U64) (uartOutput : Option (List U8))
    (uartInput : Option (List (Option (List U8)))) (diskImage : Option (List U8))
    (ncpu : U64) : EStateM.Result Fault Bus Xv6Emulator :=
  let maxNcpu := BitVec.ofNat 64 Plic.MAX_CONTEXTS / 2
  (do
    if ncpu = 0 then error .noHart
    else if maxNcpu < ncpu then error (.tooManyHarts ncpu maxNcpu Plic.MAX_CONTEXTS)
    else
      let stackBegin ← stackBegin (BitVec.ofNat 64 program.length) address
      attach program address stackBegin uartOutput uartInput diskImage ncpu
      let cpus := (List.range ncpu.toNat).map fun hartid => resetCpu (BitVec.ofNat 64 hartid)
      return ⟨← get, cpus⟩ : Call Bus Xv6Emulator) (.new .detached)

end Xv6Emulator

end Riscvm.Rv64rs
