import Riscvm.Rv64rs.Step
import Riscvm.Rv64rs.Expansion
import Riscvm.Rv64rs.Asm
import Riscvm.Rv64rs.Interrupts
import Riscvm.Rv64rs.TlbTransparency
import Riscvm.Rv64rs.FetchBytes
import Riscvm.Rv64rs.EvenPc
import Riscvm.Rv64rs.Confinement
import Riscvm.Rv64rs.HandlerFetch
import Riscvm.Rv64rs.PlicClaims
import Riscvm.Rv64rs.DeviceReset
import Riscvm.Rv64rs.SecondBorrow
import Riscvm.Rv64rs.Disk
import Riscvm.Rv64rs.VirtQueue
import Riscvm.Python.CommitTrace
import Riscvm.Python.Escapes
import Riscvm.Python.PreciseTraps
import Riscvm.AddressMaps
import Riscvm.Decoders
import Riscvm.Lockstep.Compressed
import Riscvm.Lockstep.MulDiv
import Riscvm.Lockstep.Consoles
import Riscvm.Lockstep.PlicRuns
import Riscvm.Rv64rs.CsrViews
import Riscvm.Rv64rs.Delivery
import Riscvm.Rv64rs.SavedContext
import Riscvm.Rv64rs.Rejection
import Riscvm.Rv64rs.Isolation
import Riscvm.Rv64rs.SizedStores
import Riscvm.Rv64rs.Payload
import Riscvm.Rv64rs.NoPanic
import Riscvm.Rv64rs.MemoryMap
import Riscvm.Rv64rs.FailedRuns
import Riscvm.Rv64rs.UartStreams
import Riscvm.Rv64rs.DiskAddressing
import Riscvm.Rv64rs.Resume
import Riscvm.Rv64rs.OtherQueues
import Riscvm.Rv64rs.Termination
import Riscvm.Lockstep.Runs32
import Riscvm.Rv64rs.Boot
import Riscvm.Lockstep.Machines
import Riscvm.Lockstep.Managers
import Riscvm.Lockstep.PagedRuns
