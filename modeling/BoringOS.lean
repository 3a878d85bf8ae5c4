import BoringOS.Ahci.SectorRuns
import BoringOS.Block.Slices
import BoringOS.Blocking.BlockingRuns
import BoringOS.BoringFs.Allocation
import BoringOS.BoringFs.ObjectTransfers
import BoringOS.BoringFs.Utf8Reads
import BoringOS.Desktop.ClientRuns
import BoringOS.Desktop.InputRuns
import BoringOS.Display.RightsRuns
import BoringOS.E1000.SendRuns
import BoringOS.Elf.ImageSafety
import BoringOS.Ipc.Deliveries
import BoringOS.Memory.HeapRuns
import BoringOS.Memory.MappingInspection
import BoringOS.Net.ArpCache
import BoringOS.Net.Clock
import BoringOS.Net.Dns
import BoringOS.Pty.Rebinding
import BoringOS.Pty.WriterRuns
import BoringOS.RamFs.FileHistories
import BoringOS.Runtime.AllocatorRuns
import BoringOS.Shell.LineRuns
import BoringOS.Syscall.UserCopyRuns
import BoringOS.UsbHid.MixedTopology
import BoringOS.UsbHid.Service
import BoringOS.UsbStorage.DurabilityRuns
import BoringOS.UserMemory.Cleanup
import BoringOS.Vfs.CanonicalCwd
import BoringOS.Vfs.CoveredPaths
import BoringOS.VirtioBlk.RequestRuns
import BoringOS.WindowManager.WindowSizes
import BoringOS.Xhci.RequestRuns
