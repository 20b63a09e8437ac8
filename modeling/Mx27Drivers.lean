import Mx27Drivers.Mach.Reparent
import Mx27Drivers.Mach.Dividers
import Mx27Drivers.Mach.Gates
import Mx27Drivers.Dma.Requests
import Mx27Drivers.Dma.SgConfig
import Mx27Drivers.Dma.Chain
import Mx27Drivers.Nand.ReadAccess
import Mx27Drivers.Nand.Ecc
import Mx27Drivers.Sahara.Descriptors
import Mx27Drivers.Sahara.Completion
import Mx27Drivers.Sahara.Ownership
import Mx27Drivers.Sahara.Results
import Mx27Drivers.Shw.AuthVerdict
import Mx27Drivers.Scc.RoundTrip
import Mx27Drivers.Scc.SlotCiphers
import Mx27Drivers.Shw.Digest
import Mx27Drivers.Shw.LinkLengths
import Mx27Drivers.Shw.Mapper
import Mx27Drivers.Shw.WrapFailures
import Mx27Drivers.Capture.Delivery
import Mx27Drivers.Capture.Deinterlace
import Mx27Drivers.Capture.Confined
import Mx27Drivers.Capture.StillFrames
import Mx27Drivers.Capture.Windows
import Mx27Drivers.Capture.Weave
import Mx27Drivers.Output.Feed
import Mx27Drivers.Output.Owners
import Mx27Drivers.HwEvent.Pool
import Mx27Drivers.Vpu.Memory
import Mx27Drivers.Uart.Transmit
import Mx27Drivers.Mmc.Host
import Mx27Drivers.Rtc.Alarm
import Mx27Drivers.Keypad.Reports
import Mx27Drivers.I2c.Traffic
import Mx27Drivers.Usb.DtdChain
import Mx27Drivers.Usb.ControlPipe
import Mx27Drivers.Usb.LiveBuffers
import Mx27Drivers.Sound.SharedClock
import Mx27Drivers.Video.ScanOut
import Mx27Drivers.Fec.TxRing
import Mx27Drivers.Fec.RxRing
import Mx27Drivers.Fec.Multicast
import Mx27Drivers.Ain.EventRing
import Mx27Drivers.Scc.Crc
import Mx27Drivers.Mach.Tick
import Mx27Drivers.Radio.Si4702
import Mx27Drivers.Video.Graphic
