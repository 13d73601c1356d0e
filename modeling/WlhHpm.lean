import WlhHpm.Lib.Memory
import WlhHpm.Lib.Run
import WlhHpm.Lib.Word
import WlhHpm.Lib.Coalesce
import WlhHpm.Lib.Custody
import WlhHpm.Lib.Pool
import WlhHpm.Lib.Tiling
import WlhHpm.Lib.SlotMap
import WlhHpm.Lib.Leases
import WlhHpm.Lib.Fat16
import WlhHpm.Lib.Intervals
import WlhHpm.Lib.MirrorRing
import WlhHpm.Lib.Simulation
import WlhHpm.Lib.LinkedList
import WlhHpm.Flash.Port
import WlhHpm.Flash.Effect
import WlhHpm.Flash.Partition
import WlhHpm.Flash.Board
import WlhHpm.Flash.Write
import WlhHpm.Flash.Erase
import WlhHpm.Bootuf2.Disk
import WlhHpm.Bootuf2.Step
import WlhHpm.Bootuf2.Pack
import WlhHpm.Bootuf2.Confine
import WlhHpm.Bootuf2.Delivery
import WlhHpm.Bootuf2.Transfer
import WlhHpm.Bootuf2.Update
import WlhHpm.Bootuf2.Interrupted
import WlhHpm.Bootuf2.Order
import WlhHpm.Bootuf2.Fault
import WlhHpm.Bootuf2.Volume
import WlhHpm.Bootuf2.Sectors
import WlhHpm.Bootuf2.Layout
import WlhHpm.Bootuf2.Readback
import WlhHpm.Wlan.Host
import WlhHpm.Wlan.Effect
import WlhHpm.Wlan.Requests
import WlhHpm.Wlan.Scan
import WlhHpm.Wlan.Link
import WlhHpm.Wlan.Rx
import WlhHpm.Wlan.RxPool
import WlhHpm.Wlan.RxAccounts
import WlhHpm.Wlan.ApClients
import WlhHpm.Wlan.ClientMap
import WlhHpm.Wlan.HostInit
import WlhHpm.Wlan.Calls
import WlhHpm.Wlan.Recovery
import WlhHpm.Wlan.Session
import WlhHpm.Sdio.Transport
import WlhHpm.Sdio.Moves
import WlhHpm.Sdio.Ownership
import WlhHpm.Sdio.Generation
import WlhHpm.Sdio.Wakeup
import WlhHpm.Sdio.Card
import WlhHpm.Sdio.Receive
import WlhHpm.Sdio.Credit
import WlhHpm.Sdio.Conservation
import WlhHpm.Sdio.Packets
import WlhHpm.Sdio.Irq
import WlhHpm.Bootloader.State
import WlhHpm.Bootuf2.Bounds
import WlhHpm.Bootuf2.Completion
import WlhHpm.Iperf2.Proto
import WlhHpm.Iperf2.Udp
import WlhHpm.Iperf2.Accounting
import WlhHpm.Iperf2.Clock
import WlhHpm.Iperf2.Pacing
import WlhHpm.Iperf2.Overflow
import WlhHpm.Iperf2.Codec
import WlhHpm.Sfud.Port
import WlhHpm.Uart.RingBuffer
import WlhHpm.Uart.RxDma
import WlhHpm.Uart.RtRingbuffer
import WlhHpm.Uart.SerialTx
import WlhHpm.Tools.PartTable
import WlhHpm.Usb.Msc
import WlhHpm.Usb.Bot
import WlhHpm.Usb.Range
import WlhHpm.Usb.Session
import WlhHpm.Usb.Update
import WlhHpm.Kernel.MessageQueue
import WlhHpm.Kernel.Fifo
import WlhHpm.Kernel.Wakeup
import WlhHpm.Kernel.Worker
import WlhHpm.Lib.PrioList
import WlhHpm.Kernel.Mutex
import WlhHpm.Kernel.Inheritance
import WlhHpm.Kernel.Locking
import WlhHpm.Wlan.Executor
