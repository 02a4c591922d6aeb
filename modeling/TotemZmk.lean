import TotemZmk.Lib.Circular
import TotemZmk.Lib.Work
import TotemZmk.Lib.Bytes
import TotemZmk.Lib.Crc
import TotemZmk.Lib.Rotation
import TotemZmk.Lib.Text
import TotemZmk.Lib.Backlog
import TotemZmk.Lib.Run
import TotemZmk.Lib.Newest
import TotemZmk.Journal.System
import TotemZmk.Journal.View
import TotemZmk.Journal.ExactlyOnce
import TotemZmk.Journal.Reboot
import TotemZmk.Journal.RateLimit
import TotemZmk.Journal.Timing
import TotemZmk.Journal.Inbox
import TotemZmk.Journal.Restore
import TotemZmk.Journal.Previous
import TotemZmk.Journal.Rest
import TotemZmk.Boot.Counter
import TotemZmk.Boot.Fault
import TotemZmk.Boot.Watchdog
import TotemZmk.Hid.Summary
import TotemZmk.Dump.Verifier
import TotemZmk.Dump.Firmware
import TotemZmk.Dump.Agreement
import TotemZmk.Dump.EventNumbers
import TotemZmk.Handoff.Summary
import TotemZmk.Hid.Pipeline
import TotemZmk.Host.BondHeal
import TotemZmk.Host.Env
import TotemZmk.Host.Watch
import TotemZmk.Host.LadderTimer
import TotemZmk.Host.Ladder
import TotemZmk.Lib.Window
import TotemZmk.Host.Exclusive
import TotemZmk.Host.NeverDrop
import TotemZmk.Host.Flap
import TotemZmk.Host.ClassA
import TotemZmk.Lib.InPlace
import TotemZmk.Lib.Transducer
import TotemZmk.Lib.Framing
import TotemZmk.Handoff.Radio
import TotemZmk.Handoff.Balance
import TotemZmk.Security.Encryption
import TotemZmk.Dump.Deframer
import TotemZmk.Battery.LowBattery
import TotemZmk.Dump.Reader
import TotemZmk.Hid.Connection
import TotemZmk.Lib.Deferred
import TotemZmk.Host.LazyHost
import TotemZmk.Host.UsbQuiet
import TotemZmk.Host.StudioUsb
import TotemZmk.Lib.Nesting
import TotemZmk.Security.Wrappers
import TotemZmk.Battery.Snapshot
import TotemZmk.Dump.Evidence
import TotemZmk.Host.Eviction
import TotemZmk.Journal.FlashPairs
import TotemZmk.Battery.Bluetooth
import TotemZmk.Handoff.Termination
import TotemZmk.Console.Rssi
import TotemZmk.Lib.Periodic
import TotemZmk.Console.Endpoints
