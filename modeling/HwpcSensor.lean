import HwpcSensor.Library.Getopt
import HwpcSensor.Library.Interaction
import HwpcSensor.Library.Regex
import HwpcSensor.Library.Transition
import HwpcSensor.Library.LittleEndian
import HwpcSensor.Library.Circular
import HwpcSensor.Util
import HwpcSensor.Util.Lemmas
import HwpcSensor.Perf.Callchain
import HwpcSensor.Perf.Ring
import HwpcSensor.Perf.Ring.Lemmas
import HwpcSensor.Perf.Ring.Delivery
import HwpcSensor.Perf.Ring.Theorems
import HwpcSensor.Perf.Ring.Records
import HwpcSensor.Library.ChainedTable
import HwpcSensor.Zhashx
import HwpcSensor.Zhashx.Built
import HwpcSensor.Target
import HwpcSensor.Target.Discovery
import HwpcSensor.Target.Discovery.Lemmas
import HwpcSensor.Target.Patterns
import HwpcSensor.Target.Coverage
import HwpcSensor.Events
import HwpcSensor.Perf.Context
import HwpcSensor.Sensor.Sync
import HwpcSensor.Sensor.Sync.Theorems
import HwpcSensor.Sensor.Monitoring
import HwpcSensor.Sensor.Monitoring.Theorems
import HwpcSensor.Sensor.Targets
import HwpcSensor.Sensor.Targets.Theorems
import HwpcSensor.Sensor.Shutdown
import HwpcSensor.Sensor.Shutdown.Theorems
import HwpcSensor.Sensor.Shutdown.Delivery
import HwpcSensor.Strtol
import HwpcSensor.Payload
import HwpcSensor.Library.CString
import HwpcSensor.Storage.Csv
import HwpcSensor.Storage.Csv.Files
import HwpcSensor.Storage.Csv.Lemmas
import HwpcSensor.Storage.Csv.Buffer
import HwpcSensor.Storage.Csv.Invariant
import HwpcSensor.Storage.Csv.Disk
import HwpcSensor.Storage.Csv.Run
import HwpcSensor.Storage.Csv.WellFormed
import HwpcSensor.Storage.Csv.Theorems
import HwpcSensor.Syscall
import HwpcSensor.Perf.Setup
import HwpcSensor.Perf.Setup.Lemmas
import HwpcSensor.Perf.Populate
import HwpcSensor.Perf.Actor
import HwpcSensor.Perf.Actor.Lemmas
import HwpcSensor.Perf.Actor.Names
import HwpcSensor.Target.Names
import HwpcSensor.Library.Ownership
import HwpcSensor.Perf.Kernel
import HwpcSensor.Perf.Kernel.Effects
import HwpcSensor.Perf.Kernel.Wiring
import HwpcSensor.Perf.Kernel.Setup
import HwpcSensor.Perf.Kernel.Ready
import HwpcSensor.Perf.Kernel.Populate
import HwpcSensor.Perf.Kernel.Collect
import HwpcSensor.Perf.Kernel.Counting
import HwpcSensor.Perf.Kernel.Attribution
import HwpcSensor.Perf.Kernel.Balance
import HwpcSensor.Perf.Kernel.Ticks
import HwpcSensor.Perf.Kernel.Granted
import HwpcSensor.Perf.Kernel.Monitored
import HwpcSensor.Perf.Kernel.Watched
import HwpcSensor.Perf.Kernel.Multiplexing
import HwpcSensor.Perf.Kernel.Filtering
import HwpcSensor.Perf.Kernel.Rearranged
import HwpcSensor.Perf.Populate.Nodes
import HwpcSensor.Perf.Populate.Destroyed
import HwpcSensor.Config
import HwpcSensor.Perf.Descriptors
import HwpcSensor.Perf.Descriptors.Ledger
import HwpcSensor.Perf.Descriptors.Setup
import HwpcSensor.Perf.Descriptors.Theorems
import HwpcSensor.Config.Groups
import HwpcSensor.Config.Cli
import HwpcSensor.Config.File
import HwpcSensor.Config.Accepted
import HwpcSensor.Config.Sampling
import HwpcSensor.Config.Period
import HwpcSensor.Config.Port
import HwpcSensor.Config.Settings
import HwpcSensor.Config.Agreement
import HwpcSensor.Perf.Descriptors.Returned
import HwpcSensor.Storage.Csv.Shared
import HwpcSensor.Storage.Document
import HwpcSensor.Storage.Document.Theorems
import HwpcSensor.Storage.Socket
import HwpcSensor.Storage.Socket.Network
import HwpcSensor.Storage.Socket.Backoff
import HwpcSensor.Storage.Socket.Streams
import HwpcSensor.Storage.Socket.Descriptors
import HwpcSensor.Util.Growth
import HwpcSensor.Library.Terminated
import HwpcSensor.Perf.Ring.Decoding
import HwpcSensor.Perf.Ring.Survival
import HwpcSensor.Hwinfo
import HwpcSensor.Hwinfo.Lemmas
import HwpcSensor.Hwinfo.Theorems
import HwpcSensor.Perf.Setup.Cpu
import HwpcSensor.Library.Acceptance
import HwpcSensor.Config.Known
import HwpcSensor.Storage.Csv.Decoding
import HwpcSensor.Target.Ids
import HwpcSensor.Library.Json
import HwpcSensor.Target.Reported
import HwpcSensor.Sensor.Shutdown.Termination
import HwpcSensor.Sensor.Monitoring.Convergence
import HwpcSensor.Sensor.Pipeline
import HwpcSensor.Sensor.Main
import HwpcSensor.Sensor.Main.Ledger
import HwpcSensor.Sensor.Main.Started
import HwpcSensor.Storage.Socket.Lifetime
import HwpcSensor.Storage.Socket.Order
import HwpcSensor.Storage.Csv.Lifetime
import HwpcSensor.Perf.Ring.Readback
import HwpcSensor.Sensor.Monitoring.Actors
import HwpcSensor.Config.Printing
import HwpcSensor.Hwinfo.Machine
import HwpcSensor.Sensor.Coverage
import HwpcSensor.Sensor.Monitoring.Hierarchy
import HwpcSensor.Report
import HwpcSensor.Sensor.Shutdown.Refinement
import HwpcSensor.Sensor.Payloads
import HwpcSensor.Sensor.Shutdown.Code
import HwpcSensor.Sensor.Shutdown.Simulation
import HwpcSensor.Sensor.Shutdown.Handover
import HwpcSensor.Sensor.Shutdown.Blocking
import HwpcSensor.Storage.Socket.Pacing
import HwpcSensor.Perf.Populate.Walk
import HwpcSensor.Sensor.Targets.Progress
