import ElanGuardian.Prog
import ElanGuardian.Runs
import ElanGuardian.ElanCore
import ElanGuardian.ReportFormat
import ElanGuardian.ReportGrammar
import ElanGuardian.ReferenceFrame
import ElanGuardian.Transport
import ElanGuardian.ReportShim
import ElanGuardian.LegacyReport
import ElanGuardian.DropIn
import ElanGuardian.Interrupt
import ElanGuardian.StaleBytes
import ElanGuardian.Interleaving
import ElanGuardian.Locking
import ElanGuardian.ArmedNodes
import ElanGuardian.RecoveryBudget
import ElanGuardian.HealthyController
import ElanGuardian.WatchdogRequest
import ElanGuardian.SleepRace
import ElanGuardian.Driver
import ElanGuardian.DriverOps
import ElanGuardian.InputRelease
import ElanGuardian.RecoverySequence
import ElanGuardian.Quiescent
import ElanGuardian.HandlerAlone
import ElanGuardian.Simulation
import ElanGuardian.OperationsAlone
import ElanGuardian.Dialogue
import ElanGuardian.Sysfs
import ElanGuardian.Recover
import ElanGuardian.Pool
import ElanGuardian.ConcurrentRebind
import ElanGuardian.HonestRebind
import ElanGuardian.Monitor
import ElanGuardian.Fields
import ElanGuardian.CounterWatch
import ElanGuardian.RecoveryCounter
import ElanGuardian.StatusLine
import ElanGuardian.MonitorClock
import ElanGuardian.RebindCooldown
import ElanGuardian.BacklogGate
import ElanGuardian.BacklogStreak
import ElanGuardian.TraceDiagnosis
import ElanGuardian.TraceSums
import ElanGuardian.TraceRecording
import ElanGuardian.IrqCounters
import ElanGuardian.SortedMap
import ElanGuardian.ModuleActivation
import ElanGuardian.DeliveredReports
import ElanGuardian.InputDevice
import ElanGuardian.TouchpadState
import ElanGuardian.ReleasedInputs
import ElanGuardian.AxisRanges
import ElanGuardian.Lifecycle
import ElanGuardian.Handlers
import ElanGuardian.TransportOps
import ElanGuardian.DriverSteps
import ElanGuardian.FirmwareBounds
import ElanGuardian.Transcript
import ElanGuardian.I2cTransport
import ElanGuardian.SmbusTransport
import ElanGuardian.DeviceParameters
import ElanGuardian.PatchedSuspend
import ElanGuardian.Progress
import ElanGuardian.JsonText
import ElanGuardian.JsonIgnored
import ElanGuardian.JsonFormat
import ElanGuardian.JsonParts
import ElanGuardian.JsonStruct
import ElanGuardian.OrderedMap
import ElanGuardian.TraceFile
