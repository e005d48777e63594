import Moocbt.Logic.Transition
import Moocbt.Logic.Program
import Moocbt.Data.FaultyMap
import Moocbt.Data.Tally
import Moocbt.Data.LinkedQueue
import Moocbt.Cow.State
import Moocbt.Cow.File
import Moocbt.Cow.Manager
import Moocbt.Cow.Index
import Moocbt.Cow.Rules
import Moocbt.Cow.Layout
import Moocbt.Cow.Sections
import Moocbt.Cow.Mapping
import Moocbt.Cow.Data
import Moocbt.Cow.Lifecycle
import Moocbt.Cow.Opening
import Moocbt.Cow.Failures
import Moocbt.Cow.CachedIndex
import Moocbt.Cow.CleanFlag
import Moocbt.Cow.ChangeCount
import Moocbt.Device.Worker
import Moocbt.Device.Incremental
import Moocbt.Device.IncSession
import Moocbt.Data.WriteOnce
import Moocbt.Cow.Store
import Moocbt.Cow.DataArea
import Moocbt.Cow.CaptureErrors
import Moocbt.Device.Bios
import Moocbt.Device.Snapshot
import Moocbt.Device.Capturing
import Moocbt.Device.Guard
import Moocbt.Device.IncGuard
import Moocbt.Device.SnapGuard
import Moocbt.Device.Closing
import Moocbt.Cow.Steady
import Moocbt.Cow.CacheBound
import Moocbt.Device.Freed
import Moocbt.Device.Deferral
import Moocbt.Device.Teardown
import Moocbt.Logic.Locks
import Moocbt.Control.LockOrder
import Moocbt.Tools.UpdateImg
import Moocbt.Tools.Merging
import Moocbt.Tools.Backup
import Moocbt.Tools.IndexReading
import Moocbt.Device.Clones
import Moocbt.Device.Tracing
import Moocbt.Device.Bounds
import Moocbt.Device.Draining
import Moocbt.Device.Admission
import Moocbt.Driver.Hooks
import Moocbt.Driver.Events
import Moocbt.Driver.Frame
import Moocbt.Driver.Steps
import Moocbt.Driver.Table
import Moocbt.Driver.Injection
import Moocbt.Driver.Removal
import Moocbt.Driver.NoErrorCode
import Moocbt.Driver.Setup
import Moocbt.Driver.Ioctls
import Moocbt.Hooking.Rethook
import Moocbt.Hooking.ShadowStack
import Moocbt.Hooking.Returns
import Moocbt.Device.Withholding
import Moocbt.Device.PointInTime
import Moocbt.Cow.Reloading
import Moocbt.Driver.CowFileFate
import Moocbt.Driver.Activation
import Moocbt.Driver.Sharing
import Moocbt.Cow.Creating
import Moocbt.Driver.Unwinding
import Moocbt.Cow.Eviction
import Moocbt.Device.Counters
import Moocbt.Device.BioQueue
import Moocbt.Device.ArrivalOrder
import Moocbt.Data.Scatter
import Moocbt.Device.PageVecs
import Moocbt.Device.Overlay
import Moocbt.Device.PageBlocks
import Moocbt.Data.Runs
import Moocbt.Device.IncTracing
import Moocbt.Device.ReadClones
import Moocbt.Data.ChangeTracking
import Moocbt.Device.Volume
import Moocbt.Device.Recording
import Moocbt.Device.Tracking
import Moocbt.Cow.FileLimit
import Moocbt.Driver.FileLimit
import Moocbt.Driver.Transitions
import Moocbt.Cow.Threshold
import Moocbt.Data.Numeral
import Moocbt.Tools.Arguments
import Moocbt.Hooking.Requests
import Moocbt.Hooking.PostSteps
import Moocbt.Data.RefCount
import Moocbt.Driver.Order
import Moocbt.Driver.Departure
import Moocbt.Driver.Counting
import Moocbt.Driver.Cleanup
import Moocbt.Data.Json
import Moocbt.Data.SeqFile
import Moocbt.Driver.ProcSeqFile
import Moocbt.Driver.ProcJson
import Moocbt.Driver.Stable
import Moocbt.Data.Ownership
import Moocbt.Driver.SetupOperations
import Moocbt.Driver.Operating
import Moocbt.Driver.Owning
import Moocbt.Driver.Restoring
import Moocbt.Driver.FailedChange
