import Moocbt.Device.Bios

/-! A device in snapshot mode: `snap_cow_thread` captures the read clones of traced
writes and serves reads of the snapshot. -/

namespace Moocbt.Device

open Cow Program

/-- Where `snap_cow_thread` is. Its loop test also compares the two counters, which
it reads one after the other; a read is served in three parts around the read of the
base device. -/
inductive SnapPc where
  | testStop
  | testQueue
  | testSubmitted
  | testReceived (submitted : Nat)
  | waitEvent
  | readFail
  | testEmpty
  | dequeue
  | handleWrite (bio : WriteBio)
  | readMode (bio : ReadBio)
  | readBase (bio : ReadBio) (mode : Option ReadMode)
  | readOverlay (bio : ReadBio) (mode : Option ReadMode) (data : Nat → Nat)
  | exited

/-- A device in snapshot mode. The last four fields record its history: the
captured bios that were taken off the queue, passed to the handler and answered with
an error, and the reads that were completed without one, with the data they returned. -/
structure SnapDevice where
  worker : Worker
  pc : SnapPc
  bios : List CowBio
  submitted : Nat
  received : Nat
  taken : List WriteBio
  handled : List WriteBio
  dropped : List WriteBio
  served : List (ReadBio × (Nat → Nat))

namespace SnapDevice

def crash (device : SnapDevice) : SnapDevice :=
  { device with worker := { device.worker with crashed := true } }

/-- One step of `snap_cow_thread`; it makes none while it waits for the base device. -/
def threadStep (device : SnapDevice) (outcomes : List Outcome) : Option SnapDevice :=
  match device.pc with
  | .testStop =>
      some { device with pc := if device.worker.shouldStop then .testQueue else .waitEvent }
  | .testQueue =>
      some { device with pc := if device.bios.isEmpty then .testSubmitted else .waitEvent }
  | .testSubmitted => some { device with pc := .testReceived device.submitted }
  | .testReceived submitted =>
      some { device with
        pc := if submitted ≠ device.received ∧ device.worker.isFailed = false then .waitEvent
          else .exited }
  | .waitEvent =>
      if device.worker.shouldStop || !device.bios.isEmpty then
        some { device with pc := .readFail }
      else none
  | .readFail =>
      some { device with worker := device.worker.noticeFailure outcomes, pc := .testEmpty }
  | .testEmpty =>
      some { device with pc := if device.bios.isEmpty then .testStop else .dequeue }
  | .dequeue =>
      match bioQueueDequeueDelayRead device.bios with
      | none => some device.crash
      | some (.read bio, bios) => some { device with bios, pc := .readMode bio }
      | some (.write bio, bios) =>
          some { device with bios, taken := device.taken ++ [bio], pc := .handleWrite bio }
  | .handleWrite bio =>
      if device.worker.isFailed then some { device with pc := .testStop }
      else
        let ran := device.worker.run (snapHandleWriteBio bio) outcomes
        some { device with
          worker := ran.1
          handled := device.handled ++ [bio]
          dropped := if ran.2.isSome then device.dropped else device.dropped ++ [bio]
          pc := .testStop }
  | .readMode bio =>
      if device.worker.isFailed then some { device with pc := .testStop }
      else
        match device.worker.run (snapReadBioGetMode bio) outcomes with
        | (worker, none) => some { device with worker, pc := .testStop }
        | (worker, some mode) =>
            some { device with
              worker
              pc := if mode = some .cowFile then .readOverlay bio mode fun _ => 0
                else .readBase bio mode }
  | .readBase _ _ => none
  | .readOverlay bio mode data =>
      if mode = some .baseDevice then
        some { device with served := device.served ++ [(bio, data)], pc := .testStop }
      else
        match device.worker.run (snapReadOverlay bio.pieces data) outcomes with
        | (worker, none) => some { device with worker, pc := .testStop }
        | (worker, some data) =>
            some { device with
              worker
              served := device.served ++ [(bio, data)]
              pc := .testStop }
  | .exited => none

/-- The base device serves the read the thread waits for. -/
def serve (device : SnapDevice) (result : Except Errno (Nat → Nat)) : Option SnapDevice :=
  match device.pc with
  | .readBase bio mode =>
      match result with
      | .ok data => some { device with pc := .readOverlay bio mode data }
      | .error error =>
          some { device with
            worker := Worker.setFailState { device.worker with ret := some error } error
            pc := .testStop }
  | _ => none

def reopen (device : SnapDevice) (outcomes : List Outcome) (noThread : Option Errno) :
    SnapDevice :=
  let worker := device.worker.reopen outcomes noThread
  { device with worker, pc := if worker.phase = .active then .testStop else device.pc }

/-- A dormant device is to be destroyed, and its queue is flushed first. -/
def flush (device : SnapDevice) (noThread : Option Errno) : SnapDevice :=
  let worker := device.worker.flush noThread
  { device with worker, pc := if worker.phase = .flushing then .testStop else device.pc }

end SnapDevice

/-- What happens to the device. The first four events are those of the tracing
function and of the completion handler of read clones, in any order. A dormant device is
destroyed with or without a flush, as one in incremental mode. -/
inductive SnapEvent where
  | addBio (bio : CowBio)
  | submit
  | receive
  | fail (error : Errno)
  | thread (outcomes : List Outcome)
  | serve (result : Except Errno (Nat → Nat))
  | reconfigure (cacheSize : Nat)
  | swap
  | stopOld
  | umount
  | flush (noThread : Option Errno)
  | destroy
  | close (outcomes : List Outcome)
  | reopen (outcomes : List Outcome) (noThread : Option Errno)

namespace SnapDevice

def step (device : SnapDevice) (event : SnapEvent) : Option SnapDevice :=
  if device.worker.crashed then none
  else
    match event with
    | .addBio bio => some { device with bios := device.bios ++ [bio] }
    | .submit => some { device with submitted := device.submitted + 1 }
    | .receive => some { device with received := device.received + 1 }
    | .fail error => some { device with worker := device.worker.setFailState error }
    | .thread outcomes => if device.worker.Runs then device.threadStep outcomes else none
    | .serve result => if device.worker.Runs then device.serve result else none
    | .reconfigure cacheSize =>
        if device.worker.Settled then
          some { device with worker := device.worker.reconfigure cacheSize }
        else none
    | .swap =>
        if device.worker.Settled then
          some { device with worker := { device.worker with ending := some .replaced } }
        else none
    | .stopOld =>
        if device.worker.ending = some .replaced then
          some { device with worker := { device.worker with shouldStop := true } }
        else none
    | .umount =>
        if device.worker.Settled then
          some { device with
            worker := { device.worker with shouldStop := true, ending := some .dormant } }
        else none
    | .flush noThread =>
        if device.worker.Idle ∧ device.worker.phase ≠ .failed then some (device.flush noThread)
        else none
    | .destroy =>
        if device.worker.Destroyable then
          some { device with
            worker := { device.worker with shouldStop := true, ending := some .destroyed } }
        else none
    | .close outcomes =>
        if device.worker.Closes then
          match device.pc, device.worker.ending with
          | .exited, some .dormant =>
              some { device with worker := device.worker.close .dormant outcomes }
          | .exited, some .destroyed =>
              some { device with worker := device.worker.close .destroyed outcomes }
          | _, _ => none
        else none
    | .reopen outcomes noThread =>
        if device.worker.Idle ∧ device.worker.phase ≠ .unopened then
          some (device.reopen outcomes noThread)
        else none

end SnapDevice

end Moocbt.Device
