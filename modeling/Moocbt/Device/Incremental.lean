import Moocbt.Data.LinkedQueue
import Moocbt.Logic.Transition
import Moocbt.Device.Worker

/-! A device in incremental mode: writers queue sector sets, `inc_sset_thread`
marks their blocks in the index, and transitions close and reopen the file. -/

namespace Moocbt.Device

open Cow Program

def sectorsPerBlock : Nat := 8

/-- `COW_BLOCK_LOG_SIZE - SECTOR_SHIFT`. -/
def blockLogSectors : Nat := 3

/-- `struct sector_set`; its link is in the queue. -/
structure SectorSet where
  sect : Nat
  len : Nat
  deriving DecidableEq, Repr

namespace SectorSet

def startBlock (sset : SectorSet) : Nat := sset.sect / sectorsPerBlock

def endBlock (sset : SectorSet) : Nat := numSegments (sset.sect + sset.len) blockLogSectors

/-- The blocks `inc_handle_sset` marks, in its order. -/
def blocks (sset : SectorSet) : List Nat :=
  List.range' sset.startBlock (sset.endBlock - sset.startBlock)

/-- One of the sectors of the block is in the set. -/
def Touches (sset : SectorSet) (block : Nat) : Prop :=
  ∃ sector, sset.sect ≤ sector ∧ sector < sset.sect + sset.len ∧ sector / sectorsPerBlock = block

theorem mem_blocks {sset : SectorSet} {block : Nat} :
    block ∈ sset.blocks ↔ sset.startBlock ≤ block ∧ block < sset.endBlock := by
  unfold blocks
  rw [List.mem_range'_1]
  omega

/-- For a range that is not empty, rounding down and up marks what is touched. -/
theorem mem_blocks_iff {sset : SectorSet} (positive : 0 < sset.len) {block : Nat} :
    block ∈ sset.blocks ↔ sset.Touches block := by
  rw [mem_blocks]
  unfold Touches startBlock endBlock numSegments sectorsPerBlock blockLogSectors
  constructor
  · rintro ⟨lower, upper⟩
    by_cases first : block * 8 ≤ sset.sect
    · exact ⟨sset.sect, by omega, by omega, by omega⟩
    · exact ⟨block * 8, by omega, by omega, by omega⟩
  · rintro ⟨sector, lower, upper, here⟩
    omega

end SectorSet

/-- The loop of `inc_handle_sset`. -/
def incMarkBlocks : Nat → Nat → CowM Unit
  | 0, _ => pure ()
  | count + 1, block => do
      cowWriteFillerMapping block
      incMarkBlocks count (block + 1)

def incHandleSset (sset : SectorSet) : CowM Unit :=
  incMarkBlocks (sset.endBlock - sset.startBlock) sset.startBlock

/-- Where `inc_sset_thread` is: the two tests of its loop, the wait, the check of
the fail code, the test for an empty queue, and the work on one sector set. -/
inductive IncPc where
  | testStop
  | testQueue
  | waitEvent
  | readFail
  | testEmpty
  | dequeue
  | handle (addr : Nat) (sset : SectorSet)
  | exited
  deriving DecidableEq, Repr

/-- The sector set the thread has in hand. -/
def IncPc.inHand : IncPc → List SectorSet
  | .handle _ sset => [sset]
  | _ => []

/-- A device in incremental mode. The last five fields record its history: blocks
captured before it was in this mode, and the sector sets that were queued, taken
off the queue, passed to `inc_handle_sset` and answered with an error. -/
structure IncDevice where
  worker : Worker
  pc : IncPc
  ssets : LinkedQueue SectorSet
  sectOff : Nat
  tracing : Bool
  truncating : Bool
  inherited : List Nat
  queued : List SectorSet
  taken : List SectorSet
  handled : List SectorSet
  dropped : List SectorSet

/-- What happens to a device: a writer records a range, with the address of the
new element or `none` when there is no memory; the thread makes a step; the cache
limit changes; and the steps of the transitions. A dormant device can be destroyed with or
without the flush of its queue, which is only begun where the request function of the disk is
to be restored, and ends at once where the new thread is told to stop before it runs. -/
inductive IncEvent where
  | makeSset (sect len : Nat) (addr : Option Nat)
  | thread (outcomes : List Outcome)
  | reconfigure (cacheSize : Nat)
  | truncate (outcomes : List Outcome)
  | swap
  | stopOld
  | umount
  | flush (noThread : Option Errno)
  | destroy
  | close (outcomes : List Outcome)
  | reopen (outcomes : List Outcome) (noThread : Option Errno)

namespace IncDevice

def ssetsEmpty (device : IncDevice) : Bool := device.ssets.links.head.isNone

/-- `inc_make_sset`. Its callers pass ranges that are not empty and begin past the
start of the device. -/
def makeSset (device : IncDevice) (sect len : Nat) : Option Nat → Option IncDevice
  | none => some { device with worker := device.worker.setFailState .enomem }
  | some addr =>
      let sset : SectorSet := ⟨sect - device.sectOff, len⟩
      if fresh : device.ssets.Fresh addr then
        some { device with
          ssets := device.ssets.add addr sset fresh
          queued := device.queued ++ [sset] }
      else none

/-- The end of a turn: `kfree` of the sector set. -/
def freeSset (device : IncDevice) (addr : Nat) : IncDevice :=
  if apart : addr ∉ device.ssets.entries.map Prod.fst then
    { device with ssets := device.ssets.free addr apart, pc := .testStop }
  else { device with worker := { device.worker with crashed := true } }

/-- One step of `inc_sset_thread`. -/
def threadStep (device : IncDevice) (outcomes : List Outcome) : Option IncDevice :=
  match device.pc with
  | .testStop =>
      some { device with pc := if device.worker.shouldStop then .testQueue else .waitEvent }
  | .testQueue => some { device with pc := if device.ssetsEmpty then .exited else .waitEvent }
  | .waitEvent =>
      if device.worker.shouldStop || !device.ssetsEmpty then some { device with pc := .readFail }
      else none
  | .readFail =>
      some { device with worker := device.worker.noticeFailure outcomes, pc := .testEmpty }
  | .testEmpty => some { device with pc := if device.ssetsEmpty then .testStop else .dequeue }
  | .dequeue =>
      match device.ssets.pop with
      | (none, _) => some { device with worker := { device.worker with crashed := true } }
      | (some (addr, sset), ssets) =>
          some { device with ssets, taken := device.taken ++ [sset], pc := .handle addr sset }
  | .handle addr sset =>
      if device.worker.isFailed then some (device.freeSset addr)
      else
        let ran := device.worker.run (incHandleSset sset) outcomes
        some (freeSset
          { device with
            worker := ran.1
            handled := device.handled ++ [sset]
            dropped := if ran.2.isSome then device.dropped else device.dropped ++ [sset] } addr)
  | .exited => none

/-- The file is open again, with a new thread, when the device is active. -/
def reopen (device : IncDevice) (outcomes : List Outcome) (noThread : Option Errno) : IncDevice :=
  let worker := device.worker.reopen outcomes noThread
  { device with worker, pc := if worker.phase = .active then .testStop else device.pc }

/-- A dormant device is to be destroyed, and its queue is flushed first. -/
def flush (device : IncDevice) (noThread : Option Errno) : IncDevice :=
  let worker := device.worker.flush noThread
  { device with worker, pc := if worker.phase = .flushing then .testStop else device.pc }

/-- `cow_truncate_to_index` as `tracer_active_snap_to_inc` calls it, once the new
thread is awake. An error is only logged. -/
def truncate (device : IncDevice) (outcomes : List Outcome) : IncDevice :=
  match cowTruncateToIndex { device.worker.cow with outcomes } with
  | (.error .oops, cow) | (.error .crash, cow) =>
      { device with worker := { device.worker with cow, crashed := true } }
  | (_, cow) => { device with worker := { device.worker with cow }, truncating := false }

def step (device : IncDevice) (event : IncEvent) : Option IncDevice :=
  if device.worker.crashed then none
  else
    match event with
    | .makeSset sect len addr =>
        if device.tracing ∧ 0 < len then device.makeSset sect len addr else none
    | .thread outcomes => if device.worker.Runs then device.threadStep outcomes else none
    | .reconfigure cacheSize =>
        if device.worker.Settled then
          some { device with worker := device.worker.reconfigure cacheSize }
        else none
    | .truncate outcomes => if device.truncating then some (device.truncate outcomes) else none
    | .swap =>
        if device.worker.Settled ∧ device.truncating = false then
          some { device with
            tracing := false
            worker := { device.worker with ending := some .replaced } }
        else none
    | .stopOld =>
        if device.worker.ending = some .replaced then
          some { device with worker := { device.worker with shouldStop := true } }
        else none
    | .umount =>
        if device.worker.Settled ∧ device.truncating = false then
          some { device with
            worker := { device.worker with shouldStop := true, ending := some .dormant } }
        else none
    | .flush noThread =>
        if device.worker.Idle ∧ device.worker.phase ≠ .failed then some (device.flush noThread)
        else none
    | .destroy =>
        if device.worker.Destroyable ∧ device.truncating = false then
          some { device with
            -- The flush ends before the device is taken out of the table.
            tracing := device.tracing && device.worker.phase = .flushing
            worker := { device.worker with shouldStop := true, ending := some .destroyed } }
        else none
    | .close outcomes =>
        if device.worker.Closes ∧ device.pc = .exited then
          device.worker.ending.map fun ending =>
            { device with
              tracing := device.tracing && ending ≠ .destroyed
              worker := device.worker.close ending outcomes }
        else none
    | .reopen outcomes noThread =>
        if device.worker.Idle ∧ device.worker.phase ≠ .unopened then
          some (device.reopen outcomes noThread)
        else none

end IncDevice

theorem ssetsEmpty_iff (device : IncDevice) :
    device.ssetsEmpty = true ↔ device.ssets.values = [] := by
  unfold IncDevice.ssetsEmpty
  rw [Option.isNone_iff_eq_none]
  exact device.ssets.head_eq_none_iff

end Moocbt.Device
