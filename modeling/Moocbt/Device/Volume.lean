import Moocbt.Device.IncTracing
import Moocbt.Device.Withholding

/-! A base device with the device that traces it, from the start of a snapshot over the
transition to incremental mode, with the writes that are traced there, umounts and reloads. -/

namespace Moocbt.Device

open Cow Program

/-- What the base device is to store for a write with these words in its pages. -/
def TracedWrite.orig (write : TracedWrite) (data : Nat → Nat) : OrigBio :=
  ⟨0, write.bio.iter.sector, write.bio.iter.size / sectorSize, true,
    if write.op = .writeZeroes then fun _ => 0 else data⟩

/-- `tracer_should_trace_bio`, of a device that has not failed. -/
def Entry.shouldTrace (entry : Entry) (write : TracedWrite) : Bool :=
  !write.op.isDiscard && write.op.dataDir && decide (0 < write.bio.iter.size) &&
    decide (entry.sectOff ≤ write.bio.iter.sector) &&
    decide (write.bio.iter.sector < entry.sectOff + entry.size)

/-- A write in `inc_trace_bio`, with the calls of `inc_make_sset` it has still to make, and
whether the base device has served it. -/
structure Marking where
  write : TracedWrite
  data : Nat → Nat
  calls : List SectorSet
  stored : Bool

/-- A site with the writes that are traced in incremental mode. `early` are the calls of
`inc_make_sset` for a device whose thread does not run yet, with what `kmalloc` gave. -/
structure Volume where
  site : Site
  markings : List Marking
  early : List (SectorSet × Option Nat)

/-- A step of the site; a write enters `inc_trace_bio`, makes its next call, or is served by
the base device; a write is served that no device traces; the tracing side of a snapshot that
was replaced goes on; the snapshot is replaced; or a device that was unmounted is set up
again from its file. -/
inductive VolumeEvent where
  | site (event : SiteEvent)
  | begin (write : TracedWrite) (data : Nat → Nat)
  | mark (id : Nat) (addr : Option Nat)
  | store (id : Nat)
  | pass (write : TracedWrite) (data : Nat → Nat)
  | finish (event : FrontEvent)
  | toInc
  | reload (cacheSize : Nat) (outcomes : List Outcome)

/-- The steps of a site that are not made by one of the other events. -/
def SiteEvent.isPlain : SiteEvent → Bool
  | .device (.inc (.makeSset _ _ _)) | .device (.toInc _) => false
  | _ => true

def FrontEvent.isStart : FrontEvent → Bool
  | .start _ _ => true
  | _ => false

namespace IncDevice

/-- The calls that were made before the thread runs. -/
def deliver : IncDevice → List (SectorSet × Option Nat) → Option IncDevice
  | device, [] => some device
  | device, (call, addr) :: rest =>
      (device.makeSset call.sect call.len addr).bind fun later => later.deliver rest

/-- The device that goes on with the file: what was on it stays recorded. -/
def reloaded (device : IncDevice) (cow : CowState) : IncDevice :=
  { start cow device.sectOff false with
    inherited := device.inherited ++ device.taken.flatMap SectorSet.blocks }

end IncDevice

namespace Volume

def start (cow : CowState) (base : Nat → Nat) : Volume := ⟨.start cow base, [], []⟩

/-- A device in incremental mode is in the table and has not failed, whether it is active or
dormant. While the thread of the snapshot it replaces is being stopped, its own thread does not
run yet. -/
def marks (volume : Volume) : Bool :=
  match volume.site.tracer with
  | .inc device => device.tracing && device.worker.failCode.isNone
  | .snap device =>
      decide (device.worker.ending = some .replaced) && volume.early.all fun call => call.2.isSome

def begin (wiring : Wiring) (volume : Volume) (write : TracedWrite) (data : Nat → Nat) :
    Option Volume :=
  if volume.marks = true ∧ wiring.table[wiring.index]?.any (·.shouldTrace write) = true then
    some { volume with
      markings := volume.markings ++ [⟨write, data, write.incTraceBio, false⟩] }
  else none

/-- The next call of a write. After one that fails it makes no more. -/
def mark (volume : Volume) (id : Nat) (addr : Option Nat) : Option Volume :=
  volume.markings[id]?.bind fun marking =>
    match marking.calls with
    | [] => none
    | call :: rest =>
        let markings := volume.markings.set id
          { marking with calls := if addr.isSome then rest else [] }
        match volume.site.tracer with
        | .snap _ => some { volume with markings, early := volume.early ++ [(call, addr)] }
        | .inc device =>
            if device.worker.crashed then none
            else
              (device.makeSset call.sect call.len addr).map fun device =>
                { volume with site := { volume.site with tracer := .inc device }, markings }

/-- The base device serves a write that was submitted at the end of `inc_trace_bio`. -/
def store (wiring : Wiring) (volume : Volume) (id : Nat) : Option Volume :=
  volume.markings[id]?.bind fun marking =>
    if marking.calls.isEmpty = true ∧ marking.stored = false then
      some { volume with
        site := { volume.site with
          base := (marking.write.orig marking.data).write wiring.sectOff volume.site.base }
        markings := volume.markings.set id { marking with stored := true } }
    else none

/-- A write that is not traced: a discard, one outside the device, or one to a device that has
failed or is not in the table. An umount leaves `sd_active` set. -/
def pass (wiring : Wiring) (volume : Volume) (write : TracedWrite) (data : Nat → Nat) :
    Option Volume :=
  match volume.site.tracer with
  | .snap _ => none
  | .inc _ =>
      if volume.marks = true ∧ wiring.table[wiring.index]?.any (·.shouldTrace write) = true then
        none
      else
        some { volume with
          site := { volume.site with
            base := (write.orig data).write wiring.sectOff volume.site.base } }

/-- What the tracing side of the snapshot still does, beside what it tells the device. -/
def finish (wiring : Wiring) (volume : Volume) (event : FrontEvent) : Option Volume :=
  match volume.site.tracer with
  | .snap _ => none
  | .inc _ =>
      if event.isStart = true ∨ (volume.site.front.told wiring event).isSome = true then none
      else
        (volume.site.front.step wiring event).map fun front =>
          { volume with site := { volume.site with front } }

/-- The end of `tracer_active_snap_to_inc`. -/
def toInc (wiring : Wiring) (volume : Volume) : Option Volume :=
  (volume.site.step wiring (.device (.toInc wiring.sectOff))).bind fun site =>
    match site.tracer with
    | .snap _ => none
    | .inc device =>
        (device.deliver volume.early).map fun device =>
          { volume with site := { site with tracer := .inc device }, early := [] }

/-- `cow_reload` by `__tracer_unverified_inc_to_active`, with a new thread: after an umount
the device was destroyed, or the driver loaded anew. -/
def reload (elements : Nat) (volume : Volume) (cacheSize : Nat) (outcomes : List Outcome) :
    Option Volume :=
  match volume.site.tracer with
  | .snap _ => none
  | .inc device =>
      if device.worker.crashed = false ∧ device.worker.phase = .dormant ∧
          volume.markings.all (·.calls.isEmpty) = true then
        match cowReload elements cowSectionSize cacheSize true
            { device.worker.cow with outcomes } with
        | (.ok (), cow) =>
            some { volume with site := { volume.site with tracer := .inc (device.reloaded cow) } }
        | _ => none
      else none

def step (wiring : Wiring) (elements : Nat) (volume : Volume) : VolumeEvent → Option Volume
  | .site event =>
      if event.isPlain then (volume.site.step wiring event).map ({ volume with site := · })
      else none
  | .begin write data => volume.begin wiring write data
  | .mark id addr => volume.mark id addr
  | .store id => volume.store wiring id
  | .pass write data => volume.pass wiring write data
  | .finish event => volume.finish wiring event
  | .toInc => volume.toInc wiring
  | .reload cacheSize outcomes => volume.reload elements cacheSize outcomes

end Volume

end Moocbt.Device
