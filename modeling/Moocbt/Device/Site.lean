import Moocbt.Device.Closing
import Moocbt.Device.Front

/-! A device in snapshot mode with its tracing side and its base device. -/

namespace Moocbt.Device

open Cow Program

/-- `base` are the words of the base device from the start of the traced one, and
`applied` the writes it has served. -/
structure Site where
  front : Front
  tracer : Tracer
  base : Nat → Nat
  applied : List Nat

/-- A step of the tracing side; the base device answers a read clone, serves a write it
was handed, or answers the read the thread waits for; somebody reads the snapshot; the
device makes any other step. -/
inductive SiteEvent where
  | front (event : FrontEvent)
  | answer (id index : Nat) (error : Option Errno)
  | apply (id : Nat)
  | base (error : Option Errno)
  | read (bio : ReadBio)
  | device (event : TracerEvent)

/-- The content of the device after a write. -/
def OrigBio.write (bio : OrigBio) (sectOff : Nat) (base : Nat → Nat) : Nat → Nat := fun word =>
  if (bio.sector - sectOff) * sectorWords ≤ word ∧
      word < (bio.sector - sectOff + bio.count) * sectorWords then
    bio.data (word - (bio.sector - sectOff) * sectorWords)
  else base word

/-- What the tracing side tells the device. -/
def Front.told (wiring : Wiring) (front : Front) (event : FrontEvent) : Option SnapEvent :=
  (front.turn wiring event).bind fun turned => turned.2.told

section told

variable {wiring : Wiring} {front : Front} {life : Life} {turn : Turn} {id index fits : Nat}
  {failing : Bool} {result : Except Errno (Nat → Nat)}

theorem Front.told_trace (found : front.lives[id]? = some life)
    (ran : life.trace wiring failing fits = some turn) :
    front.told wiring (.trace id failing fits) = turn.told := by
  simp [told, Front.turn, found, ran]

theorem Front.told_serve (found : front.lives[id]? = some life)
    (ran : life.serve index result = some turn) :
    front.told wiring (.serve id index result) = turn.told := by
  simp [told, Front.turn, found, ran]

theorem Front.told_complete (found : front.lives[id]? = some life)
    (ran : life.complete index = some turn) :
    front.told wiring (.complete id index) = turn.told := by
  simp [told, Front.turn, found, ran]

end told

/-- `snap_trace_bio` reads the fail code of the device. -/
def Front.Reads (front : Front) (failing : Bool) : FrontEvent → Prop
  | .trace id answer _ => ∀ life ∈ front.lives[id]?, life.pc = .check → answer = failing
  | _ => True

instance (front : Front) (failing : Bool) (event : FrontEvent) :
    Decidable (front.Reads failing event) :=
  match event with
  | .trace id answer _ =>
      inferInstanceAs (Decidable (∀ life ∈ front.lives[id]?, life.pc = .check → answer = failing))
  | .start _ _ | .serve _ _ _ | .complete _ _ | .mrf _ => .isTrue trivial

/-- A step of the device that neither the tracing side nor the base device makes. -/
def TracerEvent.own : TracerEvent → Bool
  | .snap (.addBio _) | .snap .submit | .snap .receive | .snap (.fail _) | .snap (.serve _) => false
  | _ => true

def FrontEvent.isServe : FrontEvent → Bool
  | .serve _ _ _ => true
  | _ => false

def answered (base : Nat → Nat) : Option Errno → Except Errno (Nat → Nat)
  | none => .ok base
  | some error => .error error

namespace Site

/-- A step of the tracing side, with what it tells the device. -/
def frontStep (wiring : Wiring) (site : Site) (event : FrontEvent) : Option Site :=
  match site.tracer with
  | .inc _ => none
  | .snap device =>
      if site.front.Reads device.worker.failCode.isSome event then
        (site.front.step wiring event).bind fun front =>
          match site.front.told wiring event with
          | none => some { site with front }
          | some told => (device.step told).map fun device =>
              { site with front, tracer := .snap device }
      else none

/-- A write is served as often as the driver was handed it. -/
def apply (wiring : Wiring) (site : Site) (id : Nat) : Option Site :=
  site.front.lives[id]?.bind fun life =>
    if site.applied.count id < life.handed.length then
      some { site with
        base := life.bio.write wiring.sectOff site.base
        applied := site.applied ++ [id] }
    else none

def snapStep (site : Site) (event : SnapEvent) : Option Site :=
  match site.tracer with
  | .inc _ => none
  | .snap device => (device.step event).map fun device => { site with tracer := .snap device }

def step (wiring : Wiring) (site : Site) : SiteEvent → Option Site
  | .front event => if event.isServe then none else site.frontStep wiring event
  | .answer id index error => site.frontStep wiring (.serve id index (answered site.base error))
  | .apply id => site.apply wiring id
  | .base error => site.snapStep (.serve (answered site.base error))
  | .read bio => site.snapStep (.addBio (.read bio))
  | .device event =>
      if event.own then (site.tracer.step event).map fun tracer => { site with tracer } else none

def start (cow : CowState) (base : Nat → Nat) : Site := ⟨.fresh, .snap (.start cow), base, []⟩

end Site

/-- The step of the tracing side in an event. -/
def SiteEvent.inner (site : Site) : SiteEvent → Option FrontEvent
  | .front event => if event.isServe then none else some event
  | .answer id index error => some (.serve id index (answered site.base error))
  | _ => none

/-- What a step is for a site in snapshot mode. -/
inductive Site.Stepped (wiring : Wiring) (site : Site) (device : SnapDevice) :
    SiteEvent → Site → Prop
  | silent {event : SiteEvent} {inner : FrontEvent} {front : Front} :
      event.inner site = some inner →
      site.front.Reads device.worker.failCode.isSome inner →
      site.front.Stepped wiring inner front → site.front.told wiring inner = none →
      Stepped wiring site device event { site with front }
  | tells {event : SiteEvent} {inner : FrontEvent} {told : SnapEvent} {front : Front}
      {next : SnapDevice} : event.inner site = some inner →
      site.front.Reads device.worker.failCode.isSome inner →
      site.front.Stepped wiring inner front →
      site.front.told wiring inner = some told → device.step told = some next →
      Stepped wiring site device event { site with front, tracer := .snap next }
  | applies {id : Nat} {life : Life} : site.front.lives[id]? = some life →
      site.applied.count id < life.handed.length →
      Stepped wiring site device (.apply id)
        { site with
          base := life.bio.write wiring.sectOff site.base, applied := site.applied ++ [id] }
  | answers {error : Option Errno} {next : SnapDevice} :
      device.step (.serve (answered site.base error)) = some next →
      Stepped wiring site device (.base error) { site with tracer := .snap next }
  | reads {bio : ReadBio} {next : SnapDevice} : device.step (.addBio (.read bio)) = some next →
      Stepped wiring site device (.read bio) { site with tracer := .snap next }
  | steps {event : SnapEvent} {next : SnapDevice} : TracerEvent.own (.snap event) = true →
      device.step event = some next →
      Stepped wiring site device (.device (.snap event)) { site with tracer := .snap next }
  | leaves {sectOff : Nat} : device.worker.crashed = false → device.worker.phase = .active →
      device.worker.ending = some .replaced → device.pc = .exited →
      Stepped wiring site device (.device (.toInc sectOff))
        { site with tracer := .inc (device.toInc sectOff) }

namespace Site

variable {wiring : Wiring} {site next : Site} {device : SnapDevice} {event : SiteEvent}

theorem frontStepped {inner : FrontEvent} (snapshot : site.tracer = .snap device)
    (chosen : event.inner site = some inner)
    (taken : site.frontStep wiring inner = some next) : site.Stepped wiring device event next := by
  unfold frontStep at taken
  split at taken
  · contradiction
  rename_i device' here
  have same : device' = device := Tracer.snap.inj (here.symm.trans snapshot)
  subst same
  split at taken
  · rename_i honest
    obtain ⟨front, ran, told⟩ := Option.bind_eq_some_iff.mp taken
    split at told
    · rename_i silent
      cases told
      exact .silent chosen honest (Front.stepped ran) silent
    · rename_i event tells
      obtain ⟨after, stepped, same⟩ := Option.map_eq_some_iff.mp told
      subst same
      exact .tells chosen honest (Front.stepped ran) tells stepped
  · contradiction

theorem snapStepped {inner : SnapEvent} (snapshot : site.tracer = .snap device)
    (taken : site.snapStep inner = some next) :
    ∃ after, device.step inner = some after ∧ next = { site with tracer := .snap after } := by
  unfold snapStep at taken
  rw [snapshot] at taken
  obtain ⟨after, stepped, same⟩ := Option.map_eq_some_iff.mp taken
  exact ⟨after, stepped, same.symm⟩

theorem stepped (snapshot : site.tracer = .snap device) (taken : site.step wiring event = some next) :
    site.Stepped wiring device event next := by
  cases event with
  | front inner =>
      simp only [step] at taken
      split at taken
      · contradiction
      · rename_i serves
        exact frontStepped snapshot (if_neg serves) taken
  | answer id index error => exact frontStepped snapshot rfl taken
  | apply id =>
      obtain ⟨life, found, served⟩ := Option.bind_eq_some_iff.mp taken
      split at served
      · rename_i handed
        cases served
        exact .applies found handed
      · contradiction
  | base error =>
      obtain ⟨after, stepped, same⟩ := snapStepped snapshot taken
      subst same
      exact .answers stepped
  | read bio =>
      obtain ⟨after, stepped, same⟩ := snapStepped snapshot taken
      subst same
      exact .reads stepped
  | device inner =>
      simp only [step] at taken
      split at taken
      · rename_i own
        obtain ⟨tracer, ran, same⟩ := Option.map_eq_some_iff.mp taken
        subst same
        rw [snapshot] at ran
        cases inner with
        | inc event => contradiction
        | snap event =>
            obtain ⟨after, stepped, same⟩ := Option.map_eq_some_iff.mp ran
            subst same
            exact .steps own stepped
        | toInc sectOff =>
            simp only [Tracer.step] at ran
            split at ran
            · contradiction
            · rename_i running
              split at ran
              · rename_i allowed
                split at ran
                · rename_i exited
                  cases ran
                  exact .leaves (by simpa using running) allowed.1 allowed.2 exited
                · contradiction
              · contradiction
      · contradiction

end Site

end Moocbt.Device
