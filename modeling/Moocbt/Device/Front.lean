import Moocbt.Device.Snapshot

/-! The tracing side of a device: the walk over the table of devices, the life of a
traced write with its read clones and the reference count of its `tracing_params`, and
the thread that submits the writes that were held back. -/

namespace Moocbt.Device

open Cow Program

/-- `USE_HOOK_TRACER`, else `USE_BDOPS_SUBMIT_BIO`, else a replaced `make_request_fn`. -/
inductive Build where
  | hook
  | bdops
  | legacy
  deriving DecidableEq, Repr

/-- What the tracing function reads of a device in the table. -/
structure Entry where
  queue : Nat
  sectOff : Nat
  size : Nat
  active : Bool
  unverified : Bool
  snapshot : Bool
  deriving DecidableEq, Repr

/-- A write as its issuer submits it, with its data by words. -/
structure OrigBio where
  queue : Nat
  sector : Nat
  count : Nat
  needsCow : Bool
  data : Nat → Nat

namespace Entry

/-- `tracer_is_bio_for_dev`. -/
def isBioFor (entry : Entry) (bio : OrigBio) : Bool :=
  !entry.unverified && entry.active && entry.queue == bio.queue &&
    decide (entry.sectOff ≤ bio.sector) && decide (bio.sector < entry.sectOff + entry.size)

/-- `tracer_is_bio_for_dev_only_queue`. -/
def isBioForOnlyQueue (entry : Entry) (bio : OrigBio) : Bool :=
  !entry.unverified && entry.queue == bio.queue && entry.active

/-- `tracer_should_trace_bio`, for a write that is no discard. -/
def shouldTraceBio (entry : Entry) (failed : Bool) (bio : OrigBio) : Bool :=
  decide (0 < bio.count) && !failed &&
    decide (entry.sectOff ≤ bio.sector) && decide (bio.sector < entry.sectOff + entry.size)

/-- Devices on one queue have no sector in common. -/
def Apart (first second : Entry) : Prop :=
  first.queue = second.queue →
    first.sectOff + first.size ≤ second.sectOff ∨ second.sectOff + second.size ≤ first.sectOff

instance (first second : Entry) : Decidable (first.Apart second) :=
  inferInstanceAs (Decidable (_ → _))

end Entry

/-- The loop of `tracing_fn` and of `moocbt_trace_bio`: the index of the device that
traces the bio, and the flag `MOOCBT_PASSTHROUGH` afterwards. `failed` says which devices
have a fail code. -/
def traceWalk (failed : Entry → Bool) (bio : OrigBio) : Bool → Nat → List Entry → Option Nat × Bool
  | flag, _, [] => (none, flag)
  | flag, index, entry :: rest =>
      if !entry.isBioFor bio then traceWalk failed bio flag (index + 1) rest
      else if flag then traceWalk failed bio false (index + 1) rest
      else if entry.shouldTraceBio (failed entry) bio then (some index, false)
      else traceWalk failed bio false (index + 1) rest

/-- What becomes of a bio that was submitted. -/
inductive Handed where
  | driver (flag : Bool)
  | tracer (index : Nat)
  | nowhere
  deriving DecidableEq, Repr

/-- The build, the table of devices and the place of one of them. -/
structure Wiring where
  build : Build
  table : List Entry
  index : Nat

/-- A pass of a bio through the tracing function. With a replaced `make_request_fn` the
driver's own is found through a device on the queue. -/
def Wiring.pass (wiring : Wiring) (failed : Entry → Bool) (bio : OrigBio) (flag : Bool) : Handed :=
  match traceWalk failed bio flag 0 wiring.table with
  | (some index, _) => .tracer index
  | (none, flag) =>
      if wiring.build = .legacy ∧ ¬ wiring.table.any (·.isBioForOnlyQueue bio) then .nowhere
      else .driver flag

/-- The sector the device begins at. -/
def Wiring.sectOff (wiring : Wiring) : Nat :=
  (wiring.table[wiring.index]?.map Entry.sectOff).getD 0

def Wiring.snapshot (wiring : Wiring) : Bool :=
  (wiring.table[wiring.index]?.map Entry.snapshot).getD false

/-- Where the tracing of a write is: in `inc_trace_bio`, in `snap_trace_bio` before it
has a `tracing_params`, in its loop with the rest of the range and the clone in hand, in
its error path, or back in the tracing function, with the write deferred or not. -/
inductive TracePc where
  | mark
  | check
  | alloc
  | makeClone (sector pages : Nat)
  | addClone (clone : ReadBio) (sector pages : Nat)
  | count (clone : ReadBio) (sector pages : Nat)
  | submit (clone : ReadBio) (sector pages : Nat)
  | drop
  | freeClone
  | abandon
  | returned (deferred : Bool)
  deriving DecidableEq, Repr

/-- What `__on_bio_read_complete` still has to do for a clone. -/
inductive HandlerPc where
  | queue (bio : WriteBio)
  | count
  | put
  | fail (error : Errno)

/-- A traced write, with its `tracing_params`. The last two fields record its history: the
clones that were submitted, and what became of the write. -/
structure Life where
  bio : OrigBio
  pc : TracePc
  refs : Int
  flight : List ReadBio
  handlers : List HandlerPc
  sent : List ReadBio
  handed : List Handed

/-- A step of a life, whether it put the write into `sd_orig_bios`, and what the
device is told. -/
structure Turn where
  life : Life
  released : Bool
  told : Option SnapEvent

/-- `atomic64_inc` of `sd_submitted_cnt`. -/
def Turn.submitted (turn : Turn) : Nat :=
  match turn.told with
  | some .submit => 1
  | _ => 0

/-- `atomic64_inc` of `sd_received_cnt`. -/
def Turn.received (turn : Turn) : Nat :=
  match turn.told with
  | some .receive => 1
  | _ => 0

def fillVecs (data : Nat → Nat) : Nat → List Nat → List BioVec
  | _, [] => []
  | sector, len :: rest =>
      ⟨len, fun word => data (sector * sectorWords + word)⟩ ::
        fillVecs data (sector + len / sectorSize) rest

/-- A read clone after its completion turned it into a write. -/
def ReadBio.fill (clone : ReadBio) (data : Nat → Nat) : WriteBio :=
  ⟨clone.sector, fillVecs data clone.sector clone.vecs⟩

namespace Life

/-- The state `snap_trace_bio` or `inc_trace_bio` starts from. -/
def begin (bio : OrigBio) (snapshot : Bool) : Life :=
  ⟨bio, if snapshot then .check else .mark, 0, [], [], [], []⟩

/-- `tp_put`: the last reference releases the write. -/
def tpPut (life : Life) (told : Option SnapEvent) : Turn :=
  ⟨{ life with refs := life.refs - 1 }, life.refs - 1 = 0, told⟩

def hand (life : Life) (handed : Handed) : Life := { life with handed := life.handed ++ [handed] }

/-- `snap_trace_bio` ends without a `tracing_params`: the write is submitted at once. -/
def pass (life : Life) : Life := { life.hand (.driver false) with pc := .returned false }

/-- `start_sect`, from the start of the device, and `pages`. -/
def range (life : Life) (sectOff : Nat) : Nat × Nat :=
  let first := (life.bio.sector - sectOff) / sectorsPerBlock
  let last := numSegments (life.bio.sector + life.bio.count - sectOff) blockLogSectors
  (first * sectorsPerBlock, last - first)

/-- A step of the tracing function. `failing` is the answer of the fail code or of an
allocation, `fits` the number of pages a clone takes. -/
def trace (wiring : Wiring) (life : Life) (failing : Bool) (fits : Nat) : Option Turn :=
  match life.pc with
  | .mark => some ⟨life.pass, false, none⟩
  | .check =>
      some ⟨if !life.bio.needsCow || failing then life.pass else { life with pc := .alloc },
        false, none⟩
  | .alloc =>
      if failing then
        match wiring.build with
        | .hook | .legacy => some ⟨life.pass, false, some (.fail .enomem)⟩
        | .bdops => some ⟨{ life with pc := .returned false }, false, some (.fail .enomem)⟩
      else
        let range := life.range wiring.sectOff
        some ⟨{ life with refs := 1, pc := .makeClone range.1 range.2 }, false, none⟩
  | .makeClone sector pages =>
      if failing then some ⟨{ life with pc := .abandon }, false, some (.fail .enomem)⟩
      else if 0 < fits ∧ fits ≤ pages then
        let clone : ReadBio := ⟨sector, List.replicate fits pageSize⟩
        some ⟨{ life with
          refs := life.refs + 1
          pc := .addClone clone (sector + fits * sectorsPerBlock) (pages - fits) }, false, none⟩
      else none
  | .addClone clone sector pages =>
      if failing then some ⟨{ life with pc := .freeClone }, false, some (.fail .enomem)⟩
      else some ⟨{ life with pc := .count clone sector pages }, false, none⟩
  | .count clone sector pages =>
      some ⟨{ life with pc := .submit clone sector pages }, false, some .submit⟩
  | .submit clone sector pages =>
      some ⟨{ life with
        flight := life.flight ++ [clone]
        sent := life.sent ++ [clone]
        pc := if 0 < pages then .makeClone sector pages else .drop }, false, none⟩
  | .drop => some (tpPut { life with pc := .returned true } none)
  | .freeClone => some (tpPut { life with pc := .abandon } none)
  | .abandon => some (tpPut { life with pc := .returned true } none)
  | .returned _ => none

/-- What a step of the tracing function can be. -/
inductive Traced (wiring : Wiring) (life : Life) (failing : Bool) (fits : Nat) : Turn → Prop
  | marked : life.pc = .mark → Traced wiring life failing fits ⟨life.pass, false, none⟩
  | passed : life.pc = .check → (life.bio.needsCow = false ∨ failing = true) →
      Traced wiring life failing fits ⟨life.pass, false, none⟩
  | checked : life.pc = .check → life.bio.needsCow = true → failing = false →
      Traced wiring life failing fits ⟨{ life with pc := .alloc }, false, none⟩
  | unallocated : life.pc = .alloc → failing = true → wiring.build ≠ .bdops →
      Traced wiring life failing fits ⟨life.pass, false, some (.fail .enomem)⟩
  | lost : life.pc = .alloc → failing = true → wiring.build = .bdops →
      Traced wiring life failing fits
        ⟨{ life with pc := .returned false }, false, some (.fail .enomem)⟩
  | allocated : life.pc = .alloc →
      Traced wiring life failing fits
        ⟨{ life with
            refs := 1
            pc := .makeClone (life.range wiring.sectOff).1 (life.range wiring.sectOff).2 },
          false, none⟩
  | unmade {sector pages : Nat} : life.pc = .makeClone sector pages →
      Traced wiring life failing fits ⟨{ life with pc := .abandon }, false, some (.fail .enomem)⟩
  | made {sector pages : Nat} : life.pc = .makeClone sector pages → 0 < fits → fits ≤ pages →
      Traced wiring life failing fits
        ⟨{ life with
            refs := life.refs + 1
            pc := .addClone ⟨sector, List.replicate fits pageSize⟩
              (sector + fits * sectorsPerBlock) (pages - fits) }, false, none⟩
  | unadded {clone : ReadBio} {sector pages : Nat} : life.pc = .addClone clone sector pages →
      Traced wiring life failing fits ⟨{ life with pc := .freeClone }, false, some (.fail .enomem)⟩
  | added {clone : ReadBio} {sector pages : Nat} : life.pc = .addClone clone sector pages →
      Traced wiring life failing fits ⟨{ life with pc := .count clone sector pages }, false, none⟩
  | counted {clone : ReadBio} {sector pages : Nat} : life.pc = .count clone sector pages →
      Traced wiring life failing fits
        ⟨{ life with pc := .submit clone sector pages }, false, some .submit⟩
  | sends {clone : ReadBio} {sector pages : Nat} : life.pc = .submit clone sector pages →
      Traced wiring life failing fits
        ⟨{ life with
            flight := life.flight ++ [clone]
            sent := life.sent ++ [clone]
            pc := if 0 < pages then .makeClone sector pages else .drop }, false, none⟩
  | dropped : life.pc = .drop →
      Traced wiring life failing fits (tpPut { life with pc := .returned true } none)
  | freed : life.pc = .freeClone →
      Traced wiring life failing fits (tpPut { life with pc := .abandon } none)
  | abandoned : life.pc = .abandon →
      Traced wiring life failing fits (tpPut { life with pc := .returned true } none)

theorem traced {wiring : Wiring} {life : Life} {failing : Bool} {fits : Nat} {turn : Turn}
    (taken : life.trace wiring failing fits = some turn) :
    life.Traced wiring failing fits turn := by
  unfold trace at taken
  cases here : life.pc with
  | mark =>
      rw [here] at taken
      cases taken
      exact .marked here
  | check =>
      rw [here] at taken
      cases taken
      cases needs : life.bio.needsCow with
      | false => exact .passed here (.inl needs)
      | true =>
          cases failing with
          | false => exact .checked here needs rfl
          | true => exact .passed here (.inr rfl)
  | alloc =>
      rw [here] at taken
      cases failing with
      | false =>
          cases taken
          exact .allocated here
      | true =>
          cases built : wiring.build with
          | hook =>
              rw [built] at taken
              cases taken
              exact .unallocated here rfl (by rw [built]; decide)
          | bdops =>
              rw [built] at taken
              cases taken
              exact .lost here rfl built
          | legacy =>
              rw [built] at taken
              cases taken
              exact .unallocated here rfl (by rw [built]; decide)
  | makeClone sector pages =>
      rw [here] at taken
      cases failing with
      | true =>
          cases taken
          exact .unmade here
      | false =>
          simp only [Bool.false_eq_true, if_false] at taken
          split at taken
          · rename_i allowed
            cases taken
            exact .made here allowed.1 allowed.2
          · contradiction
  | addClone clone sector pages =>
      rw [here] at taken
      cases failing with
      | true =>
          cases taken
          exact .unadded here
      | false =>
          cases taken
          exact .added here
  | count clone sector pages =>
      rw [here] at taken
      cases taken
      exact .counted here
  | submit clone sector pages =>
      rw [here] at taken
      cases taken
      exact .sends here
  | drop =>
      rw [here] at taken
      cases taken
      exact .dropped here
  | freeClone =>
      rw [here] at taken
      cases taken
      exact .freed here
  | abandon =>
      rw [here] at taken
      cases taken
      exact .abandoned here
  | returned deferred =>
      rw [here] at taken
      contradiction

/-- The base device answers a read clone: its completion handler begins. -/
def serve (life : Life) (index : Nat) (result : Except Errno (Nat → Nat)) : Option Turn :=
  life.flight[index]?.map fun clone =>
    let handler :=
      match result with
      | .ok data => .queue (clone.fill data)
      | .error error => .fail error
    ⟨{ life with flight := life.flight.eraseIdx index, handlers := life.handlers ++ [handler] },
      false, none⟩

/-- A step of a completion handler. -/
def complete (life : Life) (index : Nat) : Option Turn :=
  life.handlers[index]?.map fun handler =>
    match handler with
    | .queue bio =>
        ⟨{ life with handlers := life.handlers.set index .count }, false,
          some (.addBio (.write bio))⟩
    | .count => ⟨{ life with handlers := life.handlers.set index .put }, false, some .receive⟩
    | .fail error => ⟨{ life with handlers := life.handlers.set index .put }, false, some (.fail error)⟩
    | .put => tpPut { life with handlers := life.handlers.eraseIdx index } none

end Life

/-- Where `snap_mrf_thread` is. -/
inductive MrfPc where
  | testStop
  | testQueue
  | waitEvent
  | testEmpty
  | dequeue
  | submit (id : Nat)
  | exited
  deriving DecidableEq, Repr

/-- The tracing side of one device: the writes it traced, `sd_orig_bios` with their
numbers, the thread behind it and the two counters of read clones. -/
structure Front where
  lives : List Life
  origBios : List Nat
  mrf : MrfPc
  mrfStop : Bool
  submitted : Nat
  received : Nat

/-- A write is accepted by `tracer_should_trace_bio`; a write, a clone of it or a
completion handler goes on; the thread makes a step. -/
inductive FrontEvent where
  | start (failed : Entry → Bool) (bio : OrigBio)
  | trace (id : Nat) (failing : Bool) (fits : Nat)
  | serve (id index : Nat) (result : Except Errno (Nat → Nat))
  | complete (id index : Nat)
  | mrf (failed : Entry → Bool)

namespace Front

def fresh : Front := ⟨[], [], .testStop, false, 0, 0⟩

def settle (front : Front) (id : Nat) (turn : Turn) : Front where
  lives := front.lives.set id turn.life
  origBios := if turn.released then front.origBios ++ [id] else front.origBios
  mrf := front.mrf
  mrfStop := front.mrfStop
  submitted := front.submitted + turn.submitted
  received := front.received + turn.received

/-- One step of `snap_mrf_thread`. It sets the flag before it submits. -/
def mrfStep (wiring : Wiring) (front : Front) (failed : Entry → Bool) : Option Front :=
  match front.mrf with
  | .testStop => some { front with mrf := if front.mrfStop then .testQueue else .waitEvent }
  | .testQueue => some { front with mrf := if front.origBios.isEmpty then .exited else .waitEvent }
  | .waitEvent =>
      if front.mrfStop || !front.origBios.isEmpty then some { front with mrf := .testEmpty }
      else none
  | .testEmpty =>
      some { front with mrf := if front.origBios.isEmpty then .testStop else .dequeue }
  | .dequeue =>
      match front.origBios with
      | [] => none
      | id :: origBios => some { front with origBios, mrf := .submit id }
  | .submit id =>
      front.lives[id]?.map fun life =>
        { front with
          lives := front.lives.set id (life.hand (wiring.pass failed life.bio true))
          mrf := .testStop }
  | .exited => none

/-- What a step makes of one of the lives. -/
def turn (wiring : Wiring) (front : Front) : FrontEvent → Option (Nat × Turn)
  | .trace id failing fits =>
      front.lives[id]?.bind fun life => (life.trace wiring failing fits).map (id, ·)
  | .serve id index result => front.lives[id]?.bind fun life => (life.serve index result).map (id, ·)
  | .complete id index => front.lives[id]?.bind fun life => (life.complete index).map (id, ·)
  | _ => none

def step (wiring : Wiring) (front : Front) (event : FrontEvent) : Option Front :=
  match event with
  | .start failed bio =>
      if (traceWalk failed bio false 0 wiring.table).1 = some wiring.index then
        some { front with lives := front.lives ++ [.begin bio wiring.snapshot] }
      else none
  | .mrf failed => front.mrfStep wiring failed
  | event => (front.turn wiring event).map fun turned => front.settle turned.1 turned.2

/-- What a step can be. -/
inductive Stepped (wiring : Wiring) (front : Front) : FrontEvent → Front → Prop
  | start {failed : Entry → Bool} {bio : OrigBio} :
      (traceWalk failed bio false 0 wiring.table).1 = some wiring.index →
      Stepped wiring front (.start failed bio)
        { front with lives := front.lives ++ [.begin bio wiring.snapshot] }
  | trace {id fits : Nat} {failing : Bool} {life : Life} {turn : Turn} :
      front.lives[id]? = some life → life.trace wiring failing fits = some turn →
      Stepped wiring front (.trace id failing fits) (front.settle id turn)
  | serve {id index : Nat} {result : Except Errno (Nat → Nat)} {life : Life} {turn : Turn} :
      front.lives[id]? = some life → life.serve index result = some turn →
      Stepped wiring front (.serve id index result) (front.settle id turn)
  | complete {id index : Nat} {life : Life} {turn : Turn} :
      front.lives[id]? = some life → life.complete index = some turn →
      Stepped wiring front (.complete id index) (front.settle id turn)
  | mrf {failed : Entry → Bool} {next : Front} : front.mrfStep wiring failed = some next →
      Stepped wiring front (.mrf failed) next

theorem stepped {wiring : Wiring} {front next : Front} {event : FrontEvent}
    (taken : front.step wiring event = some next) : front.Stepped wiring event next := by
  cases event with
  | start failed bio =>
      simp only [step] at taken
      split at taken
      · rename_i accepted
        cases taken
        exact .start accepted
      · contradiction
  | mrf failed => exact .mrf taken
  | trace id failing fits =>
      obtain ⟨turned, chosen, same⟩ := Option.map_eq_some_iff.mp taken
      obtain ⟨life, found, mapped⟩ := Option.bind_eq_some_iff.mp chosen
      obtain ⟨turn, ran, pair⟩ := Option.map_eq_some_iff.mp mapped
      subst same pair
      exact .trace found ran
  | serve id index result =>
      obtain ⟨turned, chosen, same⟩ := Option.map_eq_some_iff.mp taken
      obtain ⟨life, found, mapped⟩ := Option.bind_eq_some_iff.mp chosen
      obtain ⟨turn, ran, pair⟩ := Option.map_eq_some_iff.mp mapped
      subst same pair
      exact .serve found ran
  | complete id index =>
      obtain ⟨turned, chosen, same⟩ := Option.map_eq_some_iff.mp taken
      obtain ⟨life, found, mapped⟩ := Option.bind_eq_some_iff.mp chosen
      obtain ⟨turn, ran, pair⟩ := Option.map_eq_some_iff.mp mapped
      subst same pair
      exact .complete found ran

end Front

end Moocbt.Device
