import Moocbt.Device.Front

/-! Where a traced write is until it reaches the driver. -/

namespace Moocbt.Device

open Cow Program

section walk

variable {failed : Entry → Bool} {bio : OrigBio} {table : List Entry} {index traced : Nat}

theorem traceWalk_none (absent : ∀ entry ∈ table, entry.isBioFor bio = false) (flag : Bool) :
    traceWalk failed bio flag index table = (none, flag) := by
  induction table generalizing index with
  | nil => rfl
  | cons entry rest ih =>
      have first := absent entry List.mem_cons_self
      simp only [traceWalk, first, Bool.not_false, if_true]
      exact ih fun other member => absent other (List.mem_cons_of_mem _ member)

theorem Entry.Apart.isBioFor {first second : Entry} (apart : first.Apart second)
    (here : first.isBioFor bio = true) : second.isBioFor bio = false := by
  cases there : second.isBioFor bio with
  | false => rfl
  | true =>
      unfold Entry.isBioFor at here there
      simp only [Bool.and_eq_true, beq_iff_eq, decide_eq_true_eq] at here there
      obtain ⟨⟨⟨_, queue⟩, lower⟩, upper⟩ := here
      obtain ⟨⟨⟨_, queue'⟩, lower'⟩, upper'⟩ := there
      rcases apart (queue.trans queue'.symm) with before | after <;> omega

/-- On the second pass one device of the table clears the flag, and none traces. -/
theorem traceWalk_flagged (apart : table.Pairwise Entry.Apart)
    (present : ∃ entry ∈ table, entry.isBioFor bio = true) :
    traceWalk failed bio true index table = (none, false) := by
  induction apart generalizing index with
  | nil =>
      obtain ⟨entry, member, _⟩ := present
      contradiction
  | @cons entry rest apart _ ih =>
      cases here : entry.isBioFor bio with
      | true =>
          have others := fun other member => (apart other member).isBioFor here
          simp only [traceWalk, here, Bool.not_true, Bool.false_eq_true, if_false, if_true]
          exact traceWalk_none others false
      | false =>
          obtain ⟨other, member, found⟩ := present
          have later : other ∈ rest := by
            rcases List.mem_cons.mp member with same | later
            · subst same
              rw [here] at found
              contradiction
            · exact later
          simp only [traceWalk, here, Bool.not_false, if_true]
          exact ih ⟨other, later, found⟩

theorem traceWalk_some {flag : Bool}
    (accepted : (traceWalk failed bio flag index table).1 = some traced) :
    ∃ entry ∈ table, entry.isBioFor bio = true ∧ 0 < bio.count := by
  induction table generalizing flag index with
  | nil => contradiction
  | cons entry rest ih =>
      have later : ∀ {flag : Bool},
          (traceWalk failed bio flag (index + 1) rest).1 = some traced →
          ∃ other ∈ entry :: rest, other.isBioFor bio = true ∧ 0 < bio.count := by
        intro flag found
        obtain ⟨other, member, holds⟩ := ih found
        exact ⟨other, List.mem_cons_of_mem _ member, holds⟩
      unfold traceWalk at accepted
      split at accepted
      · exact later accepted
      · rename_i here
        split at accepted
        · exact later accepted
        · split at accepted
          · rename_i traces
            have counted : 0 < bio.count := by
              simp only [Entry.shouldTraceBio, Bool.and_eq_true, decide_eq_true_eq] at traces
              exact traces.1.1.1
            exact ⟨entry, List.mem_cons_self, by simpa using here, counted⟩
          · exact later accepted

theorem Wiring.pass_flagged {wiring : Wiring} (apart : wiring.table.Pairwise Entry.Apart)
    (present : ∃ entry ∈ wiring.table, entry.isBioFor bio = true) :
    wiring.pass failed bio true = .driver false := by
  obtain ⟨entry, member, found⟩ := present
  have known : wiring.table.any (·.isBioForOnlyQueue bio) = true := by
    refine List.any_eq_true.mpr ⟨entry, member, ?_⟩
    simp only [Entry.isBioFor, Bool.and_eq_true] at found
    simp [Entry.isBioForOnlyQueue, found.1.1]
  unfold pass
  rw [traceWalk_flagged apart ⟨entry, member, found⟩]
  simp [known]

end walk

/-- The references the tracing function holds: its own, and one for a clone that was
not submitted yet. -/
def TracePc.own : TracePc → Int
  | .makeClone _ _ | .drop | .abandon => 1
  | .addClone _ _ _ | .count _ _ _ | .submit _ _ _ | .freeClone => 2
  | .mark | .check | .alloc | .returned _ => 0

/-- The tracing function has no `tracing_params`. -/
def TracePc.bare : TracePc → Bool
  | .mark | .check | .alloc | .returned false => true
  | _ => false

/-- The tracing side is done with the write: it was submitted at once, or released. -/
def Life.out (life : Life) : Bool :=
  match life.pc with
  | .returned deferred => !deferred || life.refs == 0
  | _ => false

variable {wiring : Wiring} {life : Life} {held id : Nat} {turn : Turn}

/-- What holds of a traced write that is so many times in `sd_orig_bios` and in the hands
of the thread behind it. -/
structure Life.Sound (wiring : Wiring) (held : Nat) (life : Life) : Prop where
  counted : life.refs = life.pc.own + life.flight.length + life.handlers.length
  idle : life.pc.bare = true → life.flight = [] ∧ life.handlers = [] ∧ held = 0
  placed : held + life.handed.length = if life.out then 1 else 0
  clear : wiring.table.Pairwise Entry.Apart → ∀ handed ∈ life.handed, handed = .driver false
  accepted : ∃ entry ∈ wiring.table, entry.isBioFor life.bio = true

/-- `tp_put` for a reference of the tracing function or of a handler. -/
theorem Life.Sound.put (sound : life.Sound wiring held) (put : Life)
    (bio : put.bio = life.bio) (handed : put.handed = life.handed)
    (kept : ¬ life.out) (bare : put.pc.bare = false)
    (refs : put.refs = put.pc.own + put.flight.length + put.handlers.length + 1)
    (told : Option SnapEvent) (last : put.refs = 1 → put.pc = .returned true) :
    (put.tpPut told).life.Sound wiring (held + if (put.tpPut told).released then 1 else 0) := by
  have placed := sound.placed
  simp only [kept, Bool.false_eq_true, if_false] at placed
  have out : (put.tpPut told).life.out = (put.tpPut told).released := by
    unfold tpPut Life.out
    dsimp only
    by_cases zero : put.refs - 1 = 0
    · rw [last (by omega)]
      simp [zero]
    · cases found : put.pc <;> simp [zero]
      rename_i deferred
      cases deferred with
      | false =>
          rw [found] at bare
          contradiction
      | true => rfl
  refine ⟨?_, ?_, ?_, ?_, ?_⟩
  · change put.refs - 1 = put.pc.own + put.flight.length + put.handlers.length
    omega
  · intro bare'
    have bare' : put.pc.bare = true := bare'
    rw [bare] at bare'
    contradiction
  · rw [out]
    have same : (put.tpPut told).life.handed = life.handed := handed
    rw [same]
    omega
  · intro apart passed member
    have member : passed ∈ put.handed := member
    rw [handed] at member
    exact sound.clear apart passed member
  · obtain ⟨entry, member, found⟩ := sound.accepted
    exact ⟨entry, member, by rw [← bio] at found; exact found⟩

theorem Life.Sound.pass (sound : life.Sound wiring held) (bare : life.pc.bare = true)
    (kept : ¬ life.out) : life.pass.Sound wiring held := by
  obtain ⟨flight, handlers, unheld⟩ := sound.idle bare
  have placed := sound.placed
  simp only [kept, Bool.false_eq_true, if_false] at placed
  have counted := sound.counted
  have own : life.pc.own = 0 := by
    cases found : life.pc with
    | returned deferred => rfl
    | mark => rfl
    | check => rfl
    | alloc => rfl
    | _ => simp [found, TracePc.bare] at bare
  have none : life.handed = [] := List.eq_nil_of_length_eq_zero (by omega)
  refine ⟨?_, fun _ => ⟨flight, handlers, unheld⟩, ?_, ?_, sound.accepted⟩
  · rw [own] at counted
    exact counted
  · simp [Life.pass, Life.hand, Life.out, none, unheld]
  · intro _ handed member
    simpa [Life.pass, Life.hand, none] using member

/-- A change of the tracing function's place that hands nothing over. -/
theorem Life.Sound.move {next : Life} (sound : life.Sound wiring held) (kept : ¬ life.out)
    (busy : ¬ next.out) (bio : next.bio = life.bio) (handed : next.handed = life.handed)
    (idle : next.pc.bare = true → next.flight = [] ∧ next.handlers = [])
    (refs : next.refs = next.pc.own + next.flight.length + next.handlers.length) :
    next.Sound wiring held := by
  have placed := sound.placed
  simp only [kept, Bool.false_eq_true, if_false] at placed
  have unheld : held = 0 := by omega
  refine ⟨refs, fun bare => ⟨(idle bare).1, (idle bare).2, unheld⟩, ?_, ?_, ?_⟩
  · rw [handed]
    simp only [busy, Bool.false_eq_true, if_false]
    exact placed
  · rw [handed]
    exact sound.clear
  · rw [bio]
    exact sound.accepted

/-- The one step that loses the write. -/
def TracePc.Loses (pc : TracePc) (build : Build) (failing : Bool) : Prop :=
  build = .bdops ∧ pc = .alloc ∧ failing = true

theorem Life.Sound.trace (sound : life.Sound wiring held) {failing : Bool} {fits : Nat}
    (keeps : ¬ life.pc.Loses wiring.build failing)
    (taken : life.trace wiring failing fits = some turn) :
    turn.life.Sound wiring (held + if turn.released then 1 else 0) := by
  have counted := sound.counted
  cases Life.traced taken with
  | marked here => exact sound.pass (by rw [here]; rfl) (by simp [Life.out, here])
  | passed here => exact sound.pass (by rw [here]; rfl) (by simp [Life.out, here])
  | checked here =>
      have idle := sound.idle (by rw [here]; rfl)
      exact sound.move (by simp [Life.out, here]) (by simp [Life.out]) rfl rfl
        (fun _ => ⟨idle.1, idle.2.1⟩) (by rw [here] at counted; exact counted)
  | unallocated here => exact sound.pass (by rw [here]; rfl) (by simp [Life.out, here])
  | lost here failing built => exact absurd ⟨built, here, failing⟩ keeps
  | allocated here =>
      have idle := sound.idle (by rw [here]; rfl)
      refine sound.move (by simp [Life.out, here]) (by simp [Life.out]) rfl rfl
        (fun _ => ⟨idle.1, idle.2.1⟩) ?_
      simp [TracePc.own, idle.1, idle.2.1]
  | unmade here =>
      rw [here] at counted
      exact sound.move (by simp [Life.out, here]) (by simp [Life.out]) rfl rfl
        (by simp [TracePc.bare]) counted
  | made here =>
      rw [here] at counted
      refine sound.move (by simp [Life.out, here]) (by simp [Life.out]) rfl rfl
        (by simp [TracePc.bare]) ?_
      simp only [TracePc.own] at counted ⊢
      omega
  | unadded here =>
      rw [here] at counted
      exact sound.move (by simp [Life.out, here]) (by simp [Life.out]) rfl rfl
        (by simp [TracePc.bare]) counted
  | added here =>
      rw [here] at counted
      exact sound.move (by simp [Life.out, here]) (by simp [Life.out]) rfl rfl
        (by simp [TracePc.bare]) counted
  | counted here =>
      rw [here] at counted
      exact sound.move (by simp [Life.out, here]) (by simp [Life.out]) rfl rfl
        (by simp [TracePc.bare]) counted
  | @sends clone sector pages here =>
      rw [here] at counted
      refine sound.move (by simp [Life.out, here]) ?_ rfl rfl ?_ ?_
      · by_cases more : 0 < pages <;> simp [Life.out, more]
      · by_cases more : 0 < pages <;> simp [TracePc.bare, more]
      · by_cases more : 0 < pages <;> simp [TracePc.own, more] at counted ⊢ <;> omega
  | dropped here =>
      rw [here] at counted
      refine sound.put { life with pc := .returned true } rfl rfl (by simp [Life.out, here]) rfl
        ?_ none (fun _ => rfl)
      simp only [TracePc.own] at counted ⊢
      omega
  | freed here =>
      rw [here] at counted
      refine sound.put { life with pc := .abandon } rfl rfl (by simp [Life.out, here]) rfl ?_ none ?_
      · simp only [TracePc.own] at counted ⊢
        omega
      · intro last
        simp only [TracePc.own] at counted last
        omega
  | abandoned here =>
      rw [here] at counted
      refine sound.put { life with pc := .returned true } rfl rfl (by simp [Life.out, here]) rfl
        ?_ none (fun _ => rfl)
      simp only [TracePc.own] at counted ⊢
      omega

/-- While a clone is not done, its write is held back. -/
theorem Life.Sound.waiting (sound : life.Sound wiring held)
    (more : 0 < life.flight.length + life.handlers.length) : ¬ life.out ∧ life.pc.bare = false := by
  have bare : life.pc.bare = false := by
    cases bare : life.pc.bare with
    | false => rfl
    | true =>
        obtain ⟨flight, handlers, _⟩ := sound.idle bare
        simp [flight, handlers] at more
  refine ⟨fun out => ?_, bare⟩
  have counted := sound.counted
  unfold Life.out at out
  split at out
  · rename_i deferred here
    rw [here] at counted bare
    cases deferred with
    | false => simp [TracePc.bare] at bare
    | true =>
        simp only [Bool.not_true, Bool.false_or, beq_iff_eq] at out
        simp only [TracePc.own] at counted
        omega
  · contradiction

theorem Life.Sound.serve (sound : life.Sound wiring held) {index : Nat}
    {result : Except Errno (Nat → Nat)} (taken : life.serve index result = some turn) :
    turn.life.Sound wiring (held + if turn.released then 1 else 0) := by
  obtain ⟨clone, found, same⟩ := Option.map_eq_some_iff.mp taken
  subst same
  obtain ⟨bound, _⟩ := List.getElem?_eq_some_iff.mp found
  obtain ⟨kept, bare⟩ := sound.waiting (by omega)
  have counted := sound.counted
  refine sound.move kept kept rfl rfl (fun idle => ?_) ?_
  · rw [bare] at idle
    contradiction
  · simp only [List.length_eraseIdx, bound, if_true, List.length_append, List.length_singleton]
    omega

theorem Life.Sound.complete (sound : life.Sound wiring held) {index : Nat}
    (taken : life.complete index = some turn) :
    turn.life.Sound wiring (held + if turn.released then 1 else 0) := by
  obtain ⟨handler, found, same⟩ := Option.map_eq_some_iff.mp taken
  subst same
  obtain ⟨bound, _⟩ := List.getElem?_eq_some_iff.mp found
  obtain ⟨kept, bare⟩ := sound.waiting (by omega)
  have counted := sound.counted
  have moved : ∀ handler, Life.Sound wiring held
      { life with handlers := life.handlers.set index handler } := by
    intro handler
    refine sound.move kept kept rfl rfl (fun idle => ?_) ?_
    · rw [bare] at idle
      contradiction
    · simpa using counted
  cases handler with
  | queue bio => exact moved _
  | count => exact moved _
  | fail error => exact moved _
  | put =>
      have length : ((life.handlers.eraseIdx index).length : Int) + 1 = life.handlers.length := by
        simp only [List.length_eraseIdx, bound, if_true]
        omega
      refine sound.put { life with handlers := life.handlers.eraseIdx index } rfl rfl kept bare
        ?_ none fun last => ?_
      · dsimp only
        omega
      · have last : life.refs = 1 := last
        have pos : 0 ≤ life.pc.own := by cases life.pc <;> simp [TracePc.own]
        have own : life.pc.own = 0 := by omega
        cases here : life.pc with
        | returned deferred =>
            cases deferred with
            | true => rfl
            | false => simp [here, TracePc.bare] at bare
        | mark => simp [here, TracePc.bare] at bare
        | check => simp [here, TracePc.bare] at bare
        | alloc => simp [here, TracePc.bare] at bare
        | _ => simp [here, TracePc.own] at own

theorem Life.Sound.begin {bio : OrigBio} (snapshot : Bool)
    (accepted : ∃ entry ∈ wiring.table, entry.isBioFor bio = true) :
    (Life.begin bio snapshot).Sound wiring 0 := by
  cases snapshot <;>
    exact ⟨rfl, fun _ => ⟨rfl, rfl, rfl⟩, rfl, fun _ => List.forall_mem_nil _, accepted⟩

/-- The thread hands a write that it holds to the driver. -/
theorem Life.Sound.hand (sound : life.Sound wiring (held + 1)) {handed : Handed}
    (driver : wiring.table.Pairwise Entry.Apart → handed = .driver false) :
    (life.hand handed).Sound wiring held := by
  have placed := sound.placed
  refine ⟨sound.counted, fun bare => ?_, ?_, ?_, sound.accepted⟩
  · obtain ⟨_, _, unheld⟩ := sound.idle bare
    contradiction
  · have same : (life.hand handed).out = life.out := rfl
    rw [same, ← placed]
    simp only [Life.hand, List.length_append, List.length_singleton]
    omega
  · intro apart passed member
    rcases List.mem_append.mp member with before | last
    · exact sound.clear apart passed before
    · rw [List.mem_singleton.mp last]
      exact driver apart

variable {front next : Front}

/-- How often a write is in `sd_orig_bios` and in the hands of the thread. -/
def Front.pending (front : Front) (id : Nat) : Nat :=
  front.origBios.count id + if front.mrf = .submit id then 1 else 0

theorem Front.pending_settle (front : Front) (id other : Nat) (turn : Turn) :
    (front.settle id turn).pending other =
      front.pending other + if other = id ∧ turn.released = true then 1 else 0 := by
  unfold pending settle
  by_cases released : turn.released = true
  · by_cases same : other = id
    · subst same
      simp [released]
      omega
    · have apart : ¬ id = other := fun equal => same equal.symm
      simp [released, same, apart]
  · simp [released]

structure Front.Sound (wiring : Wiring) (front : Front) : Prop where
  lives : ∀ {id : Nat} {life : Life}, front.lives[id]? = some life →
    life.Sound wiring (front.pending id)
  known : ∀ {id : Nat}, front.pending id ≠ 0 → id < front.lives.length

theorem Front.Sound.settle (sound : front.Sound wiring) (found : front.lives[id]? = some life)
    (turned : turn.life.Sound wiring (front.pending id + if turn.released then 1 else 0)) :
    (front.settle id turn).Sound wiring := by
  obtain ⟨bound, _⟩ := List.getElem?_eq_some_iff.mp found
  refine ⟨fun {other life'} found' => ?_, fun {other} held => ?_⟩
  · rw [front.pending_settle]
    have found' : (front.lives.set id turn.life)[other]? = some life' := found'
    by_cases same : other = id
    · subst same
      rw [List.getElem?_set_self bound] at found'
      cases found'
      simpa using turned
    · rw [List.getElem?_set_ne (Ne.symm same)] at found'
      simpa [same] using sound.lives found'
  · rw [front.pending_settle] at held
    change other < (front.lives.set id turn.life).length
    rw [List.length_set]
    by_cases same : other = id
    · rw [same]
      exact bound
    · exact sound.known (by simpa [same] using held)

theorem Front.Sound.mrf (sound : front.Sound wiring) {pc : MrfPc}
    (before : ∀ id, front.mrf ≠ .submit id) (after : ∀ id, pc ≠ .submit id) :
    Front.Sound wiring { front with mrf := pc } := by
  have same : ∀ id, Front.pending { front with mrf := pc } id = front.pending id := by
    intro id
    simp [Front.pending, before id, after id]
  refine ⟨fun found => ?_, fun held => ?_⟩
  · rw [same]
    exact sound.lives found
  · rw [same] at held
    exact sound.known held

theorem Front.Sound.mrfStep (sound : front.Sound wiring) {failed : Entry → Bool}
    (taken : front.mrfStep wiring failed = some next) : next.Sound wiring := by
  unfold Front.mrfStep at taken
  cases here : front.mrf with
  | testStop =>
      rw [here] at taken
      cases taken
      exact sound.mrf (by simp [here]) (by split <;> simp)
  | testQueue =>
      rw [here] at taken
      cases taken
      exact sound.mrf (by simp [here]) (by split <;> simp)
  | waitEvent =>
      rw [here] at taken
      simp only at taken
      split at taken
      · cases taken
        exact sound.mrf (by simp [here]) (by simp)
      · contradiction
  | testEmpty =>
      rw [here] at taken
      cases taken
      exact sound.mrf (by simp [here]) (by split <;> simp)
  | dequeue =>
      rw [here] at taken
      simp only at taken
      split at taken
      · contradiction
      · rename_i id origBios queue
        cases taken
        have same : ∀ other,
            Front.pending { front with origBios, mrf := .submit id } other = front.pending other := by
          intro other
          by_cases equal : id = other
          · subst equal
            simp [Front.pending, queue, here]
          · simp [Front.pending, queue, here, equal]
        refine ⟨fun found => ?_, fun held => ?_⟩
        · rw [same]
          exact sound.lives found
        · rw [same] at held
          exact sound.known held
  | submit id =>
      rw [here] at taken
      obtain ⟨life, found, same⟩ := Option.map_eq_some_iff.mp taken
      subst same
      obtain ⟨bound, _⟩ := List.getElem?_eq_some_iff.mp found
      have before := sound.lives found
      have driver : wiring.table.Pairwise Entry.Apart →
          wiring.pass failed life.bio true = .driver false :=
        fun apart => Wiring.pass_flagged apart before.accepted
      have held : front.pending id = front.origBios.count id + 1 := by simp [Front.pending, here]
      rw [held] at before
      refine ⟨fun {other life'} found' => ?_, fun {other} waits => ?_⟩
      · dsimp only at found'
        by_cases same : other = id
        · subst same
          rw [List.getElem?_set_self bound] at found'
          cases found'
          simpa [Front.pending] using before.hand driver
        · rw [List.getElem?_set_ne (Ne.symm same)] at found'
          have apart : ¬ id = other := fun equal => same equal.symm
          have other := sound.lives found'
          simpa [Front.pending, here, apart] using other
      · dsimp only
        rw [List.length_set]
        apply sound.known
        simp only [Front.pending, reduceCtorEq, if_false] at waits ⊢
        omega
  | exited =>
      rw [here] at taken
      contradiction

/-- A step that does not lose the write. -/
def FrontEvent.Keeps (wiring : Wiring) (front : Front) : FrontEvent → Prop
  | .trace id failing _ => ∀ life, front.lives[id]? = some life →
      ¬ life.pc.Loses wiring.build failing
  | _ => True

theorem Front.Sound.stepped (sound : front.Sound wiring) {event : FrontEvent}
    (keeps : event.Keeps wiring front) (stepped : front.Stepped wiring event next) :
    next.Sound wiring := by
  cases stepped with
  | @start failed bio accepted =>
      obtain ⟨entry, member, here, _⟩ := traceWalk_some accepted
      refine ⟨fun {id life} found => ?_, fun {id} held => ?_⟩
      · change (front.lives ++ [_])[id]? = some life at found
        rcases Nat.lt_trichotomy id front.lives.length with before | last | after
        · rw [List.getElem?_append_left before] at found
          exact sound.lives found
        · have unheld : front.pending id = 0 := by
            by_contra held
            have bound := sound.known held
            omega
          rw [last, List.getElem?_concat_length] at found
          cases found
          change Life.Sound wiring (front.pending id) _
          rw [unheld]
          exact .begin _ ⟨entry, member, here⟩
        · rw [List.getElem?_eq_none (by simp; omega)] at found
          contradiction
      · have bound := sound.known held
        change id < (front.lives ++ [_]).length
        simp only [List.length_append, List.length_singleton]
        omega
  | trace found ran => exact sound.settle found ((sound.lives found).trace (keeps _ found) ran)
  | serve found ran => exact sound.settle found ((sound.lives found).serve ran)
  | complete found ran => exact sound.settle found ((sound.lives found).complete ran)
  | mrf ran => exact sound.mrfStep ran

theorem Front.Sound.step (sound : front.Sound wiring) {event : FrontEvent}
    (keeps : event.Keeps wiring front) (taken : front.step wiring event = some next) :
    next.Sound wiring :=
  sound.stepped keeps (Front.stepped taken)

theorem Front.Sound.fresh : Front.fresh.Sound wiring :=
  ⟨fun found => by simp [Front.fresh] at found, fun held => by simp [Front.pending, Front.fresh] at held⟩

/-- Nothing is left to be done for the write. -/
def Front.Settled (front : Front) (id : Nat) (life : Life) : Prop :=
  (∃ deferred, life.pc = .returned deferred) ∧ life.flight = [] ∧ life.handlers = [] ∧
    id ∉ front.origBios ∧ front.mrf ≠ .submit id

theorem Life.Sound.handed_of_settled (sound : life.Sound wiring (front.pending id))
    (settled : front.Settled id life) : life.handed.length = 1 := by
  obtain ⟨⟨deferred, returned⟩, flight, handlers, unqueued, unheld⟩ := settled
  have none : front.pending id = 0 := by
    unfold Front.pending
    rw [List.count_eq_zero_of_not_mem unqueued, if_neg unheld]
  have counted := sound.counted
  rw [returned, flight, handlers] at counted
  have gone : life.refs = 0 := counted
  have out : life.out = true := by
    unfold Life.out
    rw [returned]
    simp [gone]
  have placed := sound.placed
  rw [none, out, Nat.zero_add] at placed
  exact placed

theorem Life.Sound.driver_of_handed (sound : life.Sound wiring held)
    (apart : wiring.table.Pairwise Entry.Apart) (once : life.handed.length = 1) :
    life.handed = [.driver false] := by
  obtain ⟨handed, same⟩ := List.length_eq_one_iff.mp once
  have clear := sound.clear apart handed (by rw [same]; exact List.mem_singleton_self _)
  rw [same, clear]

theorem Life.Sound.complete_of_handed (sound : life.Sound wiring held)
    (handed : life.handed ≠ []) : life.flight = [] ∧ life.handlers = [] := by
  have placed := sound.placed
  have some : 0 < life.handed.length := List.length_pos_iff.mpr handed
  have out : life.out = true := by
    by_contra kept
    simp only [kept, if_false] at placed
    omega
  by_contra busy
  have more : 0 < life.flight.length + life.handlers.length := by
    by_contra none
    exact busy ⟨List.eq_nil_of_length_eq_zero (by omega), List.eq_nil_of_length_eq_zero (by omega)⟩
  exact (sound.waiting more).1 out

/-- The thread behind `sd_orig_bios` while nobody stops it. -/
structure Front.Served (front : Front) : Prop where
  goes : front.mrfStop = false
  within : front.mrf ≠ .testQueue ∧ front.mrf ≠ .exited
  filled : front.mrf = .dequeue → front.origBios ≠ []

theorem Front.Served.settle (served : front.Served) (id : Nat) (turn : Turn) :
    (front.settle id turn).Served := by
  refine ⟨served.goes, served.within, fun here => ?_⟩
  have before := served.filled here
  unfold Front.settle
  dsimp only
  split
  · simp
  · exact before

theorem Front.Served.step (served : front.Served) {event : FrontEvent}
    (taken : front.step wiring event = some next) : next.Served := by
  cases Front.stepped taken with
  | start accepted => exact ⟨served.goes, served.within, served.filled⟩
  | trace found ran => exact served.settle _ _
  | serve found ran => exact served.settle _ _
  | complete found ran => exact served.settle _ _
  | mrf ran =>
      unfold Front.mrfStep at ran
      cases here : front.mrf with
      | testStop =>
          rw [here] at ran
          cases ran
          refine ⟨served.goes, ?_, ?_⟩ <;> simp [served.goes]
      | testQueue => exact absurd here served.within.1
      | waitEvent =>
          rw [here] at ran
          simp only at ran
          split at ran
          · cases ran
            exact ⟨served.goes, by simp, by simp⟩
          · contradiction
      | testEmpty =>
          rw [here] at ran
          cases ran
          cases queue : front.origBios <;>
            exact ⟨served.goes, by simp, by simp⟩
      | dequeue =>
          rw [here] at ran
          simp only at ran
          split at ran
          · contradiction
          · cases ran
            exact ⟨served.goes, by simp, by simp⟩
      | submit id =>
          rw [here] at ran
          obtain ⟨life, _, same⟩ := Option.map_eq_some_iff.mp ran
          subst same
          exact ⟨served.goes, by simp, by simp⟩
      | exited => exact absurd here served.within.2

/-- Nothing can happen but that another write is traced. -/
def Front.Idle (wiring : Wiring) (front : Front) : Prop :=
  ∀ event, (∀ failed bio, event ≠ .start failed bio) → front.step wiring event = none

/-- Nothing gets stuck on its way. -/
theorem Front.Served.settled_of_idle (served : front.Served) (sound : front.Sound wiring)
    (idle : front.Idle wiring) (found : front.lives[id]? = some life) : front.Settled id life := by
  have traces := idle (.trace id true 0) (by simp)
  have serves := idle (.serve id 0 (.error .eio)) (by simp)
  have completes := idle (.complete id 0) (by simp)
  have mrf : front.mrfStep wiring (fun _ => false) = none := idle (.mrf _) (by simp)
  simp only [Front.step, Front.turn, found, Option.bind_some, Option.map_eq_none_iff] at traces serves completes
  have returned : ∃ deferred, life.pc = .returned deferred := by
    unfold Life.trace at traces
    split at traces <;> first | contradiction | skip
    · simp only [if_true] at traces
      split at traces <;> contradiction
    · exact ⟨_, by assumption⟩
  have flight : life.flight = [] := by
    simp only [Life.serve, Option.map_eq_none_iff, List.getElem?_eq_none_iff] at serves
    exact List.eq_nil_of_length_eq_zero (by omega)
  have handlers : life.handlers = [] := by
    simp only [Life.complete, Option.map_eq_none_iff, List.getElem?_eq_none_iff] at completes
    exact List.eq_nil_of_length_eq_zero (by omega)
  have waits : front.mrf = .waitEvent ∧ front.origBios = [] := by
    unfold Front.mrfStep at mrf
    cases here : front.mrf with
    | waitEvent =>
        rw [here] at mrf
        simp only [served.goes, Bool.false_or] at mrf
        refine ⟨rfl, ?_⟩
        cases queue : front.origBios with
        | nil => rfl
        | cons id rest => simp [queue] at mrf
    | dequeue =>
        have filled := served.filled here
        rw [here] at mrf
        simp only at mrf
        split at mrf
        · rename_i empty
          exact absurd empty filled
        · contradiction
    | submit id =>
        have bound := sound.known (by simp [Front.pending, here] : front.pending id ≠ 0)
        rw [here] at mrf
        simp at mrf
        omega
    | testQueue => exact absurd here served.within.1
    | exited => exact absurd here served.within.2
    | testStop => simp [here] at mrf
    | testEmpty => simp [here] at mrf
  exact ⟨returned, flight, handlers, by simp [waits.2], by simp [waits.1]⟩

/-- A traced write reaches the driver once, with the flag clear and after its clones,
unless it is lost for want of a `tracing_params`. -/
theorem traced_write_handed_once (apart : wiring.table.Pairwise Entry.Apart)
    (reached : Transition.Reaches (Front.step wiring)
      (fun front event => event.Keeps wiring front) .fresh front)
    (found : front.lives[id]? = some life) :
    life.handed.length ≤ 1 ∧ (∀ handed ∈ life.handed, handed = .driver false) ∧
      (life.handed ≠ [] → life.flight = [] ∧ life.handlers = []) ∧
      (front.Settled id life ∨ front.Idle wiring → life.handed = [.driver false]) := by
  have sounds : front.Sound wiring :=
    reached.invariant .fresh fun sound keeps taken => sound.step keeps taken
  have served : front.Served :=
    reached.invariant ⟨rfl, by simp [Front.fresh], by simp [Front.fresh]⟩
      fun served _ taken => served.step taken
  have sound := sounds.lives found
  have placed := sound.placed
  refine ⟨?_, sound.clear apart, sound.complete_of_handed, fun done => ?_⟩
  · split at placed <;> omega
  · have settled : front.Settled id life := by
      rcases done with settled | idle
      · exact settled
      · exact served.settled_of_idle sounds idle found
    exact sound.driver_of_handed apart (sound.handed_of_settled settled)

instance (pc : TracePc) (build : Build) (failing : Bool) : Decidable (pc.Loses build failing) :=
  inferInstanceAs (Decidable (_ ∧ _ ∧ _))

instance (wiring : Wiring) (front : Front) (event : FrontEvent) :
    Decidable (event.Keeps wiring front) := by
  cases event with
  | trace id failing fits =>
      exact inferInstanceAs (Decidable (∀ life ∈ front.lives[id]?,
        ¬ life.pc.Loses wiring.build failing))
  | _ => exact inferInstanceAs (Decidable True)

/-- A device on its own in the table. -/
def Wiring.alone (build : Build) : Wiring := ⟨build, [⟨0, 0, 64, true, false, true⟩], 0⟩

def twoBlocks : OrigBio := ⟨0, 8, 16, true, fun _ => 0⟩

/-- A write with two clones, the second of which is answered first. -/
theorem traced_write_handed_once_two_clones :
    ∃ (front : Front) (life : Life), front.lives[0]? = some life ∧
      front.Settled 0 life ∧ life.handed = [.driver false] := by
  have apart : (Wiring.alone .bdops).table.Pairwise Entry.Apart := List.pairwise_singleton _ _
  have ran : (Transition.run (Transition.checked (Front.step (.alone .bdops))
      fun front event => event.Keeps (.alone .bdops) front) .fresh
      (.start (fun _ => false) twoBlocks :: List.replicate 11 (.trace 0 false 1) ++
        [.serve 0 1 (.ok fun _ => 0), .serve 0 0 (.ok fun _ => 0)] ++
        List.replicate 3 (.complete 0 0) ++ List.replicate 3 (.complete 0 0) ++
        List.replicate 5 (.mrf fun _ => false))).any
      (fun front => front.lives[0]?.any (fun life => life.pc = .returned true ∧
        life.flight = [] ∧ life.handlers.isEmpty) ∧ 0 ∉ front.origBios ∧ front.mrf ≠ .submit 0) =
      true := by
    decide +kernel
  obtain ⟨front, reached, ended⟩ := Transition.Reaches.of_evaluated ran
  obtain ⟨alive, unqueued, unheld⟩ := of_decide_eq_true ended
  obtain ⟨life, found, done⟩ := (Option.any_eq_true _ _).mp alive
  obtain ⟨returned, flight, handlers⟩ := of_decide_eq_true done
  have settled : front.Settled 0 life :=
    ⟨⟨true, returned⟩, flight, List.isEmpty_iff.mp handlers, unqueued, unheld⟩
  exact ⟨front, life, found, settled,
    (traced_write_handed_once apart reached found).2.2.2 (.inl settled)⟩

/-- Without memory for its `tracing_params` a write is never submitted. -/
theorem traced_write_handed_once_lost :
    ∃ (front : Front) (life : Life), (Wiring.alone .bdops).table.Pairwise Entry.Apart ∧
      Transition.Reachable (Front.step (.alone .bdops)) .fresh front ∧
      front.lives[0]? = some life ∧ front.Settled 0 life ∧ life.handed = [] := by
  have apart : (Wiring.alone .bdops).table.Pairwise Entry.Apart := List.pairwise_singleton _ _
  have ran : (Transition.run (Transition.checked (Front.step (.alone .bdops)) fun _ _ => True) .fresh
      [.start (fun _ => false) twoBlocks, .trace 0 false 0, .trace 0 true 0]).any
      (fun front => front.lives[0]?.any (fun life => life.pc = .returned false ∧
        life.flight = [] ∧ life.handlers.isEmpty ∧ life.handed = []) ∧ 0 ∉ front.origBios ∧
        front.mrf ≠ .submit 0) = true := by
    decide +kernel
  obtain ⟨front, reached, ended⟩ := Transition.Reaches.of_evaluated ran
  obtain ⟨alive, unqueued, unheld⟩ := of_decide_eq_true ended
  obtain ⟨life, found, done⟩ := (Option.any_eq_true _ _).mp alive
  obtain ⟨returned, flight, handlers, lost⟩ := of_decide_eq_true done
  exact ⟨front, life, apart, reached, found,
    ⟨⟨false, returned⟩, flight, List.isEmpty_iff.mp handlers, unqueued, unheld⟩, lost⟩

end Moocbt.Device
