import Moocbt.Device.Teardown

/-! `sd_submitted_cnt` and `sd_received_cnt`: what their difference counts, and what becomes
of the wait for the read clones once the base device failed a read. -/

namespace Moocbt.Device

open Cow Program Transition

/-- A handler that counts its clone in a later step. -/
def HandlerPc.counts : HandlerPc → Bool
  | .queue _ | .count => true
  | .put | .fail _ => false

/-- The clones of a write that the first counter has and the second will have. -/
def Life.owed (life : Life) : Nat :=
  (match life.pc with
    | .submit _ _ _ => 1
    | _ => 0) + life.flight.length + life.handlers.countP HandlerPc.counts

/-- The clones that were submitted and whose handler has not finished. -/
def Life.unfinished (life : Life) : Nat := life.flight.length + life.handlers.length

def Front.owed (front : Front) : Nat := (front.lives.map Life.owed).sum

def Front.unfinished (front : Front) : Nat := (front.lives.map Life.unfinished).sum

def TracePc.isSubmit : TracePc → Bool
  | .submit _ _ _ => true
  | _ => false

/-- No handler runs, and no call of `snap_trace_bio` is between the counter and the
submission of a clone. -/
def Front.Quiescent (front : Front) : Prop :=
  ∀ life ∈ front.lives, life.handlers = [] ∧ life.pc.isSubmit = false

instance (front : Front) : Decidable front.Quiescent :=
  inferInstanceAs (Decidable (∀ life ∈ front.lives, _))

/-- `__tracer_wait_for_read_clones` is passed. -/
def Front.WaitPasses (wiring : Wiring) (front : Front) : Prop :=
  Teardown.destroy wiring ⟨front, .waiting⟩ = some ⟨{ front with mrfStop := true }, .stopping⟩

/-- The base device answers a read clone with an error. -/
def FrontEvent.readFails : FrontEvent → Bool
  | .serve _ _ (.error _) => true
  | _ => false

variable {wiring : Wiring} {life : Life} {turn : Turn} {front next : Front} {event : FrontEvent}

theorem Life.trace_handlers {failing : Bool} {fits : Nat}
    (taken : life.trace wiring failing fits = some turn) :
    turn.life.handlers = life.handlers := by
  cases Life.traced taken <;> rfl

/-- A clone whose read failed has a weight until its handler is done. -/
theorem Life.owed_weight (life : Life) :
    life.owed + uncounted life.handlers = life.weight + life.handlers.countP HandlerPc.counts := by
  unfold Life.owed Life.weight
  cases life.pc with
  | submit clone sector pages =>
      simp only
      omega
  | _ =>
      simp only
      omega

theorem Life.trace_owed {failing : Bool} {fits : Nat}
    (taken : life.trace wiring failing fits = some turn) :
    turn.life.owed + turn.received = life.owed + turn.submitted := by
  have weight := Life.trace_weight taken
  have handlers := Life.trace_handlers taken
  have before := life.owed_weight
  have after := turn.life.owed_weight
  rw [handlers] at after
  omega

/-- A clone whose read failed is never counted by its handler. -/
theorem Life.serve_owed {index : Nat} {result : Except Errno (Nat → Nat)} (id : Nat)
    (taken : life.serve index result = some turn) :
    turn.life.owed + turn.received + (if (FrontEvent.serve id index result).readFails then 1 else 0) =
      life.owed + turn.submitted := by
  obtain ⟨clone, found, same⟩ := Option.map_eq_some_iff.mp taken
  subst same
  obtain ⟨bound, _⟩ := List.getElem?_eq_some_iff.mp found
  have shorter : (life.flight.eraseIdx index).length + 1 = life.flight.length := by
    rw [List.length_eraseIdx_of_lt bound]
    omega
  cases result with
  | ok data =>
      simp only [Life.owed, Turn.received, Turn.submitted, FrontEvent.readFails,
        List.countP_append, List.countP_singleton, HandlerPc.counts, if_true,
        Bool.false_eq_true, if_false]
      omega
  | error error =>
      simp only [Life.owed, Turn.received, Turn.submitted, FrontEvent.readFails,
        List.countP_append, List.countP_singleton, HandlerPc.counts, if_true,
        Bool.false_eq_true, if_false]
      omega

theorem Life.complete_owed {index : Nat} (taken : life.complete index = some turn) :
    turn.life.owed + turn.received = life.owed + turn.submitted := by
  obtain ⟨handler, found, same⟩ := Option.map_eq_some_iff.mp taken
  subst same
  cases handler with
  | queue bio =>
      have kept := countP_set (p := HandlerPc.counts) .count found
      simp only [HandlerPc.counts, if_true] at kept
      simp only [Life.owed, Turn.received, Turn.submitted]
      omega
  | count =>
      have counted := countP_set (p := HandlerPc.counts) .put found
      simp only [HandlerPc.counts, if_true, Bool.false_eq_true, if_false] at counted
      simp only [Life.owed, Turn.received, Turn.submitted]
      omega
  | fail error =>
      have kept := countP_set (p := HandlerPc.counts) .put found
      simp only [HandlerPc.counts, Bool.false_eq_true, if_false] at kept
      simp only [Life.owed, Turn.received, Turn.submitted]
      omega
  | put =>
      have kept := countP_eraseIdx (p := HandlerPc.counts) found
      simp only [HandlerPc.counts, Bool.false_eq_true, if_false] at kept
      simp only [Life.owed, Life.tpPut, Turn.received, Turn.submitted]
      omega

theorem Front.settle_owed {id : Nat} (failed : Nat) (found : front.lives[id]? = some life)
    (changes : turn.life.owed + turn.received + failed = life.owed + turn.submitted) :
    (front.settle id turn).owed + (front.settle id turn).received + failed + front.submitted =
      front.owed + front.received + (front.settle id turn).submitted := by
  have sum := sum_map_set Life.owed turn.life found
  unfold Front.owed
  simp only [Front.settle]
  omega

/-- A step keeps the counters in balance with the clones, but for a failed read. -/
theorem Front.Stepped.owed (stepped : front.Stepped wiring event next) :
    next.owed + next.received + (if event.readFails then 1 else 0) + front.submitted =
      front.owed + front.received + next.submitted := by
  cases stepped with
  | @start failed bio accepted =>
      have none : (Life.begin bio wiring.snapshot).owed = 0 := by
        unfold Life.begin
        split <;> rfl
      simp only [Front.owed, List.map_append, List.map_cons, List.map_nil, List.sum_append,
        List.sum_cons, List.sum_nil, none, FrontEvent.readFails, Bool.false_eq_true, if_false]
      omega
  | trace found ran => exact settle_owed 0 found (Life.trace_owed ran)
  | @serve id index result life turn found ran =>
      exact settle_owed _ found (Life.serve_owed id ran)
  | complete found ran => exact settle_owed 0 found (Life.complete_owed ran)
  | mrf ran =>
      obtain ⟨submitted, received, _⟩ := front.mrfStep_counts ran
      have owed : next.owed = front.owed := Front.mrfStep_sum Life.owed (fun _ _ => rfl) ran
      simp only [FrontEvent.readFails, Bool.false_eq_true, if_false]
      omega

/-- Over a run the counters drift apart by the number of reads that failed. -/
theorem Front.run_owed {events : List FrontEvent}
    (ran : run (step wiring) front events = some next) :
    next.owed + next.received + events.countP FrontEvent.readFails + front.submitted =
      front.owed + front.received + next.submitted := by
  induction events generalizing front with
  | nil =>
      cases ran
      simp only [List.countP_nil]
      omega
  | cons event rest ih =>
      unfold run at ran
      cases first : step wiring front event with
      | none => simp [first] at ran
      | some middle =>
          rw [first] at ran
          have here := (stepped first).owed
          have later := ih ran
          rw [List.countP_cons]
          omega

theorem Life.unfinished_of_quiet (ended : life.handlers = [])
    (elsewhere : life.pc.isSubmit = false) : life.owed = life.unfinished := by
  unfold Life.owed Life.unfinished
  cases here : life.pc with
  | submit clone sector pages =>
      rw [here] at elsewhere
      contradiction
  | _ => simp [ended]

theorem Front.Quiescent.owed (quiescent : front.Quiescent) : front.owed = front.unfinished := by
  unfold Front.owed Front.unfinished
  congr 1
  refine List.map_congr_left fun life member => ?_
  obtain ⟨ended, elsewhere⟩ := quiescent life member
  exact life.unfinished_of_quiet ended elsewhere

theorem Front.waitPasses_iff :
    front.WaitPasses wiring ↔ (wiring.build = .hook → front.submitted = front.received) := by
  unfold WaitPasses Teardown.destroy
  by_cases differ : wiring.build = .hook ∧ front.submitted ≠ front.received
  · simp [differ]
  · simp only [differ, if_false, true_iff]
    intro hook
    by_contra unequal
    exact differ ⟨hook, unequal⟩

/-- What the counters say of the clones in flight. -/
structure Front.CountsClones (wiring : Wiring) (front : Front) : Prop where
  difference : (front.submitted : Int) - front.received = front.unfinished
  passes : front.unfinished = 0 → front.WaitPasses wiring

/-- In every quiescent state of a run the counters count the clones in flight exactly when
no read of the run has failed. -/
theorem clones_counted_iff {events : List FrontEvent}
    (ran : run (Front.step wiring) .fresh events = some front) (quiescent : front.Quiescent) :
    front.CountsClones wiring ↔ ∀ event ∈ events, event.readFails = false := by
  have drift := Front.run_owed ran
  rw [quiescent.owed] at drift
  have fresh : Front.fresh.owed + Front.fresh.received = Front.fresh.submitted := rfl
  constructor
  · intro counts event member
    have exact := counts.difference
    have none : events.countP FrontEvent.readFails = 0 := by omega
    simpa using List.countP_eq_zero.mp none event member
  · intro served
    have none : events.countP FrontEvent.readFails = 0 :=
      List.countP_eq_zero.mpr fun event member => by simp [served event member]
    refine ⟨by omega, fun ended => Front.waitPasses_iff.mpr fun _ => ?_⟩
    omega

/-- After a failed read no state of the device lets the wait for the clones end. -/
theorem failed_read_never_counted {events : List FrontEvent}
    (ran : run (Front.step wiring) .fresh events = some front)
    (failed : ∃ event ∈ events, event.readFails = true) (hook : wiring.build = .hook) :
    ¬ front.WaitPasses wiring := by
  have drift := Front.run_owed ran
  have fresh : Front.fresh.owed + Front.fresh.received = Front.fresh.submitted := rfl
  have some : 0 < events.countP FrontEvent.readFails := List.countP_pos_iff.mpr failed
  intro passes
  have equal := Front.waitPasses_iff.mp passes hook
  omega

/-- A write of two blocks, traced with one clone of two pages, that the base device answers. -/
def answeredClone (result : Except Errno (Nat → Nat)) : List FrontEvent :=
  .start (fun _ => false) twoBlocks :: List.replicate 7 (.trace 0 false 2) ++
    [.serve 0 0 result, .complete 0 0, .complete 0 0]

theorem clones_counted_iff_answered :
    ∃ front : Front, front.Quiescent ∧ front.submitted = 1 ∧ front.CountsClones (.alone .hook) := by
  have ran : (run (Front.step (.alone .hook)) .fresh
      (answeredClone (.ok fun _ => 0) ++ [.complete 0 0])).any
      (fun front => front.Quiescent ∧ front.submitted = 1) = true := by
    decide +kernel
  obtain ⟨front, reached, ended⟩ := (Option.any_eq_true _ _).mp ran
  obtain ⟨quiescent, one⟩ := of_decide_eq_true ended
  exact ⟨front, quiescent, one, (clones_counted_iff reached quiescent).mpr (by decide)⟩

/-- The one read of a device fails: no clone is in flight, and the counters differ. -/
theorem clones_counted_read_error :
    ∃ front, run (Front.step (.alone .hook)) .fresh (answeredClone (.error .eio)) = some front ∧
      front.Quiescent ∧ front.unfinished = 0 ∧ front.submitted = 1 ∧ front.received = 0 ∧
      ¬ front.WaitPasses (.alone .hook) := by
  have ran : (run (Front.step (.alone .hook)) .fresh (answeredClone (.error .eio))).any
      (fun front => front.Quiescent ∧ front.unfinished = 0 ∧ front.submitted = 1 ∧
        front.received = 0) = true := by
    decide +kernel
  obtain ⟨front, reached, ended⟩ := (Option.any_eq_true _ _).mp ran
  obtain ⟨quiescent, unfinished, submitted, received⟩ := of_decide_eq_true ended
  refine ⟨front, reached, quiescent, unfinished, submitted, received, fun passes => ?_⟩
  have equal := Front.waitPasses_iff.mp passes rfl
  omega

end Moocbt.Device
