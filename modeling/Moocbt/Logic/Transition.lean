import Mathlib.Logic.Basic

namespace Transition

/-! Executable transition systems: a step function picks at most one successor
for each event, so that every source of nondeterminism is in the event. -/

variable {σ ε : Type}

/-- The state after a list of events, if each of them is enabled in turn. -/
def run (step : σ → ε → Option σ) : σ → List ε → Option σ
  | state, [] => some state
  | state, event :: rest =>
      match step state event with
      | none => none
      | some next => run step next rest

/-- `target` is reached from `start` by steps each of which meets `ok` in the
state it is taken from. -/
inductive Reaches (step : σ → ε → Option σ) (ok : σ → ε → Prop) (start : σ) : σ → Prop
  | refl : Reaches step ok start start
  | next {middle target : σ} {event : ε} :
      Reaches step ok start middle → ok middle event →
      step middle event = some target → Reaches step ok start target

/-- Reachability without a condition on the steps. -/
abbrev Reachable (step : σ → ε → Option σ) : σ → σ → Prop :=
  Reaches step fun _ _ => True

variable {step : σ → ε → Option σ} {ok : σ → ε → Prop}

theorem Reaches.invariant {start target : σ} {Inv : σ → Prop}
    (initial : Inv start)
    (preserved : ∀ {before event after}, Inv before → ok before event →
      step before event = some after → Inv after)
    (reached : Reaches step ok start target) : Inv target := by
  induction reached with
  | refl => exact initial
  | next _ allowed taken inv => exact preserved inv allowed taken

theorem Reaches.weaken {start target : σ} {ok' : σ → ε → Prop}
    (weaker : ∀ state event, ok state event → ok' state event)
    (reached : Reaches step ok start target) : Reaches step ok' start target := by
  induction reached with
  | refl => exact .refl
  | next _ allowed taken ih => exact .next ih (weaker _ _ allowed) taken

theorem Reaches.trans {start middle target : σ}
    (left : Reaches step ok start middle) (right : Reaches step ok middle target) :
    Reaches step ok start target := by
  induction right with
  | refl => exact left
  | next _ allowed taken ih => exact .next ih allowed taken

/-- A run that can be evaluated is a run of the relation. -/
theorem Reaches.of_run {start target : σ} {events : List ε}
    (ran : run step start events = some target) : Reachable step start target := by
  induction events generalizing start with
  | nil =>
      cases ran
      exact .refl
  | cons event rest ih =>
      unfold run at ran
      cases first : step start event with
      | none => simp [first] at ran
      | some next =>
          rw [first] at ran
          exact (Reaches.next .refl trivial first).trans (ih ran)

/-- A step that is taken only where `ok` holds. -/
def checked (step : σ → ε → Option σ) (ok : σ → ε → Prop) [∀ state event, Decidable (ok state event)]
    (state : σ) (event : ε) : Option σ :=
  if ok state event then step state event else none

theorem Reaches.of_checked [∀ state event, Decidable (ok state event)] {start target : σ}
    (reached : Reachable (checked step ok) start target) : Reaches step ok start target := by
  induction reached with
  | refl => exact .refl
  | next _ _ taken ih =>
      unfold checked at taken
      split at taken
      · rename_i allowed
        exact .next ih allowed taken
      · contradiction

/-- The end of a run that can be evaluated, with its condition checked on the way. -/
theorem Reaches.of_evaluated [∀ state event, Decidable (ok state event)] {start : σ}
    {events : List ε} {goal : σ → Bool}
    (ran : (run (checked step ok) start events).any goal = true) :
    ∃ target, Reaches step ok start target ∧ goal target = true := by
  obtain ⟨target, found, holds⟩ := (Option.any_eq_true _ _).mp ran
  exact ⟨target, .of_checked (.of_run found), holds⟩

end Transition
