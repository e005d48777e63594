import Mathlib.Logic.Basic

/-! Programs over a state that either return a value or stop early, and the
weakest preconditions that describe them.  The state a stopped program leaves is
kept: cleanup code and crash arguments are about exactly that state. -/

/-- A program over the state `σ` that returns an `α` or stops with an `ε`. -/
def Program (ε σ α : Type) : Type := σ → Except ε α × σ

namespace Program

variable {ε σ α β : Type}

instance : Monad (Program ε σ) where
  pure value := fun state => (.ok value, state)
  bind program next := fun state =>
    match program state with
    | (.ok value, middle) => next value middle
    | (.error reason, middle) => (.error reason, middle)

def stop (reason : ε) : Program ε σ α := fun state => (.error reason, state)

def read : Program ε σ σ := fun state => (.ok state, state)

def update (change : σ → σ) : Program ε σ Unit := fun state => (.ok (), change state)

/-- Run `program` only when the condition holds. -/
def when (condition : Bool) (program : Program ε σ Unit) : Program ε σ Unit :=
  if condition then program else pure ()

/-- Continue with `handler` in the state a stopped program leaves. -/
def handle (program : Program ε σ α) (handler : ε → Program ε σ α) : Program ε σ α :=
  fun state =>
    match program state with
    | (.ok value, middle) => (.ok value, middle)
    | (.error reason, middle) => handler reason middle

theorem bind_assoc {γ : Type} (program : Program ε σ α) (next : α → Program ε σ β)
    (last : β → Program ε σ γ) :
    (program >>= next) >>= last = program >>= fun value => next value >>= last := by
  funext state
  simp only [bind]
  rcases program state with ⟨_ | _, _⟩ <;> rfl

/-- `program`, started in `state`, either returns and satisfies `done` or stops
and satisfies `stopped`. -/
def wp (program : Program ε σ α) (done : α → σ → Prop) (stopped : ε → σ → Prop)
    (state : σ) : Prop :=
  match program state with
  | (.ok value, after) => done value after
  | (.error reason, after) => stopped reason after

variable {done : α → σ → Prop} {stopped : ε → σ → Prop} {state : σ}

@[simp] theorem wp_pure (value : α) :
    wp (pure value : Program ε σ α) done stopped state ↔ done value state := Iff.rfl

@[simp] theorem wp_stop (reason : ε) :
    wp (stop reason : Program ε σ α) done stopped state ↔ stopped reason state := Iff.rfl

@[simp] theorem wp_read {done : σ → σ → Prop} :
    wp (read : Program ε σ σ) done stopped state ↔ done state state := Iff.rfl

@[simp] theorem wp_update {done : Unit → σ → Prop} (change : σ → σ) :
    wp (update change : Program ε σ Unit) done stopped state ↔ done () (change state) := Iff.rfl

@[simp] theorem wp_bind {done : β → σ → Prop} (program : Program ε σ α)
    (next : α → Program ε σ β) :
    wp (program >>= next) done stopped state ↔
      wp program (fun value middle => wp (next value) done stopped middle) stopped state := by
  change (match (match program state with
      | (.ok value, middle) => next value middle
      | (.error reason, middle) => (.error reason, middle)) with
    | (.ok value, after) => done value after
    | (.error reason, after) => stopped reason after) ↔ _
  unfold wp
  rcases program state with ⟨_ | _, _⟩ <;> rfl

@[simp] theorem wp_handle (program : Program ε σ α) (handler : ε → Program ε σ α) :
    wp (handle program handler) done stopped state ↔
      wp program done (fun reason middle => wp (handler reason) done stopped middle) state := by
  unfold wp handle
  rcases program state with ⟨_ | _, _⟩ <;> rfl

@[simp] theorem wp_ite (condition : Prop) [Decidable condition]
    (left right : Program ε σ α) :
    wp (if condition then left else right) done stopped state ↔
      if condition then wp left done stopped state else wp right done stopped state := by
  split <;> rfl

@[simp] theorem wp_when {done : Unit → σ → Prop} (condition : Bool)
    (program : Program ε σ Unit) :
    wp (when condition program) done stopped state ↔
      if condition then wp program done stopped state else done () state := by
  unfold when
  split <;> rfl

/-- The consequence rule. -/
theorem wp_mono {program : Program ε σ α} {done' : α → σ → Prop} {stopped' : ε → σ → Prop}
    (holds : wp program done stopped state)
    (onDone : ∀ value after, done value after → done' value after)
    (onStop : ∀ reason after, stopped reason after → stopped' reason after) :
    wp program done' stopped' state := by
  unfold wp at *
  rcases ran : program state with ⟨_ | value, after⟩ <;> rw [ran] at holds
  · exact onStop _ _ holds
  · exact onDone _ _ holds

/-- Two descriptions of one program hold together. -/
theorem wp_and {program : Program ε σ α} {done' : α → σ → Prop} {stopped' : ε → σ → Prop}
    (left : wp program done stopped state) (right : wp program done' stopped' state) :
    wp program (fun value after => done value after ∧ done' value after)
      (fun reason after => stopped reason after ∧ stopped' reason after) state := by
  unfold wp at *
  rcases ran : program state with ⟨_ | value, after⟩ <;> rw [ran] at left right
  · exact ⟨left, right⟩
  · exact ⟨left, right⟩

theorem wp_true (program : Program ε σ α) (state : σ) :
    wp program (fun _ _ => True) (fun _ _ => True) state := by
  unfold wp
  split <;> trivial

/-- What a run gives describes it. -/
theorem wp_self (program : Program ε σ α) (state : σ) :
    wp program (fun value after => program state = (.ok value, after))
      (fun reason after => program state = (.error reason, after)) state := by
  unfold wp
  rcases program state with ⟨_ | _, _⟩ <;> rfl

theorem wp_done {program : Program ε σ α} {value : α} {after : σ}
    (holds : wp program done stopped state) (ran : program state = (.ok value, after)) :
    done value after := by
  unfold wp at holds
  rw [ran] at holds
  exact holds

/-- A run that returns, as a description. -/
theorem wp_iff_done {program : Program ε σ α} {value : α} {after : σ} :
    wp program (fun value' after' => value' = value ∧ after' = after) (fun _ _ => False) state ↔
      program state = (.ok value, after) := by
  unfold wp
  rcases program state with ⟨_ | _, _⟩ <;> simp

theorem wp_stopped {program : Program ε σ α} {reason : ε} {after : σ}
    (holds : wp program done stopped state) (ran : program state = (.error reason, after)) :
    stopped reason after := by
  unfold wp at holds
  rw [ran] at holds
  exact holds

/-- What holds of the state whichever way the program ends. -/
theorem wp_always {program : Program ε σ α} {Inv : σ → Prop}
    (holds : wp program (fun _ => Inv) (fun _ => Inv) state) : Inv (program state).2 := by
  unfold wp at holds
  rcases ran : program state with ⟨_ | value, after⟩ <;> rw [ran] at holds <;> exact holds

/-- However the program ends, a view of the state is as it was. -/
def Keeps {γ : Type} (view : σ → γ) (program : Program ε σ α) : Prop :=
  ∀ state, view (program state).2 = view state

namespace Keeps

variable {γ : Type} {view : σ → γ}

theorem pure (value : α) : Keeps view (Pure.pure value : Program ε σ α) := fun _ => rfl

theorem stop (reason : ε) : Keeps view (Program.stop reason : Program ε σ α) := fun _ => rfl

theorem read : Keeps view (Program.read : Program ε σ σ) := fun _ => rfl

theorem bind {program : Program ε σ α} {next : α → Program ε σ β} (first : Keeps view program)
    (second : ∀ value, Keeps view (next value)) : Keeps view (program >>= next) := by
  intro state
  have before := first state
  simp only [Bind.bind]
  rcases ran : program state with ⟨_ | value, middle⟩ <;> rw [ran] at before
  · exact before
  · exact (second value middle).trans before

theorem handle {program : Program ε σ α} {handler : ε → Program ε σ α}
    (inner : Keeps view program) (after : ∀ reason, Keeps view (handler reason)) :
    Keeps view (Program.handle program handler) := by
  intro state
  have before := inner state
  unfold Program.handle
  rcases ran : program state with ⟨reason | _, middle⟩ <;> rw [ran] at before
  · exact (after reason middle).trans before
  · exact before

theorem ite (condition : Prop) [Decidable condition] {left right : Program ε σ α}
    (first : Keeps view left) (second : Keeps view right) :
    Keeps view (if condition then left else right) := by
  split
  · exact first
  · exact second

theorem wp {program : Program ε σ α} (keeps : Keeps view program) (state : σ) :
    Program.wp program (fun _ after => view after = view state)
      (fun _ after => view after = view state) state := by
  have same := keeps state
  unfold Program.wp
  rcases ran : program state with ⟨_ | value, after⟩ <;> rw [ran] at same <;> exact same

end Keeps

/-- However the program ends, what held before holds. -/
def Maintains (inv : σ → Prop) (program : Program ε σ α) : Prop :=
  ∀ state, inv state → wp program (fun _ => inv) (fun _ => inv) state

namespace Maintains

variable {inv : σ → Prop}

theorem pure (value : α) : Maintains inv (Pure.pure value : Program ε σ α) := fun _ => id

theorem stop (reason : ε) : Maintains inv (Program.stop reason : Program ε σ α) := fun _ => id

theorem read : Maintains inv (Program.read : Program ε σ σ) := fun _ => id

theorem update {change : σ → σ} (kept : ∀ state, inv state → inv (change state)) :
    Maintains inv (Program.update change : Program ε σ Unit) := kept

theorem bind {program : Program ε σ α} {next : α → Program ε σ β}
    (first : Maintains inv program) (second : ∀ value, Maintains inv (next value)) :
    Maintains inv (program >>= next) := by
  intro state holds
  rw [wp_bind]
  apply wp_mono (first state holds)
  · exact fun value middle kept => second value middle kept
  · exact fun _ _ => id

theorem handle {program : Program ε σ α} {handler : ε → Program ε σ α}
    (inner : Maintains inv program) (after : ∀ reason, Maintains inv (handler reason)) :
    Maintains inv (Program.handle program handler) := by
  intro state holds
  rw [wp_handle]
  apply wp_mono (inner state holds)
  · exact fun _ _ => id
  · exact fun reason middle kept => after reason middle kept

theorem ite {condition : Prop} [Decidable condition] {left right : Program ε σ α}
    (first : Maintains inv left) (second : Maintains inv right) :
    Maintains inv (if condition then left else right) := by
  split
  · exact first
  · exact second

theorem when {condition : Bool} {program : Program ε σ Unit} (inner : Maintains inv program) :
    Maintains inv (Program.when condition program) :=
  ite inner (pure ())

/-- The rest of a program, after a part that keeps what held. -/
theorem wp_bind {program : Program ε σ α} {next : α → Program ε σ β} {done : β → σ → Prop}
    {stopped : ε → σ → Prop} {state : σ} (first : Maintains inv program) (holds : inv state)
    (second : ∀ value middle, inv middle → wp (next value) done stopped middle)
    (stops : ∀ reason after, inv after → stopped reason after) :
    wp (program >>= next) done stopped state := by
  rw [Program.wp_bind]
  exact wp_mono (first state holds) second stops

end Maintains

end Program
