import Mathlib.Logic.Function.Basic
import Mathlib.Logic.Relation
import Mathlib.Order.Basic

namespace Locks

/-! Threads that take and drop locks: each runs a list of operations, and what they share
besides the locks is a memory. -/

variable {Thread Lock Act Mem : Type}

inductive Op (Lock Act : Type) where
  | lock (lock : Lock)
  | unlock (lock : Lock)
  | act (act : Act)
  deriving DecidableEq, Repr

structure State (Thread Lock Act Mem : Type) where
  owner : Lock → Option Thread
  rest : Thread → List (Op Lock Act)
  mem : Mem

namespace State

section step

variable [DecidableEq Thread] [DecidableEq Lock]

/-- A thread takes its next operation; it waits while somebody has the lock. -/
def move (effect : Act → Mem → Mem) (state : State Thread Lock Act Mem) (thread : Thread) :
    Option (State Thread Lock Act Mem) :=
  match state.rest thread with
  | [] => none
  | .lock lock :: rest =>
      if state.owner lock = none then
        some { state with
          owner := Function.update state.owner lock (some thread)
          rest := Function.update state.rest thread rest }
      else none
  | .unlock lock :: rest =>
      some { state with
        owner := Function.update state.owner lock none
        rest := Function.update state.rest thread rest }
  | .act act :: rest =>
      some { state with rest := Function.update state.rest thread rest, mem := effect act state.mem }

/-- A thread that does nothing begins a call. -/
def call (state : State Thread Lock Act Mem) (thread : Thread) (ops : List (Op Lock Act)) :
    Option (State Thread Lock Act Mem) :=
  if (state.rest thread).isEmpty then
    some { state with rest := Function.update state.rest thread ops }
  else none

/-- What a step of a thread is. -/
inductive Moved (effect : Act → Mem → Mem) (state : State Thread Lock Act Mem) (thread : Thread) :
    State Thread Lock Act Mem → Prop
  | lock {lock : Lock} {rest : List (Op Lock Act)} : state.rest thread = .lock lock :: rest →
      state.owner lock = none →
      Moved effect state thread { state with
        owner := Function.update state.owner lock (some thread)
        rest := Function.update state.rest thread rest }
  | unlock {lock : Lock} {rest : List (Op Lock Act)} : state.rest thread = .unlock lock :: rest →
      Moved effect state thread { state with
        owner := Function.update state.owner lock none
        rest := Function.update state.rest thread rest }
  | act {act : Act} {rest : List (Op Lock Act)} : state.rest thread = .act act :: rest →
      Moved effect state thread { state with
        rest := Function.update state.rest thread rest, mem := effect act state.mem }

variable {effect : Act → Mem → Mem} {state next : State Thread Lock Act Mem} {thread : Thread}

theorem moved (taken : state.move effect thread = some next) : Moved effect state thread next := by
  unfold move at taken
  split at taken
  · contradiction
  · rename_i here
    split at taken
    · rename_i free
      cases taken
      exact .lock here free
    · contradiction
  · rename_i here
    cases taken
    exact .unlock here
  · rename_i here
    cases taken
    exact .act here

omit [DecidableEq Lock] in
theorem called {ops : List (Op Lock Act)} (taken : state.call thread ops = some next) :
    state.rest thread = [] ∧ next = { state with rest := Function.update state.rest thread ops } := by
  unfold call at taken
  split at taken
  · rename_i idle
    cases taken
    exact ⟨List.isEmpty_iff.mp idle, rfl⟩
  · contradiction

end step

/-- A thread is at the point of taking a lock. -/
def Waits (state : State Thread Lock Act Mem) (thread : Thread) (lock : Lock) : Prop :=
  (state.rest thread).head? = some (.lock lock)

/-- A thread holds one lock and waits for another, which a thread has. -/
def Crosses (state : State Thread Lock Act Mem) (thread other : Thread) : Prop :=
  ∃ held wanted, held ≠ wanted ∧ state.owner held = some thread ∧ state.Waits thread wanted ∧
    state.owner wanted = some other

/-- Threads that wait for each other in a cycle. -/
def Deadlocked (state : State Thread Lock Act Mem) : Prop :=
  ∃ thread, Relation.TransGen state.Crosses thread thread

/-- Locks that are only waited for upwards: there is no cycle. -/
theorem not_deadlocked {Rank : Type} [Preorder Rank] {state : State Thread Lock Act Mem}
    (rank : Lock → Rank)
    (ordered : ∀ {thread other}, state.Crosses thread other → ∀ {held wanted},
      state.owner held = some thread → state.Waits thread wanted → rank held < rank wanted) :
    ¬ state.Deadlocked := by
  intro deadlocked
  obtain ⟨thread, cycle⟩ := deadlocked
  have climbs : ∀ {last}, Relation.TransGen state.Crosses thread last →
      ∃ top, state.owner top = some last ∧
        ∀ held, state.owner held = some thread → rank held < rank top := by
    intro last path
    induction path with
    | single edge =>
        obtain ⟨held, wanted, _, owned, waits, taken⟩ := id edge
        exact ⟨wanted, taken, fun _ owned => ordered edge owned waits⟩
    | tail _ edge ih =>
        obtain ⟨top, atop, above⟩ := ih
        obtain ⟨held, wanted, _, owned, waits, taken⟩ := id edge
        exact ⟨wanted, taken, fun lock owned => (above lock owned).trans (ordered edge atop waits)⟩
  obtain ⟨top, atop, above⟩ := climbs cycle
  exact (above top atop).false

end State

/-! A lock that every call drops again is held by the thread whose operations still have to
drop it. -/

section bracketed

variable [DecidableEq Thread] [DecidableEq Lock]

def bracketed (lock : Lock) : Bool → List (Op Lock Act) → Bool
  | held, [] => !held
  | held, .lock other :: rest =>
      if other = lock then !held && bracketed lock true rest else bracketed lock held rest
  | held, .unlock other :: rest =>
      if other = lock then held && bracketed lock false rest else bracketed lock held rest
  | held, .act _ :: rest => bracketed lock held rest

def State.Bracketed (lock : Lock) (state : State Thread Lock Act Mem) : Prop :=
  ∀ thread, bracketed lock (state.owner lock = some thread) (state.rest thread) = true

variable {effect : Act → Mem → Mem} {state next : State Thread Lock Act Mem} {thread : Thread}
  {lock : Lock}

theorem State.Bracketed.not_waits (inv : state.Bracketed lock)
    (held : state.owner lock = some thread) : ¬ state.Waits thread lock := by
  intro waits
  have here := inv thread
  obtain ⟨rest, same⟩ := List.head?_eq_some_iff.mp waits
  rw [same] at here
  simp [bracketed, held] at here

theorem State.Bracketed.busy (inv : state.Bracketed lock) (held : state.owner lock = some thread) :
    state.rest thread ≠ [] := by
  intro idle
  have here := inv thread
  rw [idle] at here
  simp [bracketed, held] at here

theorem State.Bracketed.called {ops : List (Op Lock Act)} (inv : state.Bracketed lock)
    (drops : bracketed lock false ops = true) (taken : state.call thread ops = some next) :
    next.Bracketed lock := by
  obtain ⟨idle, same⟩ := State.called taken
  subst same
  intro other
  by_cases here : other = thread
  · subst here
    have free : ¬ state.owner lock = some other := fun held => inv.busy held idle
    simp [free, drops]
  · simp only [Function.update_of_ne here]
    exact inv other

theorem State.Bracketed.moved (inv : state.Bracketed lock) (moved : Moved effect state thread next) :
    next.Bracketed lock := by
  intro other
  have here := inv thread
  have before := inv other
  cases moved with
  | @lock taken rest head free =>
      rw [head] at here
      by_cases same : taken = lock
      · subst same
        by_cases mine : other = thread
        · subst mine
          simpa [bracketed, free] using here
        · have others : ¬ thread = other := fun equal => mine equal.symm
          simpa [Function.update_of_ne mine, free, others] using before
      · have owner : lock ≠ taken := fun equal => same equal.symm
        by_cases mine : other = thread
        · subst mine
          simpa [bracketed, same, Function.update_of_ne owner] using here
        · simpa [Function.update_of_ne mine, Function.update_of_ne owner] using before
  | @unlock dropped rest head =>
      rw [head] at here
      by_cases same : dropped = lock
      · subst same
        by_cases mine : other = thread
        · subst mine
          simp only [bracketed, if_true, Bool.and_eq_true] at here
          simpa using here.2
        · simp only [bracketed, if_true, Bool.and_eq_true, decide_eq_true_eq] at here
          have others : ¬ thread = other := fun equal => mine equal.symm
          simpa [Function.update_of_ne mine, here.1, others] using before
      · have owner : lock ≠ dropped := fun equal => same equal.symm
        by_cases mine : other = thread
        · subst mine
          simpa [bracketed, same, Function.update_of_ne owner] using here
        · simpa [Function.update_of_ne mine, Function.update_of_ne owner] using before
  | @act act rest head =>
      rw [head] at here
      by_cases mine : other = thread
      · subst mine
        simpa [bracketed] using here
      · simpa [Function.update_of_ne mine] using before

end bracketed

end Locks
