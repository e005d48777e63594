import Mathlib.Data.Nat.Basic
import Moocbt.Logic.Locks
import Moocbt.Logic.Transition

/-! The two mutexes of the driver, and who takes them in which order. -/

namespace Moocbt.Control

open Locks

inductive Mutex where
  | ioctlMutex
  | snapDeviceLock
  deriving DecidableEq, Repr

/-- What a call does between its locks: a mount event or `post_umount_check` has looked for a
device, `seq_open` succeeded, or `seq_release` was called. -/
inductive LockAct where
  | looked
  | opened
  | released
  deriving DecidableEq, Repr

/-- A call into the driver that takes a lock. `handles` says whether `ctrl_ioctl` gets to a
handler, `found` whether there is a device to change and `opened` whether `seq_open`
succeeds. -/
inductive LockCall where
  | ctrlIoctl (handles : Bool)
  | handleBdevMountEvent (found : Bool)
  | postUmountCheck (found : Bool)
  | procOpen (opened : Bool)
  | procRead
  | procRelease
  deriving DecidableEq, Repr

abbrev LockOp := Op Mutex LockAct

/-- Every handler of `ctrl_ioctl` gets the table of devices and puts it. -/
def ctrlIoctl (handles : Bool) : List LockOp :=
  .lock .ioctlMutex ::
    (if handles then [.lock .snapDeviceLock, .unlock .snapDeviceLock] else []) ++
    [.unlock .ioctlMutex]

/-- `auto_transition_dormant` and `auto_transition_active`. -/
def autoTransition : List LockOp := [.lock .ioctlMutex, .unlock .ioctlMutex]

def handleBdevMountEvent (found : Bool) : List LockOp :=
  [.lock .snapDeviceLock, .act .looked] ++ (if found then autoTransition else []) ++
    [.unlock .snapDeviceLock]

def postUmountCheck (found : Bool) : List LockOp :=
  [.lock .snapDeviceLock, .act .looked] ++ (if found then autoTransition else []) ++
    [.unlock .snapDeviceLock]

/-- `moocbt_proc_open` leaves with the mutex, also when `seq_open` fails. -/
def procOpen (opened : Bool) : List LockOp :=
  .lock .ioctlMutex :: if opened then [.act .opened] else []

/-- `moocbt_proc_start` up to `moocbt_proc_stop`. -/
def procRead : List LockOp := [.lock .snapDeviceLock, .unlock .snapDeviceLock]

def procRelease : List LockOp := [.act .released, .unlock .ioctlMutex]

def LockCall.ops : LockCall → List LockOp
  | .ctrlIoctl handles => Control.ctrlIoctl handles
  | .handleBdevMountEvent found => Control.handleBdevMountEvent found
  | .postUmountCheck found => Control.postUmountCheck found
  | .procOpen opened => Control.procOpen opened
  | .procRead => Control.procRead
  | .procRelease => Control.procRelease

/-- The threads, with the number of open proc files. -/
abbrev Threads := State Nat Mutex LockAct Nat

def LockAct.effect : LockAct → Nat → Nat
  | .looked, files => files
  | .opened, files => files + 1
  | .released, files => files - 1

/-- A file is read or released while it is open. -/
def LockCall.Allowed (files : Nat) : LockCall → Prop
  | .procRead | .procRelease => 0 < files
  | _ => True

instance (files : Nat) (call : LockCall) : Decidable (call.Allowed files) := by
  cases call <;> unfold LockCall.Allowed <;> infer_instance

/-- A thread begins a call, or makes its next step. -/
inductive LockEvent where
  | call (thread : Nat) (call : LockCall)
  | move (thread : Nat)

def Threads.step (threads : Threads) : LockEvent → Option Threads
  | .call thread call => if call.Allowed threads.mem then threads.call thread call.ops else none
  | .move thread => threads.move LockAct.effect thread

def Threads.idle : Threads := ⟨fun _ => none, fun _ => [], 0⟩

/-- `ioctl_mutex` is free, or its holder drops it next. -/
def Threads.Free (threads : Threads) : Prop :=
  ∀ holder ∈ threads.owner .ioctlMutex, threads.rest holder = [.unlock .ioctlMutex]

/-- With a device to change a hook asks for `ioctl_mutex`, which is free then, or dropped
next; and until the hook has it nobody takes it who does not drop it next. -/
def LockEvent.Clear (threads : Threads) : LockEvent → Prop
  | .call _ _ => True
  | .move thread =>
      match threads.rest thread with
      | .act _ :: .lock .ioctlMutex :: _ => threads.Free
      | .lock .ioctlMutex :: rest =>
          rest = [.unlock .ioctlMutex] ∨ ∀ holder ∈ threads.owner .snapDeviceLock,
            holder = thread ∨ (threads.rest holder).head? ≠ some (.lock .ioctlMutex)
      | _ => True

/-- Between two locks a call does something else. -/
def asksLater : List LockOp → Bool
  | [] => true
  | .lock _ :: rest => decide (rest.head? ≠ some (.lock .ioctlMutex)) && asksLater rest
  | _ :: rest => asksLater rest

/-- What holds of the two locks. -/
structure Orderly (threads : Threads) : Prop where
  later : ∀ thread, asksLater (threads.rest thread) = true
  table : threads.Bracketed .snapDeviceLock
  free : ∀ hook, threads.owner .snapDeviceLock = some hook → threads.Waits hook .ioctlMutex →
    threads.Free

variable {threads next : Threads}

theorem LockCall.bracketed (call : LockCall) :
    Locks.bracketed Mutex.snapDeviceLock false call.ops = true := by
  cases call with
  | ctrlIoctl handles => cases handles <;> rfl
  | handleBdevMountEvent found => cases found <;> rfl
  | postUmountCheck found => cases found <;> rfl
  | procOpen opened => cases opened <;> rfl
  | procRead => rfl
  | procRelease => rfl

theorem LockCall.asksLater (call : LockCall) : Control.asksLater call.ops = true := by
  cases call with
  | ctrlIoctl handles => cases handles <;> rfl
  | handleBdevMountEvent found => cases found <;> rfl
  | postUmountCheck found => cases found <;> rfl
  | procOpen opened => cases opened <;> rfl
  | procRead => rfl
  | procRelease => rfl

theorem asksLater_tail {op : LockOp} {rest : List LockOp} (later : asksLater (op :: rest) = true) :
    asksLater rest = true := by
  cases op with
  | lock lock => exact ((Bool.and_eq_true _ _).mp later).2
  | unlock lock => exact later
  | act act => exact later

theorem Orderly.start : Orderly Threads.idle where
  later := fun _ => rfl
  table := fun _ => rfl
  free := nofun

theorem Orderly.call {thread : Nat} {call : LockCall} (orderly : Orderly threads)
    (taken : threads.call thread call.ops = some next) : Orderly next := by
  have table := orderly.table.called call.bracketed taken
  obtain ⟨idle, same⟩ := State.called taken
  subst same
  refine ⟨fun other => ?_, table, fun hook owns waits holder found => ?_⟩
  · by_cases here : other = thread
    · subst here
      simpa using call.asksLater
    · simp only [Function.update_of_ne here]
      exact orderly.later other
  · have hook : hook ≠ thread := fun same => orderly.table.busy owns (same ▸ idle)
    unfold State.Waits at waits
    simp only [Function.update_of_ne hook] at waits
    have drops := orderly.free _ owns waits holder found
    have others : holder ≠ thread := fun same => by
      rw [same, idle] at drops
      contradiction
    simpa [Function.update_of_ne others] using drops

theorem Orderly.move {thread : Nat} (orderly : Orderly threads)
    (clear : (LockEvent.move thread).Clear threads)
    (taken : threads.move LockAct.effect thread = some next) : Orderly next := by
  have moved := State.moved taken
  have table := orderly.table.moved moved
  have later : ∀ other, asksLater (next.rest other) = true := by
    intro other
    have here := orderly.later thread
    have before := orderly.later other
    by_cases mine : other = thread
    · subst mine
      cases moved with
      | lock head free =>
          rw [head] at here
          simpa using asksLater_tail here
      | unlock head =>
          rw [head] at here
          simpa using asksLater_tail here
      | act head =>
          rw [head] at here
          simpa using asksLater_tail here
    · cases moved <;> simpa [Function.update_of_ne mine] using before
  refine ⟨later, table, ?_⟩
  intro hook owns waits holder found
  simp only [LockEvent.Clear] at clear
  unfold State.Waits at waits
  cases moved with
  | @lock lock rest head free =>
      have here := orderly.later thread
      rw [head] at here
      have pause := of_decide_eq_true ((Bool.and_eq_true _ _).mp here).1
      have others : hook ≠ thread := by
        intro same
        subst same
        simp only [Function.update_self] at waits
        contradiction
      simp only [Function.update_of_ne others] at waits
      cases lock with
      | snapDeviceLock =>
          simp only [Function.update_self, Option.some.injEq] at owns
          exact absurd owns.symm others
      | ioctlMutex =>
          simp only [Function.update_self, Option.mem_some_iff] at found
          subst found
          rw [head] at clear
          have owns : threads.owner .snapDeviceLock = some hook := by simpa using owns
          have drops := clear.resolve_right fun waiting =>
            (waiting hook owns).elim others fun elsewhere => elsewhere waits
          simpa using drops
  | @unlock lock rest head =>
      cases lock with
      | snapDeviceLock => simp at owns
      | ioctlMutex => simp at found
  | @act act rest head =>
      have waiting : threads.Free := by
        by_cases mine : hook = thread
        · subst mine
          simp only [Function.update_self] at waits
          obtain ⟨rest', same⟩ := List.head?_eq_some_iff.mp waits
          rw [head, same] at clear
          exact clear
        · simp only [Function.update_of_ne mine] at waits
          exact orderly.free hook owns waits
      have drops := waiting holder found
      have others : holder ≠ thread := by
        intro same
        rw [same, head] at drops
        cases drops
      simpa [Function.update_of_ne others] using drops

theorem Orderly.step {event : LockEvent} (orderly : Orderly threads) (clear : event.Clear threads)
    (taken : threads.step event = some next) : Orderly next := by
  cases event with
  | call thread call =>
      unfold Threads.step at taken
      simp only at taken
      split at taken
      · exact orderly.call taken
      · contradiction
  | move thread => exact orderly.move clear taken

/-- While a hook waits for `ioctl_mutex` it is the upper lock, and else the lower one. -/
theorem Orderly.not_deadlocked (orderly : Orderly threads) : ¬ threads.Deadlocked := by
  by_cases hooked : ∃ hook, threads.owner .snapDeviceLock = some hook ∧
      threads.Waits hook .ioctlMutex
  · obtain ⟨hook, owns, asks⟩ := hooked
    have free := orderly.free hook owns asks
    apply State.not_deadlocked fun lock : Mutex => if lock = .ioctlMutex then 1 else 0
    intro thread other crosses held wanted owned waits
    cases held with
    | ioctlMutex =>
        have drops := free thread owned
        simp [State.Waits, drops] at waits
    | snapDeviceLock =>
        cases wanted with
        | ioctlMutex => simp
        | snapDeviceLock => exact absurd waits (orderly.table.not_waits owned)
  · apply State.not_deadlocked fun lock : Mutex => if lock = .snapDeviceLock then 1 else 0
    intro thread other crosses held wanted owned waits
    cases wanted with
    | snapDeviceLock =>
        cases held with
        | ioctlMutex => simp
        | snapDeviceLock => exact absurd waits (orderly.table.not_waits owned)
    | ioctlMutex =>
        obtain ⟨first, second, differ, mine, waits', _⟩ := crosses
        have same : second = .ioctlMutex := by
          have equal := waits'.symm.trans waits
          simpa using equal
        cases first with
        | snapDeviceLock => exact absurd ⟨thread, mine, waits⟩ hooked
        | ioctlMutex => exact absurd same.symm differ

/-- No threads wait for each other in a cycle, unless a hook that holds the table asks for
`ioctl_mutex` while it is held by, or given to, somebody who does not drop it next. -/
theorem threads_not_deadlocked
    (reached : Transition.Reaches Threads.step (fun threads event => event.Clear threads) .idle
      threads) : ¬ threads.Deadlocked := by
  have orderly : Orderly threads := by
    induction reached with
    | refl => exact .start
    | next _ clear taken ih => exact ih.step clear taken
  exact orderly.not_deadlocked

instance (threads : Threads) : Decidable threads.Free :=
  inferInstanceAs (Decidable (∀ holder ∈ threads.owner .ioctlMutex, _))

instance (threads : Threads) (event : LockEvent) : Decidable (event.Clear threads) := by
  cases event with
  | call thread call => exact inferInstanceAs (Decidable True)
  | move thread =>
      unfold LockEvent.Clear
      dsimp only
      split <;> infer_instance

/-- An umount finds a device after `ctrl_ioctl` has put the table. -/
theorem threads_not_deadlocked_after : ∃ threads : Threads,
    threads.owner .snapDeviceLock = some 1 ∧ threads.owner .ioctlMutex = some 1 ∧
      ¬ threads.Deadlocked := by
  have ran : (Transition.run (Transition.checked Threads.step fun threads event =>
      event.Clear threads) .idle
      ([.call 0 (.ctrlIoctl true), .call 1 (.handleBdevMountEvent true)] ++
        [.move 0, .move 0, .move 0, .move 1, .move 1, .move 0, .move 1])).any
      (fun threads => threads.owner .snapDeviceLock = some 1 ∧
        threads.owner .ioctlMutex = some 1) = true := by
    decide +kernel
  obtain ⟨threads, reached, held⟩ := Transition.Reaches.of_evaluated ran
  obtain ⟨table, mutex⟩ := of_decide_eq_true held
  exact ⟨threads, table, mutex, threads_not_deadlocked reached⟩

/-- `ctrl_ioctl` takes `ioctl_mutex`, the hook takes the table, and each asks for the
other's. -/
theorem threads_not_deadlocked_crossed :
    ∃ threads : Threads, Transition.Reachable Threads.step .idle threads ∧ threads.Deadlocked := by
  have ran : (Transition.run (Transition.checked Threads.step fun _ _ => True) .idle
      [.call 0 (.ctrlIoctl true), .call 1 (.handleBdevMountEvent true), .move 0, .move 1,
        .move 1]).any
      (fun threads => threads.owner .ioctlMutex = some 0 ∧ threads.owner .snapDeviceLock = some 1 ∧
        (threads.rest 0).head? = some (.lock .snapDeviceLock) ∧
        (threads.rest 1).head? = some (.lock .ioctlMutex)) = true := by
    decide +kernel
  obtain ⟨threads, reached, held⟩ := Transition.Reaches.of_evaluated ran
  obtain ⟨mutex, table, first, second⟩ := of_decide_eq_true held
  have there : threads.Crosses 0 1 := ⟨.ioctlMutex, .snapDeviceLock, by decide, mutex, first, table⟩
  have back : threads.Crosses 1 0 := ⟨.snapDeviceLock, .ioctlMutex, by decide, table, second, mutex⟩
  exact ⟨threads, reached, 0, .tail (.single there) back⟩

end Moocbt.Control
