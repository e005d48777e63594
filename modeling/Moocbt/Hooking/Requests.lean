import Moocbt.Hooking.Returns

/-! What a request for a return hook reports. Each of the allocations for it may fail; the
mount and umount callbacks go by the return value. -/

namespace Moocbt.Hooking

open LinkedQueue (Cell)
open Program Transition

variable {kernel : Kernel} {machine after : Machine} {shadow : Shadow} {hooked : Hooked}
  {prh : PreemptRethook} {allocs : Allocations} {tsk sp node prhtn : Nat}
  {top : Frame} {rest : List Frame}

/-- The addresses of the post hooks. -/
structure PostHooks where
  pathUmountRhPost : Nat
  pathMountRhRemountRoPost : Nat
  pathMountRhMountRwPost : Nat
  moveMountRhPost : Nat

/-- What a callback asks for, and whether it takes the post step itself where it is told that
there is no hook. -/
structure Callback where
  postHook : Nat
  dataSize : Nat
  takesStep : Bool
deriving DecidableEq

def Callback.request (callback : Callback) (ctx : List Nat) : PreemptRethook :=
  ⟨some callback.postHook, callback.dataSize, ctx⟩

/-- The umount: `post_umount_check` with an error in place of the result. -/
def ftracePathUmountPreemptRh (hooks : PostHooks) : Callback :=
  ⟨hooks.pathUmountRhPost, 32, true⟩

def msRdonly : BitVec 64 := 1
def msRemount : BitVec 64 := 32
def msBind : BitVec 64 := 4096
def msMove : BitVec 64 := 8192
def msUnbindable : BitVec 64 := 1 <<< 17
def msPrivate : BitVec 64 := 1 <<< 18
def msSlave : BitVec 64 := 1 <<< 19
def msShared : BitVec 64 := 1 <<< 20
def msMgcMsk : BitVec 64 := 0xffff0000
def msMgcVal : BitVec 64 := 0xC0ED0000

/-- The mount: nothing for mounts that leave the driver as it is, a remount to read-only as an
umount, and else a mount for writing. -/
def ftracePathMountPreemptRh (hooks : PostHooks) (flags : BitVec 64) : Option Callback :=
  let realFlags := if flags &&& msMgcMsk = msMgcVal then flags &&& ~~~ msMgcMsk else flags
  if realFlags &&& (msBind ||| msShared ||| msPrivate ||| msSlave ||| msUnbindable ||| msMove) ≠ 0 ∨
      (realFlags &&& msRdonly ≠ 0 ∧ ¬ realFlags &&& msRemount ≠ 0) then none
  else if realFlags &&& msRdonly ≠ 0 ∧ realFlags &&& msRemount ≠ 0 then
    some ⟨hooks.pathMountRhRemountRoPost, 32, true⟩
  else some ⟨hooks.pathMountRhMountRwPost, 32, false⟩

def ftraceMoveMountPreemptRh (hooks : PostHooks) : Callback :=
  ⟨hooks.moveMountRhPost, 24, false⟩

/-- The end of a callback: whether it takes the post step itself. -/
def Callback.run (kernel : Kernel) (callback : Callback) (tsk : Nat) (ctx : List Nat) (sp : Nat)
    (allocs : Allocations) : Rh Bool := do
  let ret ← preHandlerPreemptRethook kernel tsk (callback.request ctx) sp allocs
  pure (decide (ret ≠ 0) && callback.takesStep)

/-- `kmalloc` gives memory that is not in use, where it gives any. -/
def Machine.Fresh (machine : Machine) (allocs : Allocations) : Prop :=
  (∀ node ∈ allocs.node, node ∉ machine.used) ∧
    ∀ prhtn ∈ allocs.taskNode, machine.taskNodes prhtn = none

instance (machine : Machine) (allocs : Allocations) : Decidable (machine.Fresh allocs) :=
  inferInstanceAs (Decidable (_ ∧ _))

/-- The node `preempt_rethook_try_get` gets. -/
def PreemptRethook.gets (prh : PreemptRethook) (allocs : Allocations) : Option Nat :=
  if prh.dataSize ≠ 0 ∧ allocs.data = false then none else allocs.node

/-- The task has an entry, or gets one. -/
def Machine.Enters (kernel : Kernel) (machine : Machine) (tsk : Nat) (allocs : Allocations) :
    Prop :=
  machine.HasEntry kernel tsk ∨ allocs.taskNode ≠ none

instance (kernel : Kernel) (machine : Machine) (tsk : Nat) (allocs : Allocations) :
    Decidable (machine.Enters kernel tsk allocs) :=
  inferInstanceAs (Decidable (_ ∨ _))

/-- The caller returns to the trampoline, and a new node with the post hook and a copy of its
data is in front of what was on the list of the task. -/
structure Installed (kernel : Kernel) (tsk : Nat) (prh : PreemptRethook) (sp : Nat)
    (before after : Machine) : Prop where
  slot : after.stack tsk sp = kernel.trampoline
  listed : ∃ prhtn ∈ after.table (kernel.hash tsk), ∃ node first,
    after.taskNodes prhtn = some ⟨tsk, some node⟩ ∧ node ∉ before.used ∧
    after.nodes node = some ⟨first, prh.postHook, before.stack tsk sp, sp, prh.copied⟩ ∧
    (before.taskNodes prhtn = some ⟨tsk, first⟩ ∨ first = none ∧ ¬ before.HasEntry kernel tsk)

/-- The return value tells whether the hook was installed, and nothing has changed where it
was not. -/
structure Reports (kernel : Kernel) (tsk : Nat) (prh : PreemptRethook) (sp ret : Nat)
    (before after : Machine) : Prop where
  installed : ret = 0 ↔ Installed kernel tsk prh sp before after
  unchanged : ret ≠ 0 → after = before

/-- What becomes of a request. -/
inductive Requested (kernel : Kernel) (tsk : Nat) (prh : PreemptRethook) (sp : Nat)
    (allocs : Allocations) (before : Machine) : Nat → Machine → Prop
  | refused : prh.gets allocs = none → Requested kernel tsk prh sp allocs before enomem before
  | installed {after : Machine} : prh.gets allocs ≠ none → before.Enters kernel tsk allocs →
      Installed kernel tsk prh sp before after → Requested kernel tsk prh sp allocs before 0 after
  | leaked {node : Nat} : prh.gets allocs = some node → ¬ before.Enters kernel tsk allocs →
      Requested kernel tsk prh sp allocs before 0
        { before with
          nodes := Function.update before.nodes node (some ⟨none, prh.postHook, 0, 0, prh.copied⟩)
          used := node :: before.used }

theorem preemptRethookTryGet_gets {done : Option Nat → Machine → Prop}
    {stopped : Fault → Machine → Prop}
    (refused : prh.gets allocs = none → done none machine)
    (got : ∀ node, prh.gets allocs = some node → done (some node)
      { machine with
        nodes := Function.update machine.nodes node (some ⟨none, prh.postHook, 0, 0, prh.copied⟩)
        used := node :: machine.used }) :
    wp (preemptRethookTryGet prh allocs) done stopped machine := by
  unfold preemptRethookTryGet
  cases given : allocs.node with
  | none =>
      refine refused ?_
      simp only [PreemptRethook.gets, given, ite_self]
  | some node =>
      dsimp only
      by_cases short : prh.dataSize ≠ 0 ∧ allocs.data = false
      · rw [if_pos short]
        refine refused ?_
        simp only [PreemptRethook.gets, if_pos short]
      · rw [if_neg short, wp_bind, wp_setNode, wp_bind, wp_update, wp_pure]
        refine got node ?_
        simp only [PreemptRethook.gets, if_neg short, given]

/-- The entry of a task that has none and gets none. -/
theorem findOrAddTaskNode_fails (table : TableHolds kernel machine)
    (missing : ¬ machine.Enters kernel tsk allocs) :
    wp (findOrAddTaskNode kernel tsk allocs) (fun result after => result = none ∧ after = machine)
      (fun _ _ => False) machine := by
  rw [Machine.Enters, not_or, not_not] at missing
  unfold findOrAddTaskNode
  rw [wp_bind]
  refine wp_mono (preemptRhTaskNodeFind_spec table tsk) ?_ fun _ _ => id
  intro result after answer
  obtain ⟨same, answer⟩ := answer
  subst same
  cases result with
  | none =>
      rw [missing.2]
      exact ⟨rfl, rfl⟩
  | some prhtn =>
      have bucket := (table.listed _ prhtn).mpr ⟨tsk, answer, rfl⟩
      exact absurd (hasEntry_iff.mpr ⟨prhtn, bucket, answer⟩) missing.1

theorem preHandlerPreemptRethook_spec (table : TableHolds kernel machine)
    (fresh : machine.Fresh allocs) :
    wp (preHandlerPreemptRethook kernel tsk prh sp allocs)
      (fun ret after => Requested kernel tsk prh sp allocs machine ret after)
      (fun _ _ => False) machine := by
  unfold preHandlerPreemptRethook
  rw [wp_bind]
  refine preemptRethookTryGet_gets (fun refused => ?_) (fun node got => ?_)
  · exact .refused refused
  · have unused : node ∉ machine.used := by
      refine fresh.1 node ?_
      simp only [PreemptRethook.gets] at got
      split at got
      · contradiction
      · exact got
    have table' : TableHolds kernel { machine with
        nodes := Function.update machine.nodes node (some ⟨none, prh.postHook, 0, 0, prh.copied⟩)
        used := node :: machine.used } := table.congr (fun _ _ => Iff.rfl) rfl
    dsimp only
    rw [wp_bind]
    unfold preemptRethookHook
    rw [wp_bind]
    by_cases enters : machine.Enters kernel tsk allocs
    · refine wp_mono (findOrAddTaskNode_spec table' ?_) ?_ fun _ _ => id
      · cases given : allocs.taskNode with
        | none => exact enters.resolve_right fun some => some given
        | some prhtn => exact fresh.2 prhtn given
      intro result prepared answer
      obtain ⟨prhtn, first, same, ready⟩ := answer
      subst same
      obtain ⟨alike, table'', entry, _, start⟩ := ready
      obtain ⟨taskNodes, buckets, same⟩ := alike
      subst same
      have bucket : prhtn ∈ buckets (kernel.hash tsk) :=
        (table''.listed _ prhtn).mpr ⟨tsk, ⟨first, entry⟩, rfl⟩
      dsimp only at entry ⊢
      unfold preemptRethookPrepare llistAdd
      simp only [wp_bind, wp_read, wp_nodeAt, wp_setNode, wp_setStack, wp_taskNodeAt,
        wp_setTaskNode, Function.update_self, entry, Function.update_idem, wp_pure]
      have some : prh.gets allocs ≠ none := by rw [got]; exact Option.some_ne_none node
      refine .installed some enters ⟨?_, prhtn, bucket, node, first, ?_⟩
      · simp only [Function.update_self]
      · refine ⟨Function.update_self .., unused, Function.update_self .., ?_⟩
        cases start with
        | inl before => exact .inl before
        | inr new =>
            refine .inr ⟨new.1, fun has => ?_⟩
            obtain ⟨prhtn', _, entry'⟩ := hasEntry_iff.mp has
            exact new.2 prhtn' entry'
    · refine wp_mono (findOrAddTaskNode_fails table' enters) ?_ fun _ _ => id
      intro result prepared answer
      obtain ⟨same, same'⟩ := answer
      subst same same'
      exact .leaked got enters

/-- A request reports what it did, unless it got a node and no entry for the task. -/
theorem Requested.reports_iff {ret : Nat}
    (allocated : ∀ node, machine.nodes node ≠ none ↔ node ∈ machine.used)
    (requested : Requested kernel tsk prh sp allocs machine ret after) :
    Reports kernel tsk prh sp ret machine after ↔
      prh.gets allocs = none ∨ machine.Enters kernel tsk allocs := by
  cases requested with
  | refused none =>
      refine ⟨fun _ => .inl none, fun _ => ⟨⟨?_, ?_⟩, fun _ => rfl⟩⟩
      · intro zero
        contradiction
      · intro installed
        obtain ⟨prhtn, _, node, first, _, unused, cell, _⟩ := installed.listed
        refine absurd ((allocated node).mp ?_) unused
        rw [cell]
        exact Option.some_ne_none _
  | installed got enters installed =>
      exact ⟨fun _ => .inr enters, fun _ => ⟨⟨fun _ => installed, fun _ => rfl⟩,
        fun failed => absurd rfl failed⟩⟩
  | leaked got missing =>
      refine ⟨fun reports => ?_, fun enters => ?_⟩
      · exfalso
        obtain ⟨prhtn, bucket, _, _, entry, _⟩ := (reports.installed.mp rfl).listed
        exact missing (.inl (hasEntry_iff.mpr ⟨prhtn, bucket, ⟨_, entry⟩⟩))
      · cases enters with
        | inl none =>
            rw [none] at got
            contradiction
        | inr enters => exact absurd enters missing

/-- Memory that a step is given is not in use. -/
def Machine.Gives (machine : Machine) : Event → Prop
  | .hook _ _ _ allocs => machine.Fresh allocs
  | _ => True

instance (machine : Machine) (event : Event) : Decidable (machine.Gives event) :=
  match event with
  | .hook _ _ _ allocs => inferInstanceAs (Decidable (machine.Fresh allocs))
  | .enter .. | .leave .. | .callPostHook _ | .postHookReturns _ | .finish _ => .isTrue trivial

/-- A step of the tasks, where memory may be short. -/
def Hooked.Attempts (kernel : Kernel) (hooked : Hooked) (event : Event) : Prop :=
  hooked.shadow.Allows kernel event ∧ hooked.machine.Gives event

instance (kernel : Kernel) (hooked : Hooked) (event : Event) :
    Decidable (hooked.Attempts kernel event) := inferInstanceAs (Decidable (_ ∧ _))

/-- The frames after a step: a hook that does not get its memory is none. -/
def Hooked.expected (kernel : Kernel) (hooked : Hooked) (event : Event) : Shadow :=
  if hooked.machine.Allocates kernel event then hooked.shadow.after event else hooked.shadow

/-- A step the code gets through, with the memory it gets. -/
def Hooked.attempt (kernel : Kernel) (hooked : Hooked) (event : Event) : Option Hooked :=
  match exec kernel event hooked.machine with
  | (.ok (), machine) => some ⟨machine, hooked.expected kernel event⟩
  | (.error _, _) => none

theorem Machine.Fresh.allocates_iff (fresh : machine.Fresh allocs) :
    machine.Allocates kernel (.hook tsk prh sp allocs) ↔
      prh.gets allocs ≠ none ∧ machine.Enters kernel tsk allocs := by
  simp only [Machine.Allocates, PreemptRethook.gets, Machine.Enters]
  cases node : allocs.node with
  | none => simp
  | some node' =>
      have unused : node' ∉ machine.used := fresh.1 node' node
      cases taskNode : allocs.taskNode with
      | none =>
          cases data : allocs.data with
          | true => simp [unused]
          | false => by_cases size : prh.dataSize = 0 <;> simp [unused, size]
      | some prhtn =>
          have free : machine.taskNodes prhtn = none := fresh.2 prhtn taskNode
          cases data : allocs.data with
          | true => simp [unused, free]
          | false => by_cases size : prh.dataSize = 0 <;> simp [unused, size, free]

/-- A node that no list has. -/
theorem Kept.leak (kept : Kept kernel ⟨machine, shadow⟩) (unused : node ∉ machine.used)
    (cell : Cell RhNode) :
    Kept kernel ⟨{ machine with
      nodes := Function.update machine.nodes node (some cell)
      used := node :: machine.used }, shadow⟩ where
  table := kept.table.congr (fun _ _ => Iff.rfl) rfl
  tasks tsk := by
    have task := kept.tasks tsk
    refine { task with used := fun other member => List.mem_cons_of_mem _ (task.used other member),
                       listed := fun some => ?_ }
    obtain ⟨prhtn, first, stored, linked⟩ := task.listed some
    refine ⟨prhtn, first, stored, linked.of_agree fun other member => ?_⟩
    rw [entriesOf_nodes] at member
    have different : other ≠ node := by
      intro same
      subst same
      exact unused (task.used other member)
    exact Function.update_of_ne different ..
  apart := kept.apart
  usedNodup := List.nodup_cons.mpr ⟨unused, kept.usedNodup⟩
  allocated other := by
    dsimp only
    by_cases same : other = node
    · subst same
      simp
    · rw [Function.update_of_ne same, List.mem_cons]
      simp only [same, false_or]
      exact kept.allocated other
  trace := kept.trace

theorem Kept.attempt {event : Event} (kept : Kept kernel hooked)
    (attempts : hooked.Attempts kernel event) :
    wp (exec kernel event) (fun _ after => Kept kernel ⟨after, hooked.expected kernel event⟩)
      (fun _ _ => False) hooked.machine := by
  obtain ⟨allowed, gives⟩ := attempts
  by_cases available : hooked.machine.Allocates kernel event
  · rw [Hooked.expected, if_pos available]
    refine wp_mono (kept.step allowed available) ?_ fun _ _ => id
    intro _ after taken
    obtain ⟨frames, seen, same, stepped⟩ := taken
    rw [same]
    exact kept.stepped stepped
  · rw [Hooked.expected, if_neg available]
    cases event with
    | hook tsk prh frame allocs =>
        have fresh : hooked.machine.Fresh allocs := gives
        have short := mt fresh.allocates_iff.mpr available
        unfold exec
        rw [wp_bind]
        refine wp_mono (preHandlerPreemptRethook_spec kept.table fresh) ?_ fun _ _ => id
        intro ret after requested
        cases requested with
        | refused _ => exact kept
        | installed got enters _ => exact absurd ⟨got, enters⟩ short
        | leaked got _ =>
            refine kept.leak (fresh.1 _ ?_) _
            simp only [PreemptRethook.gets] at got
            split at got
            · contradiction
            · exact got
    | enter => exact absurd trivial available
    | leave => exact absurd trivial available
    | callPostHook => exact absurd trivial available
    | postHookReturns => exact absurd trivial available
    | finish => exact absurd trivial available

theorem Kept.attempted {event : Event} {next : Hooked} (kept : Kept kernel hooked)
    (attempts : hooked.Attempts kernel event) (taken : hooked.attempt kernel event = some next) :
    Kept kernel next := by
  have goes := kept.attempt attempts
  unfold Hooked.attempt at taken
  unfold wp at goes
  rcases ran : exec kernel event hooked.machine with ⟨reason | _, machine⟩ <;>
    rw [ran] at taken goes
  · contradiction
  · cases taken
    exact goes

theorem Kept.attempt_exists {event : Event} (kept : Kept kernel hooked)
    (attempts : hooked.Attempts kernel event) :
    ∃ machine, hooked.attempt kernel event = some ⟨machine, hooked.expected kernel event⟩ := by
  have goes := kept.attempt attempts
  unfold wp at goes
  unfold Hooked.attempt
  rcases ran : exec kernel event hooked.machine with ⟨reason | _, machine⟩ <;> rw [ran] at goes
  · exact goes.elim
  · exact ⟨machine, rfl⟩

theorem Kept.of_attempts {stack : Nat → Nat → Nat}
    (reached : Reaches (Hooked.attempt kernel) (Hooked.Attempts kernel) ⟨.boot stack, .boot⟩ hooked) :
    Kept kernel hooked := by
  refine reached.invariant (Holds.boot stack).toKept ?_
  intro before event after kept attempts taken
  exact kept.attempted attempts taken

end Moocbt.Hooking
