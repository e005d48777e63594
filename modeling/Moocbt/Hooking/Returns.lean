import Mathlib.Data.List.Perm.Subperm
import Moocbt.Hooking.ShadowStack
import Moocbt.Logic.Transition

/-! The nodes in memory are the shadow stack: the list of a task runs through the hooks of
its frames, and each handler is at the hook its frame is at. -/

namespace Moocbt.Hooking

open LinkedQueue (Cell Linked)
open Program

variable {kernel : Kernel} {machine : Machine} {shadow : Shadow}
  {tsk other node prhtn : Nat} {frames frames' rest : List Frame} {top : Frame} {hook : Hook}
  {seen : List Observation}

/-- The word at a frame: the hooks above the oldest one find the trampoline there. -/
def slot (kernel : Kernel) (retAddr : Nat) (hooks : List Hook) : Nat :=
  if hooks = [] then retAddr else kernel.trampoline

/-- The nodes of the hooks of a frame. -/
def hookEntries (kernel : Kernel) (frame retAddr : Nat) : List Hook → List (Nat × RhNode)
  | [] => []
  | hook :: older =>
      (hook.node, ⟨hook.postHook, slot kernel retAddr older, frame, hook.data⟩) ::
        hookEntries kernel frame retAddr older

def Frame.entries (kernel : Kernel) (frame : Frame) : List (Nat × RhNode) :=
  hookEntries kernel frame.frame frame.retAddr frame.hooks

def entriesOf (kernel : Kernel) (frames : List Frame) : List (Nat × RhNode) :=
  frames.flatMap (Frame.entries kernel)

/-- The addresses of the nodes of a task. -/
def nodesOf (frames : List Frame) : List Nat := frames.flatMap fun frame => frame.hooks.map Hook.node

theorem hookEntries_nodes (kernel : Kernel) (frame retAddr : Nat) (hooks : List Hook) :
    (hookEntries kernel frame retAddr hooks).map Prod.fst = hooks.map Hook.node := by
  induction hooks with
  | nil => rfl
  | cons hook older ih => simp only [hookEntries, List.map_cons, ih]

theorem entriesOf_nodes (kernel : Kernel) (frames : List Frame) :
    (entriesOf kernel frames).map Prod.fst = nodesOf frames := by
  induction frames with
  | nil => rfl
  | cons frame rest ih =>
      simp only [entriesOf, nodesOf, List.flatMap_cons, List.map_append] at ih ⊢
      rw [ih, Frame.entries, hookEntries_nodes]

/-- The nodes of a frame around one of them. -/
theorem hookEntries_split (kernel : Kernel) (frame retAddr : Nat) (done todo : List Hook)
    (hook : Hook) :
    ∃ before, hookEntries kernel frame retAddr (done ++ hook :: todo) =
        before ++ hookEntries kernel frame retAddr (hook :: todo) ∧
      before.map Prod.fst = done.map Hook.node := by
  induction done with
  | nil => exact ⟨[], rfl, rfl⟩
  | cons newer done ih =>
      obtain ⟨before, same, nodes⟩ := ih
      refine ⟨(newer.node, ⟨newer.postHook, slot kernel retAddr (done ++ hook :: todo), frame,
        newer.data⟩) :: before, ?_, by simp [nodes]⟩
      simp only [List.cons_append, hookEntries, same]

/-- The task node of a task. -/
def Entry (machine : Machine) (tsk prhtn : Nat) : Prop :=
  ∃ first, machine.taskNodes prhtn = some ⟨tsk, first⟩

/-- Each task node is in its bucket, once, and no task has two. -/
structure TableHolds (kernel : Kernel) (machine : Machine) : Prop where
  listed : ∀ bucket prhtn, prhtn ∈ machine.table bucket ↔
    ∃ tsk, Entry machine tsk prhtn ∧ kernel.hash tsk = bucket
  nodup : ∀ bucket, (machine.table bucket).Nodup
  unique : ∀ tsk prhtn prhtn', Entry machine tsk prhtn → Entry machine tsk prhtn' →
    prhtn = prhtn'

theorem Entry.tsk_eq (left : Entry machine tsk prhtn) (right : Entry machine other prhtn) :
    tsk = other := by
  obtain ⟨first, found⟩ := left
  obtain ⟨first', found'⟩ := right
  rw [found] at found'
  exact congrArg RhTaskNode.tsk (Option.some.inj found')

@[simp] theorem wp_nodeAt {done : Cell RhNode → Machine → Prop} {stopped : Fault → Machine → Prop} :
    wp (nodeAt node) done stopped machine ↔
      match machine.nodes node with
      | none => stopped .oops machine
      | some cell => done cell machine := by
  unfold nodeAt
  rw [wp_bind, wp_read]
  cases machine.nodes node <;> rfl

@[simp] theorem wp_taskNodeAt {done : RhTaskNode → Machine → Prop}
    {stopped : Fault → Machine → Prop} :
    wp (taskNodeAt prhtn) done stopped machine ↔
      match machine.taskNodes prhtn with
      | none => stopped .oops machine
      | some entry => done entry machine := by
  unfold taskNodeAt
  rw [wp_bind, wp_read]
  cases machine.taskNodes prhtn <;> rfl

theorem findInBucket_spec {bucket : List Nat}
    (allocated : ∀ prhtn ∈ bucket, ∃ tsk, Entry machine tsk prhtn) :
    wp (findInBucket tsk bucket)
      (fun result after => after = machine ∧
        match result with
        | none => ∀ prhtn ∈ bucket, ¬ Entry machine tsk prhtn
        | some prhtn => Entry machine tsk prhtn)
      (fun _ _ => False) machine := by
  induction bucket with
  | nil => exact ⟨rfl, by simp⟩
  | cons prhtn rest ih =>
      obtain ⟨owner, first, found⟩ := allocated prhtn List.mem_cons_self
      unfold findInBucket
      rw [wp_bind, wp_taskNodeAt, found]
      dsimp only
      rw [wp_ite]
      by_cases mine : owner = tsk
      · rw [if_pos mine]
        exact ⟨rfl, first, mine ▸ found⟩
      · rw [if_neg mine]
        refine wp_mono (ih fun prhtn member => allocated prhtn (List.mem_cons_of_mem _ member)) ?_
          fun _ _ => id
        rintro (_ | result) after ⟨same, answer⟩
        · refine ⟨same, fun prhtn' member => ?_⟩
          rcases List.mem_cons.mp member with here | later
          · intro entry
            have owned : Entry machine owner prhtn := ⟨first, found⟩
            exact mine (owned.tsk_eq (here ▸ entry))
          · exact answer prhtn' later
        · exact ⟨same, answer⟩

theorem preemptRhTaskNodeFind_spec (table : TableHolds kernel machine) (tsk : Nat) :
    wp (preemptRhTaskNodeFind kernel tsk)
      (fun result after => after = machine ∧
        match result with
        | none => ∀ prhtn, ¬ Entry machine tsk prhtn
        | some prhtn => Entry machine tsk prhtn)
      (fun _ _ => False) machine := by
  unfold preemptRhTaskNodeFind
  rw [wp_bind, wp_read]
  refine wp_mono (findInBucket_spec fun prhtn member => ?_) ?_ fun _ _ => id
  · obtain ⟨owner, entry, _⟩ := (table.listed _ _).mp member
    exact ⟨owner, entry⟩
  · rintro (_ | result) after ⟨same, answer⟩
    · exact ⟨same, fun prhtn entry => answer prhtn ((table.listed _ _).mpr ⟨tsk, entry, rfl⟩) entry⟩
    · exact ⟨same, answer⟩

/-- The task node that is there is found. -/
theorem find_entry (table : TableHolds kernel machine) (entry : Entry machine tsk prhtn)
    {done : Option Nat → Machine → Prop} {stopped : Fault → Machine → Prop}
    (found : done (some prhtn) machine) :
    wp (preemptRhTaskNodeFind kernel tsk) done stopped machine := by
  refine wp_mono (preemptRhTaskNodeFind_spec table tsk) ?_ fun _ _ => False.elim
  rintro (_ | result) after ⟨same, answer⟩
  · exact absurd entry (answer prhtn)
  · subst same
    rw [table.unique tsk result prhtn answer entry]
    exact found

/-- The list of the task starts at this node. -/
def Listed (machine : Machine) (tsk prhtn : Nat) (entries : List (Nat × RhNode)) : Prop :=
  ∃ first, machine.taskNodes prhtn = some ⟨tsk, first⟩ ∧ Linked machine.nodes first entries

/-- A handler is where its frame is. -/
structure Handles (prhtn : Nat) (handler : Handler) (frame : Frame) : Prop where
  frame_eq : handler.frame = frame.frame
  retAddr : handler.correctRetAddr = frame.retAddr
  prhtn_eq : handler.prhtn = prhtn
  node : frame.hooks.getLast?.map Hook.node = some handler.node
  place : ∃ handling done, frame.handling = some handling ∧
    match handling.current, handling.todo with
    | some hook, todo => frame.hooks = done ++ hook :: todo ∧ handler.point = .postHook ∧
        handler.first = some hook.node
    | none, hook :: todo => frame.hooks = done ++ hook :: todo ∧ handler.point = .loop ∧
        handler.first = some hook.node
    | none, [] => handler.point = .unlink

/-- What holds of a task. -/
structure TaskHolds (kernel : Kernel) (machine : Machine) (tsk : Nat) (frames : List Frame) :
    Prop where
  ordered : frames.Pairwise fun inner outer => inner.frame < outer.frame
  address : ∀ frame ∈ frames, frame.retAddr ≠ 0 ∧ frame.retAddr ≠ kernel.trampoline
  slots : ∀ frame ∈ frames,
    machine.stack tsk frame.frame = slot kernel frame.retAddr frame.hooks
  distinct : (nodesOf frames).Nodup
  used : ∀ node ∈ nodesOf frames, node ∈ machine.used
  absent : nodesOf frames = [] → ∀ prhtn, ¬ Entry machine tsk prhtn
  listed : nodesOf frames ≠ [] → ∃ prhtn, Listed machine tsk prhtn (entriesOf kernel frames)
  handlers : ∀ prhtn, Entry machine tsk prhtn →
    List.Forall₂ (Handles prhtn) (machine.handlers tsk)
      (frames.filter fun frame => frame.handling.isSome)
  idle : nodesOf frames = [] → machine.handlers tsk = [] ∧
    ∀ frame ∈ frames, frame.handling = none

/-- What a step of one task leaves alone of the others. -/
structure Beside (tsk : Nat) (frames : List Frame) (before after : Machine) : Prop where
  stack : ∀ other, other ≠ tsk → after.stack other = before.stack other
  handlers : ∀ other, other ≠ tsk → after.handlers other = before.handlers other
  entries : ∀ other, other ≠ tsk → ∀ prhtn first, after.taskNodes prhtn = some ⟨other, first⟩ ↔
    before.taskNodes prhtn = some ⟨other, first⟩
  nodes : ∀ node ∈ before.used, node ∉ nodesOf frames →
    after.nodes node = before.nodes node ∧ node ∈ after.used

/-- A step of a task from some frames to others. -/
structure Stepped (kernel : Kernel) (tsk : Nat) (frames frames' : List Frame)
    (seen : List Observation) (before after : Machine) : Prop extends
    Beside tsk frames before after where
  table : TableHolds kernel after
  task : TaskHolds kernel after tsk frames'
  fresh : ∀ node ∈ nodesOf frames', node ∈ nodesOf frames ∨ node ∉ before.used
  owned : ∀ node ∈ after.used, node ∈ nodesOf frames' ∨ node ∈ before.used ∧ node ∉ nodesOf frames
  usedNodup : after.used.Nodup
  allocated : ∀ node, after.nodes node ≠ none ↔ node ∈ after.used
  trace : after.trace = before.trace ++ seen

/-- The code has done what the shadow stack says, and its memory contains that stack. -/
structure Kept (kernel : Kernel) (hooked : Hooked) : Prop where
  table : TableHolds kernel hooked.machine
  tasks : ∀ tsk, TaskHolds kernel hooked.machine tsk (hooked.shadow.frames tsk)
  apart : ∀ tsk other, tsk ≠ other → ∀ node ∈ nodesOf (hooked.shadow.frames tsk),
    node ∉ nodesOf (hooked.shadow.frames other)
  usedNodup : hooked.machine.used.Nodup
  allocated : ∀ node, hooked.machine.nodes node ≠ none ↔ node ∈ hooked.machine.used
  trace : hooked.machine.trace = hooked.shadow.trace

/-- The memory has nothing else. -/
structure Holds (kernel : Kernel) (hooked : Hooked) : Prop extends Kept kernel hooked where
  owned : ∀ node ∈ hooked.machine.used, ∃ tsk, node ∈ nodesOf (hooked.shadow.frames tsk)

theorem Beside.entry_iff {before after : Machine} (beside : Beside tsk frames before after)
    (different : other ≠ tsk) : Entry after other prhtn ↔ Entry before other prhtn :=
  exists_congr fun first => beside.entries other different prhtn first

theorem TaskHolds.beside {before after : Machine}
    (holds : TaskHolds kernel before other frames') (beside : Beside tsk frames before after)
    (different : other ≠ tsk) (apart : ∀ node ∈ nodesOf frames', node ∉ nodesOf frames) :
    TaskHolds kernel after other frames' where
  ordered := holds.ordered
  address := holds.address
  slots frame member := by
    rw [beside.stack other different]
    exact holds.slots frame member
  distinct := holds.distinct
  used node member := (beside.nodes node (holds.used node member) (apart node member)).2
  absent none prhtn entry := holds.absent none prhtn ((beside.entry_iff different).mp entry)
  listed some := by
    obtain ⟨prhtn, first, found, linked⟩ := holds.listed some
    refine ⟨prhtn, first, (beside.entries other different prhtn first).mpr found, ?_⟩
    refine linked.of_agree fun node member => ?_
    rw [entriesOf_nodes] at member
    exact (beside.nodes node (holds.used node member) (apart node member)).1
  handlers prhtn entry := by
    rw [beside.handlers other different]
    exact holds.handlers prhtn ((beside.entry_iff different).mp entry)
  idle none := by
    rw [beside.handlers other different]
    exact holds.idle none

theorem Kept.stepped {after : Machine} (holds : Kept kernel ⟨machine, shadow⟩)
    (stepped : Stepped kernel tsk (shadow.frames tsk) frames' seen machine after) :
    Kept kernel ⟨after, shadow.replace tsk frames' seen⟩ := by
  have own : (shadow.replace tsk frames' seen).frames tsk = frames' := Function.update_self ..
  have others : ∀ other, other ≠ tsk →
      (shadow.replace tsk frames' seen).frames other = shadow.frames other := fun other different =>
    Function.update_of_ne different ..
  -- A node of the task is one it had or a new one, and so of no other task.
  have mine : ∀ other, other ≠ tsk → ∀ node ∈ nodesOf frames', node ∉ nodesOf (shadow.frames other) := by
    intro other different node member theirs
    rcases stepped.fresh node member with old | new
    · exact holds.apart tsk other (Ne.symm different) node old theirs
    · exact new ((holds.tasks other).used node theirs)
  refine ⟨stepped.table, fun other => ?_, fun left right different => ?_,
    stepped.usedNodup, stepped.allocated, ?_⟩
  · by_cases same : other = tsk
    · subst same
      rw [own]
      exact stepped.task
    · rw [others other same]
      exact (holds.tasks other).beside stepped.toBeside same (holds.apart other tsk same)
  · by_cases leftSame : left = tsk
    · subst leftSame
      rw [own, others right (Ne.symm different)]
      exact mine right (Ne.symm different)
    · rw [others left leftSame]
      by_cases rightSame : right = tsk
      · subst rightSame
        rw [own]
        exact fun node theirs member => mine left leftSame node member theirs
      · rw [others right rightSame]
        exact holds.apart left right different
  · have before := holds.trace
    change machine.trace = shadow.trace at before
    change after.trace = shadow.trace ++ seen
    rw [stepped.trace, before]

theorem Holds.stepped {after : Machine} (holds : Holds kernel ⟨machine, shadow⟩)
    (stepped : Stepped kernel tsk (shadow.frames tsk) frames' seen machine after) :
    Holds kernel ⟨after, shadow.replace tsk frames' seen⟩ := by
  refine ⟨holds.toKept.stepped stepped, fun node member => ?_⟩
  rcases stepped.owned node member with here | ⟨old, elsewhere⟩
  · refine ⟨tsk, ?_⟩
    rw [show (shadow.replace tsk frames' seen).frames tsk = frames' from Function.update_self ..]
    exact here
  · obtain ⟨owner, theirs⟩ := holds.owned node old
    have different : owner ≠ tsk := fun same => elsewhere (same ▸ theirs)
    refine ⟨owner, ?_⟩
    rw [show (shadow.replace tsk frames' seen).frames owner = shadow.frames owner from
      Function.update_of_ne different ..]
    exact theirs

theorem Holds.boot (stack : Nat → Nat → Nat) : Holds kernel ⟨.boot stack, .boot⟩ where
  table := ⟨fun bucket prhtn => by simp [Machine.boot, Entry], fun _ => List.nodup_nil,
    fun tsk prhtn _ entry => by simp [Machine.boot, Entry] at entry⟩
  tasks tsk := ⟨.nil, by simp [Shadow.boot], by simp [Shadow.boot], List.nodup_nil,
    by simp [Shadow.boot, nodesOf], by simp [Machine.boot, Entry],
    by simp [Shadow.boot, nodesOf], by simp [Machine.boot, Entry],
    by simp [Machine.boot, Shadow.boot]⟩
  apart := by simp [Shadow.boot, nodesOf]
  usedNodup := List.nodup_nil
  allocated := by simp [Machine.boot]
  trace := rfl
  owned := by simp [Machine.boot]

/-- A step that allocates and frees nothing. -/
structure Quiet (tsk : Nat) (seen : List Observation) (before after : Machine) : Prop where
  stack : ∀ other, other ≠ tsk → after.stack other = before.stack other
  handlers : ∀ other, other ≠ tsk → after.handlers other = before.handlers other
  nodes : after.nodes = before.nodes
  used : after.used = before.used
  taskNodes : after.taskNodes = before.taskNodes
  table : after.table = before.table
  trace : after.trace = before.trace ++ seen

theorem TableHolds.congr {before after : Machine} (table : TableHolds kernel before)
    (entry : ∀ tsk prhtn, Entry after tsk prhtn ↔ Entry before tsk prhtn)
    (same : after.table = before.table) : TableHolds kernel after := by
  refine ⟨fun bucket prhtn => ?_, fun bucket => ?_, fun tsk prhtn prhtn' left right => ?_⟩
  · simp only [same, entry]
    exact table.listed bucket prhtn
  · rw [same]
    exact table.nodup bucket
  · exact table.unique tsk prhtn prhtn' ((entry _ _).mp left) ((entry _ _).mp right)

theorem Quiet.stepped {after : Machine} (quiet : Quiet tsk seen machine after)
    (holds : Kept kernel ⟨machine, shadow⟩) (nodes : nodesOf frames' = nodesOf frames)
    (task : TaskHolds kernel after tsk frames') :
    Stepped kernel tsk frames frames' seen machine after where
  stack := quiet.stack
  handlers := quiet.handlers
  entries other different prhtn first := by rw [quiet.taskNodes]
  nodes node member _ := by
    rw [quiet.nodes, quiet.used]
    exact ⟨rfl, member⟩
  table := holds.table.congr (fun _ _ => by unfold Entry; rw [quiet.taskNodes]) quiet.table
  task := task
  fresh node member := .inl (nodes ▸ member)
  owned node member := by
    rw [quiet.used] at member
    by_cases mine : node ∈ nodesOf frames
    · exact .inl (nodes ▸ mine)
    · exact .inr ⟨member, mine⟩
  usedNodup := by
    rw [quiet.used]
    exact holds.usedNodup
  allocated := by
    rw [quiet.nodes, quiet.used]
    exact holds.allocated
  trace := quiet.trace

/-- A step of the innermost frame and its handler that leaves the lists alone. -/
theorem TaskHolds.replace {after : Machine} (task : TaskHolds kernel machine tsk frames)
    (quiet : Quiet tsk seen machine after) (nodes : nodesOf frames' = nodesOf frames)
    (entries : entriesOf kernel frames' = entriesOf kernel frames)
    (ordered : frames'.Pairwise fun inner outer => inner.frame < outer.frame)
    (address : ∀ frame ∈ frames', frame.retAddr ≠ 0 ∧ frame.retAddr ≠ kernel.trampoline)
    (slots : ∀ frame ∈ frames', after.stack tsk frame.frame =
      slot kernel frame.retAddr frame.hooks)
    (handlers : ∀ prhtn, Entry machine tsk prhtn →
      List.Forall₂ (Handles prhtn) (after.handlers tsk)
        (frames'.filter fun frame => frame.handling.isSome))
    (idle : nodesOf frames = [] → after.handlers tsk = [] ∧
      ∀ frame ∈ frames', frame.handling = none) :
    TaskHolds kernel after tsk frames' where
  ordered := ordered
  address := address
  slots := slots
  distinct := nodes ▸ task.distinct
  used node member := by
    rw [quiet.used]
    exact task.used node (nodes ▸ member)
  absent none prhtn entry := by
    unfold Entry at entry
    rw [quiet.taskNodes] at entry
    exact task.absent (nodes ▸ none) prhtn entry
  listed some := by
    unfold Listed
    rw [quiet.taskNodes, quiet.nodes, entries]
    exact task.listed (nodes ▸ some)
  handlers prhtn entry := by
    unfold Entry at entry
    rw [quiet.taskNodes] at entry
    exact handlers prhtn entry
  idle none := idle (nodes ▸ none)

@[simp] theorem wp_observe {observation : Observation} {done : Unit → Machine → Prop}
    {stopped : Fault → Machine → Prop} :
    wp (observe observation) done stopped machine ↔
      done () { machine with trace := machine.trace ++ [observation] } := Iff.rfl

@[simp] theorem wp_setStack {frame word : Nat} {done : Unit → Machine → Prop}
    {stopped : Fault → Machine → Prop} :
    wp (setStack tsk frame word) done stopped machine ↔
      done () { machine with
        stack := Function.update machine.stack tsk
          (Function.update (machine.stack tsk) frame word) } := Iff.rfl

@[simp] theorem wp_setHandlers {handlers : List Handler} {done : Unit → Machine → Prop}
    {stopped : Fault → Machine → Prop} :
    wp (setHandlers tsk handlers) done stopped machine ↔
      done () { machine with handlers := Function.update machine.handlers tsk handlers } := Iff.rfl

@[simp] theorem wp_setNode {cell : Cell RhNode} {done : Unit → Machine → Prop}
    {stopped : Fault → Machine → Prop} :
    wp (setNode node cell) done stopped machine ↔
      done () { machine with nodes := Function.update machine.nodes node (some cell) } := Iff.rfl

@[simp] theorem wp_setTaskNode {entry : RhTaskNode} {done : Unit → Machine → Prop}
    {stopped : Fault → Machine → Prop} :
    wp (setTaskNode prhtn entry) done stopped machine ↔
      done () { machine with
        taskNodes := Function.update machine.taskNodes prhtn (some entry) } := Iff.rfl

/-- A function is called. -/
theorem enter_steps {frame retAddr : Nat} (holds : Kept kernel ⟨machine, shadow⟩)
    (address : retAddr ≠ 0 ∧ retAddr ≠ kernel.trampoline)
    (below : ∀ top ∈ (shadow.frames tsk).head?, frame < top.frame) :
    Stepped kernel tsk (shadow.frames tsk) (⟨frame, retAddr, [], none⟩ :: shadow.frames tsk) []
      machine { machine with
        stack := Function.update machine.stack tsk
          (Function.update (machine.stack tsk) frame retAddr) } := by
  have task := holds.tasks tsk
  change TaskHolds kernel machine tsk (shadow.frames tsk) at task
  have lower : ∀ outer ∈ shadow.frames tsk, frame < outer.frame := by
    have ordered := task.ordered
    cases found : shadow.frames tsk with
    | nil => simp
    | cons top rest =>
        rw [found] at ordered below
        have first := below top rfl
        intro outer member
        rcases List.mem_cons.mp member with same | later
        · exact same ▸ first
        · exact Nat.lt_trans first (List.rel_of_pairwise_cons ordered later)
  have quiet : Quiet tsk [] machine { machine with
      stack := Function.update machine.stack tsk
        (Function.update (machine.stack tsk) frame retAddr) } :=
    ⟨fun other different => Function.update_of_ne different .., fun _ _ => rfl, rfl, rfl, rfl, rfl,
      (List.append_nil _).symm⟩
  refine quiet.stepped holds rfl (task.replace quiet rfl rfl ?_ ?_ ?_ ?_ ?_)
  · exact List.pairwise_cons.mpr ⟨lower, task.ordered⟩
  · intro outer member
    rcases List.mem_cons.mp member with same | later
    · subst same
      exact address
    · exact task.address outer later
  · intro outer member
    dsimp only
    rw [Function.update_self]
    rcases List.mem_cons.mp member with same | later
    · subst same
      rw [Function.update_self]
      rfl
    · rw [Function.update_of_ne (Nat.ne_of_gt (lower outer later))]
      exact task.slots outer later
  · intro prhtn entry
    exact task.handlers prhtn entry
  · intro none
    obtain ⟨empty, idle⟩ := task.idle none
    refine ⟨empty, fun outer member => ?_⟩
    rcases List.mem_cons.mp member with same | later
    · subst same
      rfl
    · exact idle outer later

/-- A function returns whose frame has no hook. -/
theorem leave_steps (holds : Kept kernel ⟨machine, shadow⟩)
    (found : shadow.frames tsk = top :: rest) (idle : top.handling = none)
    (unhooked : top.hooks = []) :
    wp (returnFrom kernel tsk top.frame)
      (fun _ after => Stepped kernel tsk (shadow.frames tsk) rest [.returned tsk top.retAddr]
        machine after)
      (fun _ _ => False) machine := by
  have task := holds.tasks tsk
  change TaskHolds kernel machine tsk (shadow.frames tsk) at task
  rw [found] at task ⊢
  have word : machine.stack tsk top.frame = top.retAddr := by
    rw [task.slots top List.mem_cons_self, unhooked]
    rfl
  unfold returnFrom
  rw [wp_bind, wp_read, wp_ite, word, if_neg (task.address top List.mem_cons_self).2, wp_observe]
  have quiet : Quiet tsk [.returned tsk top.retAddr] machine
      { machine with trace := machine.trace ++ [.returned tsk top.retAddr] } :=
    ⟨fun _ _ => rfl, fun _ _ => rfl, rfl, rfl, rfl, rfl, rfl⟩
  have nodes : nodesOf rest = nodesOf (top :: rest) := by
    simp only [nodesOf, List.flatMap_cons, unhooked, List.map_nil, List.nil_append]
  have entries : entriesOf kernel rest = entriesOf kernel (top :: rest) := by
    simp only [entriesOf, List.flatMap_cons, Frame.entries, unhooked, hookEntries, List.nil_append]
  refine quiet.stepped holds nodes (task.replace quiet nodes entries ?_ ?_ ?_ ?_ ?_)
  · exact (List.pairwise_cons.mp task.ordered).2
  · exact fun frame member => task.address frame (List.mem_cons_of_mem _ member)
  · exact fun frame member => task.slots frame (List.mem_cons_of_mem _ member)
  · intro prhtn entry
    have before := task.handlers prhtn entry
    rw [List.filter_cons_of_neg (by simp [idle])] at before
    exact before
  · intro none
    obtain ⟨empty, idle⟩ := task.idle none
    exact ⟨empty, fun frame member => idle frame (List.mem_cons_of_mem _ member)⟩

/-- The first node from the top that saved another address than the trampoline is the oldest
of the frame. -/
theorem findRetAddrFrom_spec {frame retAddr fuel : Nat} {hooks : List Hook} {first : Option Nat}
    {tail : List (Nat × RhNode)}
    (linked : Linked machine.nodes first (hookEntries kernel frame retAddr hooks ++ tail))
    (hooked : hooks ≠ []) (address : retAddr ≠ kernel.trampoline) (enough : hooks.length ≤ fuel) :
    wp (findRetAddrFrom kernel fuel first)
      (fun result after => after = machine ∧ ∃ node, result = some (node, retAddr) ∧
        hooks.getLast?.map Hook.node = some node)
      (fun _ _ => False) machine := by
  induction hooks generalizing first fuel with
  | nil => exact absurd rfl hooked
  | cons hook older ih =>
      obtain ⟨here, next, cell, linked⟩ := linked
      subst here
      cases fuel with
      | zero => simp at enough
      | succ fuel =>
          unfold findRetAddrFrom
          rw [wp_bind, wp_nodeAt, cell]
          dsimp only
          rw [wp_ite]
          cases older with
          | nil => exact (if_pos address).symm ▸ ⟨rfl, hook.node, rfl, rfl⟩
          | cons older rest =>
              have masked : slot kernel retAddr (older :: rest) = kernel.trampoline := rfl
              rw [if_neg (fun differs => differs masked)]
              refine wp_mono (ih linked (List.cons_ne_nil _ _) ?_) ?_ fun _ _ => id
              · simp only [List.length_cons] at enough ⊢
                omega
              · intro result after answer
                rw [List.getLast?_cons_cons]
                exact answer

theorem TaskHolds.length_le (task : TaskHolds kernel machine tsk (top :: rest)) :
    top.hooks.length ≤ machine.used.length := by
  have all := (List.subperm_of_subset task.distinct task.used).length_le
  simp only [nodesOf, List.flatMap_cons, List.length_append, List.length_map] at all
  omega

theorem nodesOf_ne_nil (hooked : top.hooks ≠ []) : nodesOf (top :: rest) ≠ [] := by
  simp [nodesOf, hooked]

/-- The innermost frame is at another hook, or begins to return. -/
theorem TaskHolds.turn {after : Machine} {handling : Handling}
    (task : TaskHolds kernel machine tsk (top :: rest)) (quiet : Quiet tsk seen machine after)
    (stack : after.stack tsk = machine.stack tsk) (hooked : top.hooks ≠ [])
    (handlers : ∀ prhtn, Entry machine tsk prhtn →
      List.Forall₂ (Handles prhtn) (after.handlers tsk)
        ({ top with handling := some handling } ::
          rest.filter fun frame => frame.handling.isSome)) :
    TaskHolds kernel after tsk ({ top with handling := some handling } :: rest) := by
  refine task.replace quiet rfl rfl ?_ ?_ ?_ ?_ ?_
  · exact List.pairwise_cons.mpr (List.pairwise_cons.mp task.ordered)
  · intro frame member
    rcases List.mem_cons.mp member with same | later
    · subst same
      exact task.address top List.mem_cons_self
    · exact task.address frame (List.mem_cons_of_mem _ later)
  · intro frame member
    rw [stack]
    rcases List.mem_cons.mp member with same | later
    · subst same
      exact task.slots top List.mem_cons_self
    · exact task.slots frame (List.mem_cons_of_mem _ later)
  · intro prhtn entry
    rw [List.filter_cons_of_pos rfl]
    exact handlers prhtn entry
  · exact fun none => absurd none (nodesOf_ne_nil hooked)

theorem Handles.hooked {handler : Handler} (handles : Handles prhtn handler top) :
    top.hooks ≠ [] := by
  intro empty
  have last := handles.node
  rw [empty] at last
  contradiction

theorem Kept.turn {after : Machine} {handling : Handling} {handler : Handler}
    {outer : List Handler} (holds : Kept kernel ⟨machine, shadow⟩)
    (found : shadow.frames tsk = top :: rest) (entry : Entry machine tsk prhtn)
    (quiet : Quiet tsk seen machine after) (stack : after.stack tsk = machine.stack tsk)
    (handlers : after.handlers tsk = handler :: outer)
    (handles : Handles prhtn handler { top with handling := some handling })
    (later : List.Forall₂ (Handles prhtn) outer
      (rest.filter fun frame => frame.handling.isSome)) :
    Stepped kernel tsk (shadow.frames tsk) ({ top with handling := some handling } :: rest) seen
      machine after := by
  have task := holds.tasks tsk
  change TaskHolds kernel machine tsk (shadow.frames tsk) at task
  rw [found] at task ⊢
  refine quiet.stepped holds rfl (task.turn quiet stack handles.hooked fun prhtn' entry' => ?_)
  have same := holds.table.unique tsk prhtn' prhtn entry' entry
  subst same
  rw [handlers]
  exact .cons handles later

/-- A function returns whose frame is hooked, to the trampoline. -/
theorem begin_steps (holds : Kept kernel ⟨machine, shadow⟩)
    (found : shadow.frames tsk = top :: rest) (idle : top.handling = none)
    (hooked : top.hooks ≠ []) :
    wp (returnFrom kernel tsk top.frame)
      (fun _ after => Stepped kernel tsk (shadow.frames tsk)
        ({ top with handling := some ⟨none, top.hooks⟩ } :: rest) [] machine after)
      (fun _ _ => False) machine := by
  have task := holds.tasks tsk
  change TaskHolds kernel machine tsk (shadow.frames tsk) at task
  rw [found] at task ⊢
  have address := task.address top List.mem_cons_self
  have word : machine.stack tsk top.frame = kernel.trampoline := by
    rw [task.slots top List.mem_cons_self]
    exact if_neg hooked
  obtain ⟨prhtn, first, stored, linked⟩ := task.listed (nodesOf_ne_nil hooked)
  have entry : Entry machine tsk prhtn := ⟨first, stored⟩
  unfold returnFrom
  rw [wp_bind, wp_read, wp_ite, if_pos word]
  unfold beginHandler preemptRethookFindRetAddr
  rw [wp_bind, wp_bind]
  refine find_entry holds.table entry ?_
  dsimp only
  rw [wp_bind, wp_taskNodeAt, stored]
  dsimp only
  rw [wp_bind, wp_read]
  refine wp_mono (findRetAddrFrom_spec linked hooked address.2 task.length_le) ?_
    fun _ _ => False.elim
  intro result after answer
  obtain ⟨same, oldest, answer, last⟩ := answer
  subst same answer
  dsimp only
  rw [wp_ite, if_neg address.1, wp_bind]
  refine find_entry holds.table entry ?_
  dsimp only
  rw [wp_bind, wp_taskNodeAt, stored]
  dsimp only
  rw [wp_bind, wp_read, wp_setHandlers]
  obtain ⟨hook, older, hooks⟩ := List.exists_cons_of_ne_nil hooked
  have start : first = some hook.node := by
    rw [entriesOf, List.flatMap_cons, Frame.entries, hooks] at linked
    exact linked.1
  subst start
  have quiet : Quiet tsk [] after { after with
      handlers := Function.update after.handlers tsk
        ((Handler.continue ⟨top.frame, top.retAddr, oldest, prhtn, none, .unlink⟩
          (some hook.node)) :: after.handlers tsk) } :=
    ⟨fun _ _ => rfl, fun other different => Function.update_of_ne different .., rfl, rfl, rfl, rfl,
      (List.append_nil _).symm⟩
  have before := task.handlers prhtn entry
  rw [List.filter_cons_of_neg (by simp [idle])] at before
  have handles : Handles prhtn
      (Handler.continue ⟨top.frame, top.retAddr, oldest, prhtn, none, .unlink⟩ (some hook.node))
      { top with handling := some ⟨none, top.hooks⟩ } := by
    refine ⟨rfl, rfl, rfl, last, _, [], rfl, ?_⟩
    rw [hooks]
    exact ⟨rfl, rfl, rfl⟩
  have stepped := holds.turn found entry quiet rfl (Function.update_self ..) handles before
  rw [found] at stepped
  exact stepped

/-- The innermost handler, when it is at this point. -/
theorem wp_innermost {point : Point} {handler : Handler} {outer : List Handler}
    (found : machine.handlers tsk = handler :: outer) (here : handler.point = point)
    {done : Handler × List Handler → Machine → Prop} {stopped : Fault → Machine → Prop} :
    wp (innermost tsk point) done stopped machine ↔ done (handler, outer) machine := by
  unfold innermost
  rw [wp_bind, wp_read, found]
  dsimp only
  rw [wp_ite, if_pos here]
  rfl

/-- The handler of a frame that returns, and its task node. -/
theorem TaskHolds.returning (task : TaskHolds kernel machine tsk (top :: rest))
    (hooked : top.hooks ≠ []) (returns : top.handling.isSome = true) :
    ∃ prhtn handler outer, Listed machine tsk prhtn (entriesOf kernel (top :: rest)) ∧
      machine.handlers tsk = handler :: outer ∧ Handles prhtn handler top ∧
      List.Forall₂ (Handles prhtn) outer (rest.filter fun frame => frame.handling.isSome) := by
  obtain ⟨prhtn, listed⟩ := task.listed (nodesOf_ne_nil hooked)
  obtain ⟨first, stored, _⟩ := id listed
  have handlers := task.handlers prhtn ⟨first, stored⟩
  rw [List.filter_cons, if_pos returns] at handlers
  cases found : machine.handlers tsk with
  | nil =>
      rw [found] at handlers
      cases handlers
  | cons handler outer =>
      rw [found] at handlers
      cases handlers with
      | cons here later => exact ⟨prhtn, handler, outer, listed, rfl, here, later⟩

/-- The node of a hook of the innermost frame, and what follows it. -/
theorem Listed.cell {done todo : List Hook}
    (listed : Listed machine tsk prhtn (entriesOf kernel (top :: rest)))
    (hooks : top.hooks = done ++ hook :: todo) :
    ∃ next, machine.nodes hook.node =
        some ⟨next, hook.postHook, slot kernel top.retAddr todo, top.frame, hook.data⟩ ∧
      Linked machine.nodes next
        (hookEntries kernel top.frame top.retAddr todo ++ entriesOf kernel rest) := by
  obtain ⟨first, _, linked⟩ := listed
  obtain ⟨before, same, _⟩ := hookEntries_split kernel top.frame top.retAddr done todo hook
  rw [entriesOf, List.flatMap_cons, Frame.entries, hooks, same, List.append_assoc] at linked
  exact linked.after

/-- A post hook of the innermost frame is called. -/
theorem call_steps {todo : List Hook} (holds : Kept kernel ⟨machine, shadow⟩)
    (found : shadow.frames tsk = top :: rest) (returns : top.handling = some ⟨none, hook :: todo⟩)
    (hooked : top.hooks ≠ []) :
    wp (callPostHook tsk)
      (fun _ after => Stepped kernel tsk (shadow.frames tsk)
        ({ top with handling := some ⟨some hook, todo⟩ } :: rest) (hook.ran tsk top.retAddr)
        machine after)
      (fun _ _ => False) machine := by
  have task := holds.tasks tsk
  change TaskHolds kernel machine tsk (shadow.frames tsk) at task
  rw [found] at task
  have active : top.handling.isSome = true := by rw [returns]; rfl
  obtain ⟨prhtn, handler, outer, listed, handlers, handles, later⟩ := task.returning hooked active
  obtain ⟨frame, retAddr, oldest, prhtn', current, point⟩ := handler
  obtain ⟨sameFrame, sameRetAddr, samePrhtn, last, handling, done, same, place⟩ := handles
  rw [returns] at same
  cases same
  obtain ⟨hooks, samePoint, sameFirst⟩ := place
  dsimp only at sameFrame sameRetAddr samePrhtn last samePoint sameFirst
  subst sameFrame sameRetAddr samePrhtn samePoint sameFirst
  obtain ⟨next, cell, _⟩ := listed.cell hooks
  unfold callPostHook
  rw [wp_bind, wp_innermost handlers rfl]
  dsimp only
  rw [wp_bind, wp_nodeAt, cell]
  dsimp only
  rw [wp_ite, if_neg (fun differs => differs rfl), wp_bind, wp_setHandlers]
  have turn : ∀ after : Machine, Quiet tsk (hook.ran tsk top.retAddr) machine after →
      after.stack tsk = machine.stack tsk →
      after.handlers tsk =
        ⟨top.frame, top.retAddr, oldest, prhtn', some hook.node, .postHook⟩ :: outer →
      Stepped kernel tsk (shadow.frames tsk)
        ({ top with handling := some ⟨some hook, todo⟩ } :: rest) (hook.ran tsk top.retAddr)
        machine after := by
    intro after quiet stack handlers'
    obtain ⟨_, stored, _⟩ := listed
    exact holds.turn found ⟨_, stored⟩ quiet stack handlers'
      ⟨rfl, rfl, rfl, last, _, done, rfl, hooks, rfl, rfl⟩ later
  unfold Hook.ran at turn ⊢
  cases post : hook.postHook with
  | none =>
      rw [post] at turn
      refine turn _ ⟨fun _ _ => rfl, fun other different => ?_, rfl, rfl, rfl, rfl,
        (List.append_nil _).symm⟩ rfl ?_
      · exact Function.update_of_ne different _ machine.handlers
      · exact Function.update_self tsk _ machine.handlers
  | some postHook =>
      rw [post] at turn
      dsimp only at turn ⊢
      rw [wp_observe]
      refine turn _ ⟨fun _ _ => rfl, fun other different => ?_, rfl, rfl, rfl, rfl, rfl⟩ rfl ?_
      · exact Function.update_of_ne different _ machine.handlers
      · exact Function.update_self tsk _ machine.handlers

/-- A post hook of the innermost frame returns. -/
theorem returns_steps {todo : List Hook} (holds : Kept kernel ⟨machine, shadow⟩)
    (found : shadow.frames tsk = top :: rest)
    (returns : top.handling = some ⟨some hook, todo⟩) (hooked : top.hooks ≠ []) :
    wp (postHookReturns tsk)
      (fun _ after => Stepped kernel tsk (shadow.frames tsk)
        ({ top with handling := some ⟨none, todo⟩ } :: rest) [] machine after)
      (fun _ _ => False) machine := by
  have task := holds.tasks tsk
  change TaskHolds kernel machine tsk (shadow.frames tsk) at task
  rw [found] at task
  have active : top.handling.isSome = true := by rw [returns]; rfl
  obtain ⟨prhtn, handler, outer, listed, handlers, handles, later⟩ := task.returning hooked active
  obtain ⟨frame, retAddr, oldest, prhtn', current, point⟩ := handler
  obtain ⟨sameFrame, sameRetAddr, samePrhtn, last, handling, done, same, place⟩ := handles
  rw [returns] at same
  cases same
  obtain ⟨hooks, samePoint, sameFirst⟩ := place
  dsimp only at sameFrame sameRetAddr samePrhtn last samePoint sameFirst
  subst sameFrame sameRetAddr samePrhtn samePoint sameFirst
  obtain ⟨_, stored, _⟩ := id listed
  have quiet : ∀ handler : Handler, Quiet tsk [] machine
      { machine with handlers := Function.update machine.handlers tsk (handler :: outer) } :=
    fun handler => ⟨fun _ _ => rfl,
      fun other different => Function.update_of_ne different _ machine.handlers, rfl, rfl, rfl, rfl,
      (List.append_nil _).symm⟩
  unfold postHookReturns
  rw [wp_bind, wp_innermost handlers rfl]
  dsimp only
  rw [wp_ite]
  cases todo with
  | nil =>
      have final : hook.node = oldest := by
        rw [hooks, List.getLast?_append_cons] at last
        exact Option.some.inj last
      rw [if_pos final, wp_setHandlers]
      exact holds.turn found ⟨_, stored⟩ (quiet _) rfl (Function.update_self tsk _ machine.handlers)
        ⟨rfl, rfl, rfl, last, _, [], rfl, rfl⟩ later
  | cons next todo =>
      obtain ⟨link, cell, linked⟩ := listed.cell hooks
      obtain ⟨here, _⟩ := linked
      have more : hook.node ≠ oldest := by
        intro final
        have distinct := task.distinct
        rw [nodesOf, List.flatMap_cons, hooks, List.map_append, List.append_assoc] at distinct
        have suffix := (List.nodup_append.mp distinct).2.1
        rw [List.map_cons, List.cons_append] at suffix
        have apart := (List.nodup_cons.mp suffix).1
        apply apart
        obtain ⟨oldestHook, isLast, node⟩ := Option.map_eq_some_iff.mp last
        rw [hooks, List.getLast?_append_cons, List.getLast?_cons_cons] at isLast
        rw [final, ← node]
        exact List.mem_append_left _ (List.mem_map_of_mem (List.mem_of_getLast? isLast))
      rw [if_neg more, wp_bind, wp_nodeAt, cell]
      dsimp only
      rw [wp_setHandlers]
      subst here
      refine holds.turn found ⟨_, stored⟩ (quiet _) rfl
        (Function.update_self tsk _ machine.handlers) ?_ later
      refine ⟨rfl, rfl, rfl, last, _, done ++ [hook], rfl, ?_, rfl, rfl⟩
      rw [List.append_assoc]
      exact hooks

theorem hasEntry_iff : machine.HasEntry kernel tsk ↔
    ∃ prhtn ∈ machine.table (kernel.hash tsk), Entry machine tsk prhtn := by
  refine exists_congr fun prhtn => and_congr_right fun _ => ?_
  unfold Entry
  constructor
  · intro found
    obtain ⟨⟨owner, first⟩, stored, same⟩ := (Option.any_eq_true _ _).mp found
    have mine : owner = tsk := of_decide_eq_true same
    exact ⟨first, mine ▸ stored⟩
  · intro found
    obtain ⟨first, stored⟩ := found
    rw [stored]
    exact decide_eq_true rfl

/-- The task has a task node, whose list starts where it did or is empty. -/
structure Prepared (kernel : Kernel) (tsk prhtn : Nat) (first : Option Nat)
    (before after : Machine) : Prop where
  same : ∃ taskNodes table, after = { before with taskNodes, table }
  table : TableHolds kernel after
  entry : after.taskNodes prhtn = some ⟨tsk, first⟩
  others : ∀ other, other ≠ tsk → ∀ prhtn first, after.taskNodes prhtn = some ⟨other, first⟩ ↔
    before.taskNodes prhtn = some ⟨other, first⟩
  start : before.taskNodes prhtn = some ⟨tsk, first⟩ ∨
    first = none ∧ ∀ prhtn, ¬ Entry before tsk prhtn

/-- `hash_add` of a new task node. -/
theorem TableHolds.add (table : TableHolds kernel machine) (free : machine.taskNodes prhtn = none)
    (absent : ∀ prhtn, ¬ Entry machine tsk prhtn) :
    Prepared kernel tsk prhtn none machine
      { machine with
        taskNodes := Function.update machine.taskNodes prhtn (some ⟨tsk, none⟩)
        table := Function.update machine.table (kernel.hash tsk)
          (prhtn :: machine.table (kernel.hash tsk)) } := by
  have unlisted : ∀ bucket, prhtn ∉ machine.table bucket := by
    intro bucket member
    obtain ⟨_, ⟨_, stored⟩, _⟩ := (table.listed bucket prhtn).mp member
    rw [free] at stored
    contradiction
  have entry : ∀ owner other, Entry { machine with
      taskNodes := Function.update machine.taskNodes prhtn (some ⟨tsk, none⟩)
      table := Function.update machine.table (kernel.hash tsk)
        (prhtn :: machine.table (kernel.hash tsk)) } owner other ↔
      (other = prhtn ∧ owner = tsk) ∨ (other ≠ prhtn ∧ Entry machine owner other) := by
    intro owner other
    unfold Entry
    dsimp only
    by_cases same : other = prhtn
    · subst same
      rw [Function.update_self]
      simp [eq_comm]
    · rw [Function.update_of_ne same]
      simp [same]
  have others : ∀ {owner other}, Entry machine owner other → other ≠ prhtn := by
    intro owner other owned same
    obtain ⟨_, stored⟩ := owned
    rw [same, free] at stored
    contradiction
  refine ⟨⟨_, _, rfl⟩, ⟨fun bucket other => ?_, fun bucket => ?_, ?_⟩, Function.update_self ..,
    fun owner different other first => ?_, .inr ⟨rfl, absent⟩⟩
  · simp only [entry]
    by_cases here : bucket = kernel.hash tsk
    · subst here
      rw [Function.update_self, List.mem_cons, table.listed]
      constructor
      · rintro (same | ⟨owner, owned, bucket⟩)
        · exact ⟨tsk, .inl ⟨same, rfl⟩, rfl⟩
        · exact ⟨owner, .inr ⟨others owned, owned⟩, bucket⟩
      · rintro ⟨owner, ⟨same, _⟩ | ⟨_, owned⟩, bucket⟩
        · exact .inl same
        · exact .inr ⟨owner, owned, bucket⟩
    · rw [Function.update_of_ne here, table.listed]
      constructor
      · rintro ⟨owner, owned, bucket⟩
        exact ⟨owner, .inr ⟨others owned, owned⟩, bucket⟩
      · rintro ⟨owner, ⟨_, same⟩ | ⟨_, owned⟩, bucket⟩
        · exact absurd (same ▸ bucket.symm) here
        · exact ⟨owner, owned, bucket⟩
  · by_cases here : bucket = kernel.hash tsk
    · subst here
      dsimp only
      rw [Function.update_self]
      exact List.nodup_cons.mpr ⟨unlisted _, table.nodup _⟩
    · dsimp only
      rw [Function.update_of_ne here]
      exact table.nodup bucket
  · intro owner left right leftEntry rightEntry
    rcases (entry _ _).mp leftEntry with ⟨leftSame, leftOwner⟩ | ⟨_, leftOld⟩
    · rcases (entry _ _).mp rightEntry with ⟨rightSame, _⟩ | ⟨_, rightOld⟩
      · rw [leftSame, rightSame]
      · exact absurd (leftOwner ▸ rightOld) (absent right)
    · rcases (entry _ _).mp rightEntry with ⟨_, rightOwner⟩ | ⟨_, rightOld⟩
      · exact absurd (rightOwner ▸ leftOld) (absent left)
      · exact table.unique owner left right leftOld rightOld
  · dsimp only
    by_cases same : other = prhtn
    · subst same
      rw [Function.update_self, free]
      simp [Ne.symm different]
    · rw [Function.update_of_ne same]

theorem findOrAddTaskNode_spec {allocs : Allocations} (table : TableHolds kernel machine)
    (available : match allocs.taskNode with
      | none => machine.HasEntry kernel tsk
      | some prhtn => machine.taskNodes prhtn = none) :
    wp (findOrAddTaskNode kernel tsk allocs)
      (fun result after => ∃ prhtn first, result = some prhtn ∧
        Prepared kernel tsk prhtn first machine after)
      (fun _ _ => False) machine := by
  unfold findOrAddTaskNode
  rw [wp_bind]
  refine wp_mono (preemptRhTaskNodeFind_spec table tsk) ?_ fun _ _ => id
  rintro (_ | prhtn) after ⟨same, answer⟩
  · subst same
    dsimp only
    cases given : allocs.taskNode with
    | none =>
        rw [given] at available
        obtain ⟨prhtn, _, entry⟩ := hasEntry_iff.mp available
        exact absurd entry (answer prhtn)
    | some prhtn =>
        rw [given] at available
        dsimp only
        rw [wp_bind, wp_setTaskNode, wp_bind, wp_update]
        exact ⟨prhtn, none, rfl, table.add available answer⟩
  · subst same
    obtain ⟨first, stored⟩ := answer
    exact ⟨prhtn, first, rfl, ⟨_, _, rfl⟩, table, stored, fun _ _ _ _ => Iff.rfl, .inl stored⟩

/-- A task node keeps its task when its list changes. -/
theorem entry_of_first {first first' : Option Nat}
    (stored : machine.taskNodes prhtn = some ⟨tsk, first⟩) (owner other : Nat) :
    (∃ link, Function.update machine.taskNodes prhtn (some ⟨tsk, first'⟩) other =
      some ⟨owner, link⟩) ↔ Entry machine owner other := by
  unfold Entry
  by_cases same : other = prhtn
  · subst same
    rw [Function.update_self, stored]
    simp
  · rw [Function.update_of_ne same]

theorem others_of_first {taskNodes : Nat → Option RhTaskNode} {first : Option Nat}
    (stored : taskNodes prhtn = some ⟨tsk, first⟩) (first' : Option Nat) {owner : Nat}
    (different : owner ≠ tsk) (other : Nat) (link : Option Nat) :
    Function.update taskNodes prhtn (some ⟨tsk, first'⟩) other = some ⟨owner, link⟩ ↔
      taskNodes other = some ⟨owner, link⟩ := by
  by_cases same : other = prhtn
  · subst same
    rw [Function.update_self, stored]
    simp [Ne.symm different]
  · rw [Function.update_of_ne same]

/-- The list of a prepared task. -/
theorem Prepared.linked {first : Option Nat} {prepared : Machine}
    (ready : Prepared kernel tsk prhtn first machine prepared)
    (table : TableHolds kernel machine) (task : TaskHolds kernel machine tsk frames) :
    Linked machine.nodes first (entriesOf kernel frames) := by
  rcases ready.start with stored | ⟨empty, absent⟩
  · by_cases none : nodesOf frames = []
    · exact absurd ⟨first, stored⟩ (task.absent none prhtn)
    · obtain ⟨prhtn', first', stored', linked⟩ := task.listed none
      have same := table.unique tsk prhtn' prhtn ⟨first', stored'⟩ ⟨first, stored⟩
      subst same
      rw [stored] at stored'
      cases stored'
      exact linked
  · by_cases none : nodesOf frames = []
    · have nothing : entriesOf kernel frames = [] := by
        have nodes := entriesOf_nodes kernel frames
        rw [none] at nodes
        exact List.map_eq_nil_iff.mp nodes
      rw [nothing]
      exact empty
    · obtain ⟨prhtn', first', stored', _⟩ := task.listed none
      exact absurd ⟨first', stored'⟩ (absent prhtn')

theorem Prepared.handlers {first : Option Nat} {prepared : Machine} {other : Nat}
    (ready : Prepared kernel tsk prhtn first machine prepared)
    (task : TaskHolds kernel machine tsk frames) (entry : Entry prepared tsk other) :
    List.Forall₂ (Handles other) (machine.handlers tsk)
      (frames.filter fun frame => frame.handling.isSome) := by
  have same := ready.table.unique tsk other prhtn entry ⟨first, ready.entry⟩
  subst same
  rcases ready.start with stored | ⟨_, absent⟩
  · exact task.handlers other ⟨first, stored⟩
  · by_cases none : nodesOf frames = []
    · obtain ⟨empty, idle⟩ := task.idle none
      have nothing : (frames.filter fun frame => frame.handling.isSome) = [] := by
        refine List.filter_eq_nil_iff.mpr fun frame member => ?_
        rw [idle frame member]
        simp
      rw [empty, nothing]
      exact .nil
    · obtain ⟨prhtn', first', stored', _⟩ := task.listed none
      exact absurd ⟨first', stored'⟩ (absent prhtn')

/-- The node of a new hook is linked in, over the trampoline. -/
theorem Prepared.hooked {taskNodes : Nat → Option RhTaskNode} {buckets : Nat → List Nat}
    {first postHook : Option Nat} {data : Option (List Nat)}
    (holds : Kept kernel ⟨machine, shadow⟩) (task : TaskHolds kernel machine tsk (top :: rest))
    (idle : top.handling = none)
    (ready : Prepared kernel tsk prhtn first machine { machine with taskNodes, table := buckets })
    (fresh : node ∉ machine.used) :
    Stepped kernel tsk (top :: rest)
      ({ top with hooks := ⟨node, postHook, data⟩ :: top.hooks } :: rest) [] machine
      { machine with
        stack := Function.update machine.stack tsk
          (Function.update (machine.stack tsk) top.frame kernel.trampoline)
        nodes := Function.update machine.nodes node
          (some ⟨first, postHook, machine.stack tsk top.frame, top.frame, data⟩)
        used := node :: machine.used
        taskNodes := Function.update taskNodes prhtn (some ⟨tsk, some node⟩)
        table := buckets } := by
  have apart : node ∉ nodesOf (top :: rest) := fun member => fresh (task.used node member)
  have ordered := List.pairwise_cons.mp task.ordered
  have linked := (ready.linked holds.table task).push (by rwa [entriesOf_nodes])
    ⟨postHook, machine.stack tsk top.frame, top.frame, data⟩
  have entry := ready.entry
  dsimp only at entry
  have keeps : ∀ owner other, Entry { machine with
      stack := Function.update machine.stack tsk
        (Function.update (machine.stack tsk) top.frame kernel.trampoline)
      nodes := Function.update machine.nodes node
        (some ⟨first, postHook, machine.stack tsk top.frame, top.frame, data⟩)
      used := node :: machine.used
      taskNodes := Function.update taskNodes prhtn (some ⟨tsk, some node⟩)
      table := buckets } owner other ↔
      Entry { machine with taskNodes, table := buckets } owner other :=
    fun owner other => entry_of_first ready.entry owner other
  have task' : TaskHolds kernel { machine with
      stack := Function.update machine.stack tsk
        (Function.update (machine.stack tsk) top.frame kernel.trampoline)
      nodes := Function.update machine.nodes node
        (some ⟨first, postHook, machine.stack tsk top.frame, top.frame, data⟩)
      used := node :: machine.used
      taskNodes := Function.update taskNodes prhtn (some ⟨tsk, some node⟩)
      table := buckets } tsk ({ top with hooks := ⟨node, postHook, data⟩ :: top.hooks } :: rest) := by
    refine ⟨List.pairwise_cons.mpr ordered, fun frame member => ?_, fun frame member => ?_,
      List.nodup_cons.mpr ⟨apart, task.distinct⟩, fun other member => ?_,
      fun none => absurd none (List.cons_ne_nil _ _), fun _ => ?_, fun other entry' => ?_,
      fun none => absurd none (List.cons_ne_nil _ _)⟩
    · rcases List.mem_cons.mp member with same | later
      · subst same
        exact task.address top List.mem_cons_self
      · exact task.address frame (List.mem_cons_of_mem _ later)
    · dsimp only
      rw [Function.update_self]
      rcases List.mem_cons.mp member with same | later
      · subst same
        exact Function.update_self ..
      · rw [Function.update_of_ne (Nat.ne_of_gt (ordered.1 frame later))]
        exact task.slots frame (List.mem_cons_of_mem _ later)
    · rcases List.mem_cons.mp member with same | old
      · exact same ▸ List.mem_cons_self
      · exact List.mem_cons_of_mem _ (task.used other old)
    · refine ⟨prhtn, some node, Function.update_self .., ?_⟩
      rw [task.slots top List.mem_cons_self] at linked ⊢
      exact linked
    · have before := ready.handlers task ((keeps tsk other).mp entry')
      rw [List.filter_cons_of_neg (by simp [idle])] at before ⊢
      exact before
  refine ⟨⟨fun other different => Function.update_of_ne different .., fun _ _ => rfl,
    fun other different prhtn' first' => ?_, fun other member _ => ?_⟩, ready.table.congr keeps rfl,
    task', fun other member => ?_, fun other member => ?_,
    List.nodup_cons.mpr ⟨fresh, holds.usedNodup⟩, fun other => ?_, (List.append_nil _).symm⟩
  · have same := others_of_first entry (some node) different prhtn' first'
    exact same.trans (ready.others other different prhtn' first')
  · have different : other ≠ node := fun same => fresh (same ▸ member)
    exact ⟨Function.update_of_ne different .., List.mem_cons_of_mem _ member⟩
  · rcases List.mem_cons.mp member with same | old
    · exact .inr (same ▸ fresh)
    · exact .inl old
  · rcases List.mem_cons.mp member with same | old
    · exact .inl (same ▸ List.mem_cons_self)
    · by_cases mine : other ∈ nodesOf (top :: rest)
      · exact .inl (List.mem_cons_of_mem _ mine)
      · exact .inr ⟨old, mine⟩
  · dsimp only
    by_cases same : other = node
    · subst same
      simp
    · rw [Function.update_of_ne same, List.mem_cons]
      simp only [same, false_or]
      exact holds.allocated other

/-- The innermost frame is hooked. -/
theorem hook_steps {prh : PreemptRethook} {allocs : Allocations}
    (holds : Kept kernel ⟨machine, shadow⟩) (found : shadow.frames tsk = top :: rest)
    (idle : top.handling = none)
    (available : machine.Allocates kernel (.hook tsk prh top.frame allocs)) :
    wp (exec kernel (.hook tsk prh top.frame allocs))
      (fun _ after => Stepped kernel tsk (shadow.frames tsk)
        ({ top with hooks := prh.hook allocs :: top.hooks } :: rest) [] machine after)
      (fun _ _ => False) machine := by
  have task := holds.tasks tsk
  change TaskHolds kernel machine tsk (shadow.frames tsk) at task
  rw [found] at task ⊢
  obtain ⟨given, data, taskNode⟩ := available
  obtain ⟨node, same, fresh⟩ := (Option.any_eq_true _ _).mp given
  have fresh := of_decide_eq_true fresh
  have newHook : prh.hook allocs = ⟨node, prh.postHook, prh.copied⟩ := by
    unfold PreemptRethook.hook
    rw [same]
    rfl
  have enough : ¬ (prh.dataSize ≠ 0 ∧ allocs.data = false) := by
    rintro ⟨sized, missing⟩
    rcases data with none | given
    · exact sized none
    · rw [given] at missing
      contradiction
  unfold exec preHandlerPreemptRethook preemptRethookTryGet
  rw [wp_bind, wp_bind, same]
  dsimp only
  rw [if_neg enough, wp_bind, wp_setNode, wp_bind, wp_update, wp_pure]
  dsimp only
  rw [wp_bind]
  unfold preemptRethookHook
  rw [wp_bind]
  have table : TableHolds kernel { machine with
      nodes := Function.update machine.nodes node
        (some ⟨none, prh.postHook, 0, 0, prh.copied⟩)
      used := node :: machine.used } := holds.table.congr (fun _ _ => Iff.rfl) rfl
  refine wp_mono (findOrAddTaskNode_spec table taskNode) ?_ fun _ _ => id
  intro result prepared answer
  obtain ⟨prhtn, first, same, ready⟩ := answer
  subst same
  obtain ⟨⟨taskNodes, buckets, same⟩, table', entry, others, start⟩ := ready
  subst same
  have ready : Prepared kernel tsk prhtn first machine
      { machine with taskNodes, table := buckets } :=
    ⟨⟨_, _, rfl⟩, table'.congr (fun _ _ => Iff.rfl) rfl, entry, others, start⟩
  dsimp only at entry ⊢
  unfold preemptRethookPrepare llistAdd
  simp only [wp_bind, wp_read, wp_nodeAt, wp_setNode, wp_setStack, wp_taskNodeAt, wp_setTaskNode,
    Function.update_self, entry, Function.update_idem, wp_pure]
  rw [newHook]
  exact ready.hooked holds task idle fresh

/-- The last loop frees the nodes it runs through. -/
theorem recycleFrom_spec {fuel : Nat} {first : Option Nat} {entries : List (Nat × RhNode)}
    (linked : Linked machine.nodes first entries) (distinct : (entries.map Prod.fst).Nodup)
    (enough : entries.length ≤ fuel) :
    wp (recycleFrom fuel first)
      (fun _ after => after = { machine with
        nodes := fun node => if node ∈ entries.map Prod.fst then none else machine.nodes node
        used := machine.used.diff (entries.map Prod.fst)
        trace := machine.trace ++ (entries.map Prod.fst).map .freed })
      (fun _ _ => False) machine := by
  induction entries generalizing machine first fuel with
  | nil =>
      have stop : first = none := linked
      subst stop
      simp [recycleFrom]
  | cons entry entries ih =>
      obtain ⟨node, value⟩ := entry
      obtain ⟨here, next, cell, linked⟩ := linked
      subst here
      obtain ⟨apart, distinct⟩ := List.nodup_cons.mp distinct
      cases fuel with
      | zero => simp at enough
      | succ fuel =>
          unfold recycleFrom preemptRethookRecycle
          simp only [wp_bind, wp_nodeAt, cell, wp_update, wp_observe]
          refine wp_mono (ih (linked.update apart none) distinct ?_) ?_ fun _ _ => id
          · simp only [List.length_cons] at enough
            omega
          · intro _ after same
            subst same
            congr 1
            · funext other
              rw [List.map_cons]
              by_cases here : other = node
              · subst here
                simp
              · simp only [List.mem_cons, here, false_or, Function.update_of_ne here]
            · rw [List.map_cons, List.diff_cons]
            · exact (List.append_cons machine.trace _ _).symm

/-- What is left of the task nodes when the list of a task goes on from here. -/
structure Released (kernel : Kernel) (tsk prhtn : Nat) (next : Option Nat) (machine : Machine)
    (taskNodes : Nat → Option RhTaskNode) (table : Nat → List Nat) : Prop where
  table : TableHolds kernel { machine with taskNodes, table }
  others : ∀ other, other ≠ tsk → ∀ prhtn first, taskNodes prhtn = some ⟨other, first⟩ ↔
    machine.taskNodes prhtn = some ⟨other, first⟩
  mine : ∀ other first, taskNodes other = some ⟨tsk, first⟩ ↔
    other = prhtn ∧ first = next ∧ next.isSome = true

/-- `hash_del` of a task node. -/
theorem TableHolds.drop (table : TableHolds kernel machine) (entry : Entry machine tsk prhtn) :
    Released kernel tsk prhtn none machine (Function.update machine.taskNodes prhtn none)
      fun bucket => (machine.table bucket).erase prhtn := by
  have entries : ∀ owner other, Entry { machine with
      taskNodes := Function.update machine.taskNodes prhtn none
      table := fun bucket => (machine.table bucket).erase prhtn } owner other ↔
      other ≠ prhtn ∧ Entry machine owner other := by
    intro owner other
    unfold Entry
    dsimp only
    by_cases same : other = prhtn
    · subst same
      simp
    · rw [Function.update_of_ne same]
      simp [same]
  refine ⟨⟨fun bucket other => ?_, fun bucket => (table.nodup bucket).erase prhtn, ?_⟩,
    fun owner different other first => ?_, fun other first => ?_⟩
  · simp only [entries]
    rw [(table.nodup bucket).mem_erase_iff, table.listed]
    constructor
    · rintro ⟨different, owner, owned, bucket⟩
      exact ⟨owner, ⟨different, owned⟩, bucket⟩
    · rintro ⟨owner, ⟨different, owned⟩, bucket⟩
      exact ⟨different, owner, owned, bucket⟩
  · intro owner left right leftEntry rightEntry
    exact table.unique owner left right ((entries _ _).mp leftEntry).2
      ((entries _ _).mp rightEntry).2
  · by_cases same : other = prhtn
    · subst same
      rw [Function.update_self]
      constructor
      · exact nofun
      · intro found
        have owned : Entry machine owner other := ⟨first, found⟩
        exact absurd (owned.tsk_eq entry) different
    · rw [Function.update_of_ne same]
  · by_cases same : other = prhtn
    · subst same
      simp
    · rw [Function.update_of_ne same]
      constructor
      · intro found
        exact absurd (table.unique tsk other prhtn ⟨first, found⟩ entry) same
      · rintro ⟨here, _⟩
        exact absurd here same

theorem TableHolds.shorten {first : Option Nat} {next : Nat} (table : TableHolds kernel machine)
    (stored : machine.taskNodes prhtn = some ⟨tsk, first⟩) :
    Released kernel tsk prhtn (some next) machine
      (Function.update machine.taskNodes prhtn (some ⟨tsk, some next⟩)) machine.table := by
  refine ⟨table.congr (entry_of_first stored) rfl, fun owner different other first' =>
    others_of_first stored _ different other first', fun other first' => ?_⟩
  by_cases same : other = prhtn
  · subst same
    rw [Function.update_self]
    simp [eq_comm]
  · rw [Function.update_of_ne same]
    constructor
    · intro found
      exact absurd (table.unique tsk other prhtn ⟨first', found⟩ ⟨first, stored⟩) same
    · rintro ⟨here, _⟩
      exact absurd here same

/-- A handler belongs to a hooked frame. -/
theorem Handles.none_of_unhooked {handlers : List Handler}
    (all : List.Forall₂ (Handles prhtn) handlers frames)
    (unhooked : ∀ frame ∈ frames, frame.hooks = []) : handlers = [] ∧ frames = [] := by
  cases all with
  | nil => exact ⟨rfl, rfl⟩
  | cons handles _ => exact absurd (unhooked _ List.mem_cons_self) handles.hooked

theorem unhooked_of_nodesOf (none : nodesOf frames = []) (frame : Frame) (member : frame ∈ frames) :
    frame.hooks = [] := by
  have nothing := List.flatMap_eq_nil_iff.mp none frame member
  exact List.map_eq_nil_iff.mp nothing

/-- The innermost frame and its nodes are gone. -/
theorem Released.finished {taskNodes : Nat → Option RhTaskNode} {table : Nat → List Nat}
    {next : Option Nat} {outer : List Handler} {nodes : Nat → Option (Cell RhNode)}
    (holds : Kept kernel ⟨machine, shadow⟩) (task : TaskHolds kernel machine tsk (top :: rest))
    (released : Released kernel tsk prhtn next machine taskNodes table) (linked : Linked machine.nodes next (entriesOf kernel rest))
    (later : List.Forall₂ (Handles prhtn) outer (rest.filter fun frame => frame.handling.isSome))
    (same : ∀ node, node ∉ top.hooks.map Hook.node → nodes node = machine.nodes node) :
    Stepped kernel tsk (top :: rest) rest
      ((top.hooks.map Hook.node).map .freed ++ [.returned tsk top.retAddr]) machine
      { machine with
        stack := Function.update machine.stack tsk
          (Function.update (machine.stack tsk) top.frame top.retAddr)
        nodes := fun node => if node ∈ top.hooks.map Hook.node then none else nodes node
        used := machine.used.diff (top.hooks.map Hook.node)
        taskNodes, table
        handlers := Function.update machine.handlers tsk outer
        trace := machine.trace ++ (top.hooks.map Hook.node).map .freed ++
          [.returned tsk top.retAddr] } := by
  have split : nodesOf (top :: rest) = top.hooks.map Hook.node ++ nodesOf rest := rfl
  have distinct := task.distinct
  rw [split] at distinct
  obtain ⟨_, distinctRest, apart⟩ := List.nodup_append.mp distinct
  have inner : ∀ node ∈ nodesOf rest, node ∉ top.hooks.map Hook.node :=
    fun node member here => apart node here node member rfl
  have kept : ∀ node, node ∈ machine.used.diff (top.hooks.map Hook.node) ↔
      node ∈ machine.used ∧ node ∉ top.hooks.map Hook.node := fun node =>
    holds.usedNodup.mem_sdiff_iff
  have present : nodesOf rest ≠ [] → next.isSome = true := by
    intro some
    cases found : entriesOf kernel rest with
    | nil =>
        have nothing := entriesOf_nodes kernel rest
        rw [found] at nothing
        exact absurd nothing.symm some
    | cons entry entries =>
        rw [found] at linked
        rw [linked.1]
        rfl
  have absent : nodesOf rest = [] → next = none := by
    intro none
    have nothing : entriesOf kernel rest = [] := by
      have nodes := entriesOf_nodes kernel rest
      rw [none] at nodes
      exact List.map_eq_nil_iff.mp nodes
    rw [nothing] at linked
    exact linked
  have ordered := List.pairwise_cons.mp task.ordered
  have mine : ∀ other, (∃ first, taskNodes other = some ⟨tsk, first⟩) →
      other = prhtn ∧ next.isSome = true := by
    intro other found
    obtain ⟨first, stored⟩ := found
    obtain ⟨here, _, some⟩ := (released.mine other first).mp stored
    exact ⟨here, some⟩
  have task' : TaskHolds kernel { machine with
      stack := Function.update machine.stack tsk
        (Function.update (machine.stack tsk) top.frame top.retAddr)
      nodes := fun node => if node ∈ top.hooks.map Hook.node then none else nodes node
      used := machine.used.diff (top.hooks.map Hook.node)
      taskNodes, table
      handlers := Function.update machine.handlers tsk outer
      trace := machine.trace ++ (top.hooks.map Hook.node).map .freed ++
        [.returned tsk top.retAddr] } tsk rest := by
    refine ⟨ordered.2, fun frame member => task.address frame (List.mem_cons_of_mem _ member),
      fun frame member => ?_, distinctRest, fun node member => ?_, fun none other found => ?_,
      fun some => ⟨prhtn, next, ?_, ?_⟩, fun other found => ?_, fun none => ?_⟩
    · dsimp only
      rw [Function.update_self, Function.update_of_ne (Nat.ne_of_gt (ordered.1 frame member))]
      exact task.slots frame (List.mem_cons_of_mem _ member)
    · exact (kept node).mpr ⟨task.used node (List.mem_append_right _ member), inner node member⟩
    · have present := (mine other found).2
      rw [absent none] at present
      contradiction
    · exact (released.mine prhtn next).mpr ⟨rfl, rfl, present some⟩
    · refine linked.of_agree fun node member => ?_
      rw [entriesOf_nodes] at member
      exact (if_neg (inner node member)).trans (same node (inner node member))
    · dsimp only
      rw [Function.update_self, (mine other found).1]
      exact later
    · dsimp only
      rw [Function.update_self]
      obtain ⟨empty, nothing⟩ := Handles.none_of_unhooked later fun frame member =>
        unhooked_of_nodesOf none frame (List.mem_of_mem_filter member)
      refine ⟨empty, fun frame member => ?_⟩
      have idle := List.filter_eq_nil_iff.mp nothing frame member
      simpa using idle
  refine ⟨⟨fun other different => Function.update_of_ne different ..,
    fun other different => Function.update_of_ne different .., released.others,
    fun node member elsewhere => ?_⟩, released.table.congr (fun _ _ => Iff.rfl) rfl, task',
    fun node member => .inl (List.mem_append_right _ member), fun node member => ?_,
    List.Nodup.diff holds.usedNodup, fun node => ?_, List.append_assoc ..⟩
  · have outside : node ∉ top.hooks.map Hook.node := fun here =>
      elsewhere (List.mem_append_left _ here)
    exact ⟨(if_neg outside).trans (same node outside), (kept node).mpr ⟨member, outside⟩⟩
  · obtain ⟨old, outside⟩ := (kept node).mp member
    by_cases here : node ∈ nodesOf rest
    · exact .inl here
    · refine .inr ⟨old, fun elsewhere => ?_⟩
      rcases List.mem_append.mp elsewhere with own | later
      · exact outside own
      · exact here later
  · rw [kept]
    dsimp only
    by_cases own : node ∈ top.hooks.map Hook.node
    · simp [own]
    · rw [if_neg own, same node own]
      simp only [own, not_false_eq_true, and_true]
      exact holds.allocated node

/-- The handler of the innermost frame ends. -/
theorem finish_steps (holds : Kept kernel ⟨machine, shadow⟩)
    (found : shadow.frames tsk = top :: rest) (returns : top.handling = some ⟨none, []⟩)
    (hooked : top.hooks ≠ []) :
    wp (finishHandler tsk)
      (fun _ after => Stepped kernel tsk (shadow.frames tsk) rest
        ((top.hooks.map Hook.node).map .freed ++ [.returned tsk top.retAddr]) machine after)
      (fun _ _ => False) machine := by
  have task := holds.tasks tsk
  change TaskHolds kernel machine tsk (shadow.frames tsk) at task
  rw [found] at task ⊢
  have active : top.handling.isSome = true := by rw [returns]; rfl
  obtain ⟨prhtn, handler, outer, listed, handlers, handles, later⟩ := task.returning hooked active
  obtain ⟨frame, retAddr, oldest, prhtn', current, point⟩ := handler
  obtain ⟨sameFrame, sameRetAddr, samePrhtn, last, handling, done, same, place⟩ := handles
  rw [returns] at same
  cases same
  have samePoint : point = .unlink := place
  dsimp only at sameFrame sameRetAddr samePrhtn last
  subst sameFrame sameRetAddr samePrhtn samePoint
  -- The oldest hook of the frame is the last node that is unlinked.
  obtain ⟨oldestHook, isLast, sameNode⟩ := Option.map_eq_some_iff.mp last
  subst sameNode
  obtain ⟨newer, hooks⟩ := List.getLast?_eq_some_iff.mp isLast
  obtain ⟨next, cell, linkedRest⟩ := listed.cell hooks
  obtain ⟨first, stored, linked⟩ := listed
  obtain ⟨before, entries, nodes⟩ :=
    hookEntries_split kernel top.frame top.retAddr newer [] oldestHook
  have all : before.map Prod.fst ++ [oldestHook.node] = top.hooks.map Hook.node := by
    rw [nodes, hooks, List.map_append]
    rfl
  have distinct := task.distinct
  rw [nodesOf, List.flatMap_cons, ← all] at distinct
  have own := (List.nodup_append.mp distinct).1
  have apart : oldestHook.node ∉ before.map Prod.fst := fun member =>
    (List.nodup_append.mp own).2.2 _ member _ List.mem_cons_self rfl
  rw [entriesOf, List.flatMap_cons, Frame.entries, hooks, entries, List.append_assoc] at linked
  have whole : ∀ value, (before ++ [(oldestHook.node, value)]).map Prod.fst =
      top.hooks.map Hook.node := fun value => by
    rw [List.map_append, List.map_cons, List.map_nil, all]
  have enough : ∀ value, (before ++ [(oldestHook.node, value)]).length ≤ machine.used.length := by
    intro value
    have count := congrArg List.length (whole value)
    rw [List.length_map, List.length_map] at count
    rw [count]
    exact task.length_le
  have distinct' : ∀ value, ((before ++ [(oldestHook.node, value)]).map Prod.fst).Nodup := by
    intro value
    rw [whole, ← all]
    exact own
  have other : ∀ cell node, node ∉ top.hooks.map Hook.node →
      Function.update machine.nodes oldestHook.node cell node = machine.nodes node := by
    intro cell node outside
    refine Function.update_of_ne (fun here => outside ?_) ..
    rw [here, ← all]
    exact List.mem_append_right _ List.mem_cons_self
  unfold finishHandler
  rw [wp_bind, wp_innermost handlers rfl]
  dsimp only
  simp only [wp_bind, wp_setStack, wp_taskNodeAt, stored, wp_nodeAt, cell, wp_setTaskNode,
    wp_setNode, wp_read]
  refine wp_mono (recycleFrom_spec (linked.cut apart) (distinct' _) (enough _)) ?_ fun _ _ => id
  intro _ recycled same
  subst same
  simp only [Function.update_self, whole]
  cases next with
  | none =>
      simp only [Option.isNone_none, wp_when, if_true, dropTaskNode, wp_update, wp_setHandlers,
        wp_observe, Function.update_self, Function.update_idem]
      exact (holds.table.drop ⟨first, stored⟩).finished holds task linkedRest later (other _)
  | some next =>
      simp only [Option.isNone_some, wp_when, Bool.false_eq_true, if_false, wp_setHandlers,
        wp_observe, Function.update_self]
      exact (holds.table.shorten stored).finished holds task linkedRest later (other _)

theorem Shadow.At.innermost {frame : Nat} (here : shadow.At tsk frame) :
    ∃ top rest, shadow.frames tsk = top :: rest ∧ top.frame = frame ∧ top.handling = none := by
  unfold Shadow.At at here
  cases found : shadow.frames tsk with
  | nil =>
      rw [found] at here
      contradiction
  | cons top rest =>
      rw [found] at here
      obtain ⟨same, idle⟩ := of_decide_eq_true here
      exact ⟨top, rest, rfl, same, idle⟩

theorem Shadow.Returns.innermost {meets : Handling → Bool} (here : shadow.Returns tsk meets) :
    ∃ top rest handling, shadow.frames tsk = top :: rest ∧ top.handling = some handling ∧
      meets handling = true := by
  unfold Shadow.Returns at here
  cases found : shadow.frames tsk with
  | nil =>
      rw [found] at here
      contradiction
  | cons top rest =>
      rw [found] at here
      change top.handling.any meets = true at here
      obtain ⟨handling, returns, met⟩ := (Option.any_eq_true _ _).mp here
      exact ⟨top, rest, handling, rfl, returns, met⟩

/-- A frame that returns through the trampoline has a hook. -/
theorem TaskHolds.hooked (task : TaskHolds kernel machine tsk (top :: rest))
    (returns : top.handling.isSome = true) : top.hooks ≠ [] := by
  by_cases none : nodesOf (top :: rest) = []
  · rw [(task.idle none).2 top List.mem_cons_self] at returns
    contradiction
  · obtain ⟨prhtn, first, stored, _⟩ := task.listed none
    have handlers := task.handlers prhtn ⟨first, stored⟩
    rw [List.filter_cons, if_pos returns] at handlers
    generalize machine.handlers tsk = handlers' at handlers
    cases handlers with
    | cons handles _ => exact handles.hooked

/-- Every step the tasks can take is one the code gets through, as the shadow stack says. -/
theorem Kept.step {event : Event} (holds : Kept kernel ⟨machine, shadow⟩)
    (allowed : shadow.Allows kernel event) (available : machine.Allocates kernel event) :
    wp (exec kernel event)
      (fun _ after => ∃ frames seen, shadow.after event = shadow.replace event.tsk frames seen ∧
        Stepped kernel event.tsk (shadow.frames event.tsk) frames seen machine after)
      (fun _ _ => False) machine := by
  have hooked : ∀ {tsk top rest}, shadow.frames tsk = top :: rest → top.handling.isSome = true →
      top.hooks ≠ [] := by
    intro tsk top rest found returns
    have task := holds.tasks tsk
    change TaskHolds kernel machine tsk (shadow.frames tsk) at task
    rw [found] at task
    exact task.hooked returns
  cases event with
  | enter tsk frame retAddr =>
      obtain ⟨address, below⟩ := allowed
      exact ⟨_, _, rfl, enter_steps holds address fun top member => (below top member).1⟩
  | hook tsk prh frame allocs =>
      obtain ⟨top, rest, found, same, idle⟩ := Shadow.At.innermost allowed
      subst same
      refine wp_mono (hook_steps holds found idle available) ?_ fun _ _ => id
      intro _ after stepped
      exact ⟨_, _, by simp only [Shadow.after, found]; rfl, stepped⟩
  | leave tsk frame =>
      obtain ⟨top, rest, found, same, idle⟩ := Shadow.At.innermost allowed
      subst same
      by_cases unhooked : top.hooks = []
      · refine wp_mono (leave_steps holds found idle unhooked) ?_ fun _ _ => id
        intro _ after stepped
        exact ⟨_, _, by simp only [Shadow.after, found, if_pos unhooked]; rfl, stepped⟩
      · refine wp_mono (begin_steps holds found idle unhooked) ?_ fun _ _ => id
        intro _ after stepped
        exact ⟨_, _, by simp only [Shadow.after, found, if_neg unhooked]; rfl, stepped⟩
  | callPostHook tsk =>
      obtain ⟨⟨frame, retAddr, hooks, _⟩, rest, ⟨current, todo⟩, found, returns, met⟩ :=
        Shadow.Returns.innermost allowed
      cases returns
      cases current with
      | some hook => contradiction
      | none =>
          cases todo with
          | nil => contradiction
          | cons hook todo =>
              refine wp_mono (call_steps holds found rfl (hooked found rfl)) ?_ fun _ _ => id
              intro _ after stepped
              exact ⟨_, _, by simp only [Shadow.after, found]; rfl, stepped⟩
  | postHookReturns tsk =>
      obtain ⟨⟨frame, retAddr, hooks, _⟩, rest, ⟨current, todo⟩, found, returns, met⟩ :=
        Shadow.Returns.innermost allowed
      cases returns
      cases current with
      | none => contradiction
      | some hook =>
          refine wp_mono (returns_steps holds found rfl (hooked found rfl)) ?_ fun _ _ => id
          intro _ after stepped
          exact ⟨_, _, by simp only [Shadow.after, found]; rfl, stepped⟩
  | finish tsk =>
      obtain ⟨top, rest, ⟨current, todo⟩, found, returns, met⟩ := Shadow.Returns.innermost allowed
      cases current with
      | some hook => contradiction
      | none =>
          cases todo with
          | cons hook todo => contradiction
          | nil =>
              have active : top.handling.isSome = true := by rw [returns]; rfl
              refine wp_mono (finish_steps holds found returns (hooked found active)) ?_
                fun _ _ => id
              intro _ after stepped
              exact ⟨_, _, by simp only [Shadow.after, found]; rfl, stepped⟩

theorem Holds.step {event : Event} (holds : Holds kernel ⟨machine, shadow⟩)
    (allowed : shadow.Allows kernel event) (available : machine.Allocates kernel event) :
    wp (exec kernel event) (fun _ after => Holds kernel ⟨after, shadow.after event⟩)
      (fun _ _ => False) machine := by
  refine wp_mono (holds.toKept.step allowed available) ?_ fun _ _ => id
  intro _ after taken
  obtain ⟨frames, seen, same, stepped⟩ := taken
  rw [same]
  exact holds.stepped stepped

theorem Holds.of_reaches {stack : Nat → Nat → Nat} {hooked : Hooked}
    (reached : Transition.Reaches (Hooked.step kernel) (Hooked.Possible kernel)
      ⟨.boot stack, .boot⟩ hooked) : Holds kernel hooked := by
  refine reached.invariant (Holds.boot stack) ?_
  intro before event after holds possible taken
  obtain ⟨allowed, available⟩ := possible
  have goes := holds.step allowed available
  unfold Hooked.step at taken
  unfold wp at goes
  rcases ran : exec kernel event before.machine with ⟨reason | _, machine⟩ <;>
    rw [ran] at taken goes
  · contradiction
  · cases taken
    exact goes

/-- The content of the node of a hook. -/
theorem TaskHolds.content {frame : Frame} (task : TaskHolds kernel machine tsk frames)
    (member : frame ∈ frames) (isHook : hook ∈ frame.hooks) :
    ∃ next retAddr, machine.nodes hook.node =
      some ⟨next, hook.postHook, retAddr, frame.frame, hook.data⟩ := by
  obtain ⟨outer, inner, split⟩ := List.append_of_mem member
  obtain ⟨done, todo, hooks⟩ := List.append_of_mem isHook
  have some : nodesOf frames ≠ [] := by
    intro none
    have unhooked := unhooked_of_nodesOf none frame member
    rw [unhooked] at isHook
    contradiction
  obtain ⟨prhtn, first, _, linked⟩ := task.listed some
  obtain ⟨before, same, _⟩ := hookEntries_split kernel frame.frame frame.retAddr done todo hook
  rw [split, entriesOf, List.flatMap_append, List.flatMap_cons, Frame.entries, hooks, same,
    List.append_assoc, ← List.append_assoc] at linked
  obtain ⟨next, cell, _⟩ := linked.after
  exact ⟨next, _, cell⟩

/-- Return hooks are a shadow stack: in every run of tasks that call, hook and return in a
well-nested way, the code gets through each step and has done what the stack of frames says;
the nodes in memory are those of the frames, and a task is in the table while it has a
hooked frame. -/
theorem return_hooks_are_shadow_stack {stack : Nat → Nat → Nat} {hooked : Hooked}
    (reached : Transition.Reaches (Hooked.step kernel) (Hooked.Possible kernel)
      ⟨.boot stack, .boot⟩ hooked) :
    hooked.machine.trace = hooked.shadow.trace ∧
    (∀ tsk, ∀ frame ∈ hooked.shadow.frames tsk, ∀ hook ∈ frame.hooks, ∃ next retAddr,
      hooked.machine.nodes hook.node =
        some ⟨next, hook.postHook, retAddr, frame.frame, hook.data⟩) ∧
    (∀ node, hooked.machine.nodes node ≠ none → ∃ tsk, ∃ frame ∈ hooked.shadow.frames tsk,
      ∃ hook ∈ frame.hooks, hook.node = node) ∧
    (∀ tsk, hooked.machine.HasEntry kernel tsk ↔
      ∃ frame ∈ hooked.shadow.frames tsk, frame.hooks ≠ []) ∧
    ∀ event, hooked.Possible kernel event → (exec kernel event hooked.machine).1 = .ok () := by
  have holds := Holds.of_reaches reached
  refine ⟨holds.trace, fun tsk frame member hook isHook => (holds.tasks tsk).content member isHook,
    fun node allocated => ?_, fun tsk => ?_, fun event possible => ?_⟩
  · obtain ⟨tsk, member⟩ := holds.owned node ((holds.allocated node).mp allocated)
    obtain ⟨frame, isFrame, member⟩ := List.mem_flatMap.mp member
    obtain ⟨hook, isHook, same⟩ := List.mem_map.mp member
    exact ⟨tsk, frame, isFrame, hook, isHook, same⟩
  · rw [hasEntry_iff]
    have task := holds.tasks tsk
    constructor
    · rintro ⟨prhtn, _, entry⟩
      apply Classical.byContradiction
      intro unhooked
      refine task.absent ?_ prhtn entry
      refine List.flatMap_eq_nil_iff.mpr fun frame member => ?_
      have nothing : frame.hooks = [] := Classical.byContradiction fun some =>
        unhooked ⟨frame, member, some⟩
      rw [nothing]
      rfl
    · rintro ⟨frame, member, some⟩
      obtain ⟨prhtn, first, stored, _⟩ := task.listed fun none =>
        some (unhooked_of_nodesOf none frame member)
      have entry : Entry hooked.machine tsk prhtn := ⟨first, stored⟩
      exact ⟨prhtn, (holds.table.listed _ _).mpr ⟨tsk, entry, rfl⟩, entry⟩
  · obtain ⟨allowed, available⟩ := possible
    have goes := holds.step allowed available
    unfold wp at goes
    rcases ran : exec kernel event hooked.machine with ⟨reason | _, machine⟩ <;> rw [ran] at goes
    · exact goes.elim

/-- A function with the post hook 7 calls another, with the post hook 8, in its own frame; the
post hook 8 calls a hooked function. A task of the same bucket is hooked meanwhile. -/
theorem return_hooks_are_shadow_stack_nested :
    let kernel : Kernel := ⟨1000, fun tsk => tsk % 64⟩
    ∃ hooked : Hooked, hooked.machine.trace =
        [.postHook 1 2 8 none 50, .postHook 1 4 9 none 70, .freed 4, .returned 1 70,
          .postHook 1 1 7 (some [5]) 50, .freed 2, .freed 1, .returned 1 50] ∧
      (¬ hooked.machine.HasEntry kernel 1 ∧ hooked.machine.HasEntry kernel 65) ∧
      hooked.machine.trace = hooked.shadow.trace ∧
      (∀ tsk, ∀ frame ∈ hooked.shadow.frames tsk, ∀ hook ∈ frame.hooks, ∃ next retAddr,
        hooked.machine.nodes hook.node =
          some ⟨next, hook.postHook, retAddr, frame.frame, hook.data⟩) ∧
      (∀ node, hooked.machine.nodes node ≠ none → ∃ tsk, ∃ frame ∈ hooked.shadow.frames tsk,
        ∃ hook ∈ frame.hooks, hook.node = node) ∧
      (∀ tsk, hooked.machine.HasEntry kernel tsk ↔
        ∃ frame ∈ hooked.shadow.frames tsk, frame.hooks ≠ []) ∧
      ∀ event, hooked.Possible kernel event → (exec kernel event hooked.machine).1 = .ok () := by
  intro kernel
  have ran : (Transition.run
      (Transition.checked (Hooked.step kernel) (Hooked.Possible kernel))
      ⟨.boot fun _ _ => 0, .boot⟩
      [.enter 1 900 50, .hook 1 ⟨some 7, 1, [5]⟩ 900 ⟨some 1, true, some 101⟩,
        .hook 1 ⟨some 8, 0, []⟩ 900 ⟨some 2, true, none⟩, .enter 65 900 60,
        .hook 65 ⟨some 7, 0, []⟩ 900 ⟨some 3, true, some 102⟩, .leave 1 900, .callPostHook 1,
        .enter 1 800 70, .hook 1 ⟨some 9, 0, []⟩ 800 ⟨some 4, true, none⟩, .leave 1 800,
        .callPostHook 1, .postHookReturns 1, .finish 1, .postHookReturns 1, .callPostHook 1,
        .postHookReturns 1, .finish 1]).any (fun hooked =>
          decide (hooked.machine.trace =
            [.postHook 1 2 8 none 50, .postHook 1 4 9 none 70, .freed 4, .returned 1 70,
              .postHook 1 1 7 (some [5]) 50, .freed 2, .freed 1, .returned 1 50] ∧
            (¬ hooked.machine.HasEntry kernel 1 ∧ hooked.machine.HasEntry kernel 65))) = true := by
    decide +kernel
  obtain ⟨hooked, reached, holds⟩ := Transition.Reaches.of_evaluated ran
  obtain ⟨trace, entries⟩ := of_decide_eq_true holds
  exact ⟨hooked, trace, entries, return_hooks_are_shadow_stack reached⟩

end Moocbt.Hooking
