import Moocbt.Hooking.Requests

/-! The post steps of the mount and umount callbacks. A hook that was installed is called once
before its function returns; without one the callback has to take the step itself. -/

namespace Moocbt.Hooking

open Program Transition

variable {kernel : Kernel} {machine : Machine} {shadow : Shadow} {hooked : Hooked}
  {prh : PreemptRethook} {allocs : Allocations} {tsk other sp node before : Nat}
  {top frame : Frame} {frames frames' rest : List Frame} {hook : Hook} {seen : List Observation}

/-- What a step makes of the frames of its task. -/
inductive Move (tsk : Nat) : List Frame → List Frame → List Observation → Prop
  | enter (frame retAddr : Nat) (frames : List Frame) :
      Move tsk frames (⟨frame, retAddr, [], none⟩ :: frames) []
  | hook (hook : Hook) {top : Frame} {rest : List Frame} : top.handling = none →
      Move tsk (top :: rest) ({ top with hooks := hook :: top.hooks } :: rest) []
  | leave {top : Frame} {rest : List Frame} : top.handling = none → top.hooks = [] →
      Move tsk (top :: rest) rest [.returned tsk top.retAddr]
  | begins {top : Frame} {rest : List Frame} : top.handling = none →
      Move tsk (top :: rest) ({ top with handling := some ⟨none, top.hooks⟩ } :: rest) []
  | call {top : Frame} {rest : List Frame} {hook : Hook} {todo : List Hook} :
      top.handling = some ⟨none, hook :: todo⟩ →
      Move tsk (top :: rest) ({ top with handling := some ⟨some hook, todo⟩ } :: rest)
        (hook.ran tsk top.retAddr)
  | returns {top : Frame} {rest : List Frame} {hook : Hook} {todo : List Hook} :
      top.handling = some ⟨some hook, todo⟩ →
      Move tsk (top :: rest) ({ top with handling := some ⟨none, todo⟩ } :: rest) []
  | finish {top : Frame} {rest : List Frame} : top.handling = some ⟨none, []⟩ →
      Move tsk (top :: rest) rest
        ((top.hooks.map Hook.node).map .freed ++ [.returned tsk top.retAddr])

/-- The moves of the shadow stack, from what a step is allowed for. -/
theorem Shadow.Allows.moves {event : Event} (allowed : shadow.Allows kernel event) :
    ∃ frames seen, shadow.after event = shadow.replace event.tsk frames seen ∧
      Move event.tsk (shadow.frames event.tsk) frames seen := by
  cases event with
  | enter tsk frame retAddr => exact ⟨_, _, rfl, .enter frame retAddr _⟩
  | hook tsk prh frame allocs =>
      obtain ⟨top, rest, found, _, idle⟩ := Shadow.At.innermost allowed
      refine ⟨_, _, by simp only [Shadow.after, found]; rfl, ?_⟩
      rw [show shadow.frames (Event.hook tsk prh frame allocs).tsk = top :: rest from found]
      exact .hook _ idle
  | leave tsk frame =>
      obtain ⟨top, rest, found, _, idle⟩ := Shadow.At.innermost allowed
      have here : shadow.frames (Event.leave tsk frame).tsk = top :: rest := found
      by_cases unhooked : top.hooks = []
      · refine ⟨_, _, by simp only [Shadow.after, found, if_pos unhooked]; rfl, ?_⟩
        rw [here]
        exact .leave idle unhooked
      · refine ⟨_, _, by simp only [Shadow.after, found, if_neg unhooked]; rfl, ?_⟩
        rw [here]
        exact .begins idle
  | callPostHook tsk =>
      obtain ⟨⟨frame, retAddr, hooks, _⟩, rest, ⟨current, todo⟩, found, returns, met⟩ :=
        Shadow.Returns.innermost allowed
      have here : shadow.frames (Event.callPostHook tsk).tsk = _ := found
      cases returns
      cases current with
      | some hook => contradiction
      | none =>
          cases todo with
          | nil => contradiction
          | cons hook todo =>
              refine ⟨_, _, by simp only [Shadow.after, found]; rfl, ?_⟩
              rw [here]
              exact .call rfl
  | postHookReturns tsk =>
      obtain ⟨⟨frame, retAddr, hooks, _⟩, rest, ⟨current, todo⟩, found, returns, met⟩ :=
        Shadow.Returns.innermost allowed
      have here : shadow.frames (Event.postHookReturns tsk).tsk = _ := found
      cases returns
      cases current with
      | none => contradiction
      | some hook =>
          refine ⟨_, _, by simp only [Shadow.after, found]; rfl, ?_⟩
          rw [here]
          exact .returns rfl
  | finish tsk =>
      obtain ⟨top, rest, ⟨current, todo⟩, found, returns, met⟩ := Shadow.Returns.innermost allowed
      have here : shadow.frames (Event.finish tsk).tsk = _ := found
      cases current with
      | some hook => contradiction
      | none =>
          cases todo with
          | cons hook todo => contradiction
          | nil =>
              refine ⟨_, _, by simp only [Shadow.after, found]; rfl, ?_⟩
              rw [here]
              exact .finish returns

/-- The hooks of a frame that have not been called. -/
def Frame.pending (frame : Frame) : List Hook :=
  match frame.handling with
  | none => frame.hooks
  | some handling => handling.todo

/-- A frame that returns has called its newest hooks. -/
def Sound (frames : List Frame) : Prop := ∀ frame ∈ frames, frame.pending <:+ frame.hooks

theorem Sound.tail (sound : Sound (top :: rest)) : Sound rest :=
  fun frame member => sound frame (List.mem_cons_of_mem _ member)

theorem Sound.cons (newest : top.pending <:+ top.hooks) (sound : Sound rest) :
    Sound (top :: rest) := by
  intro frame member
  cases member with
  | head => exact newest
  | tail _ later => exact sound frame later

theorem Sound.move (sound : Sound frames) (move : Move tsk frames frames' seen) :
    Sound frames' := by
  cases move with
  | enter => exact sound.cons List.suffix_rfl
  | hook hook idle =>
      refine sound.tail.cons ?_
      simp only [Frame.pending, idle]
      exact List.suffix_rfl
  | leave => exact sound.tail
  | begins => exact sound.tail.cons List.suffix_rfl
  | call returning =>
      have newest := sound _ List.mem_cons_self
      simp only [Frame.pending, returning] at newest
      exact sound.tail.cons ((List.suffix_cons _ _).trans newest)
  | returns returning =>
      have newest := sound _ List.mem_cons_self
      simp only [Frame.pending, returning] at newest
      exact sound.tail.cons newest
  | finish => exact sound.tail

/-- A call of the post hook in this node, by this task. -/
def Observation.isCall (tsk node : Nat) : Observation → Bool
  | .postHook caller called _ _ _ => caller = tsk && called = node
  | _ => false

def calls (tsk node : Nat) (trace : List Observation) : Nat :=
  trace.countP (Observation.isCall tsk node)

theorem calls_append (tsk node : Nat) (trace seen : List Observation) :
    calls tsk node (trace ++ seen) = calls tsk node trace + calls tsk node seen :=
  List.countP_append

theorem calls_ran (hook : Hook) (retAddr : Nat) :
    calls tsk node (hook.ran other retAddr) =
      if hook.postHook ≠ none ∧ other = tsk ∧ hook.node = node then 1 else 0 := by
  unfold Hook.ran
  cases called : hook.postHook with
  | none => simp [calls]
  | some postHook =>
      by_cases same : other = tsk ∧ hook.node = node
      · simp [calls, Observation.isCall, same]
      · simp only [calls, List.countP_singleton, Observation.isCall]
        simp only [Bool.and_eq_true, decide_eq_true_eq, same, ne_eq, reduceCtorEq, not_false_eq_true,
          true_and, if_false]

theorem calls_finish (nodes : List Nat) (retAddr : Nat) :
    calls tsk node (nodes.map .freed ++ [.returned other retAddr]) = 0 := by
  simp [calls, List.countP_append, List.countP_eq_zero, Observation.isCall]

theorem Move.calls_other (move : Move other frames frames' seen) (different : other ≠ tsk) :
    calls tsk node seen = 0 := by
  cases move with
  | enter => rfl
  | hook => rfl
  | leave => rfl
  | begins => rfl
  | call =>
      rw [calls_ran]
      exact if_neg fun same => different same.2.1
  | returns => rfl
  | finish => exact calls_finish _ _

/-- A hook of a frame that is still there was called once more than `before`, or is pending. -/
structure Due (tsk node before : Nat) (rest : List Frame) (inner : List Frame) (frame : Frame)
    (hook : Hook) (shadow : Shadow) : Prop where
  frames : shadow.frames tsk = inner ++ frame :: rest
  member : hook ∈ frame.hooks
  node_eq : hook.node = node
  called : hook.postHook ≠ none
  count : calls tsk node shadow.trace = before + if hook ∈ frame.pending then 0 else 1

variable {inner : List Frame}

theorem nodesOf_cons (top : Frame) (rest : List Frame) :
    nodesOf (top :: rest) = top.hooks.map Hook.node ++ nodesOf rest := List.flatMap_cons

theorem mem_nodesOf (isHook : hook ∈ frame.hooks) (member : frame ∈ frames) :
    hook.node ∈ nodesOf frames :=
  List.mem_flatMap.mpr ⟨frame, member, List.mem_map_of_mem isHook⟩

/-- A hook above the frame has another node. -/
theorem node_ne_of_above {above : Hook} (distinct : (nodesOf (top :: rest)).Nodup)
    (isAbove : above ∈ top.hooks) (isHook : hook ∈ frame.hooks) (member : frame ∈ rest) :
    above.node ≠ hook.node := by
  rw [nodesOf_cons] at distinct
  intro same
  have apart := List.disjoint_of_nodup_append distinct (List.mem_map_of_mem isAbove)
  rw [same] at apart
  exact apart (mem_nodesOf isHook member)

/-- Frames above that one change nothing about its hook. -/
theorem Due.above (due : Due tsk node before rest inner frame hook shadow)
    {inner' : List Frame} (silent : calls tsk node seen = 0) :
    Due tsk node before rest inner' frame hook
      (shadow.replace tsk (inner' ++ frame :: rest) seen) where
  frames := Function.update_self ..
  member := due.member
  node_eq := due.node_eq
  called := due.called
  count := by
    change calls tsk node (shadow.trace ++ seen) = _
    rw [calls_append, silent, Nat.add_zero]
    exact due.count

theorem Due.here (due : Due tsk node before rest inner frame hook shadow) {frame' : Frame}
    (member : hook ∈ frame'.hooks)
    (pending : calls tsk node seen + (if hook ∈ frame.pending then 0 else 1) =
      if hook ∈ frame'.pending then 0 else 1) :
    Due tsk node before rest [] frame' hook (shadow.replace tsk (frame' :: rest) seen) where
  frames := Function.update_self ..
  member := member
  node_eq := due.node_eq
  called := due.called
  count := by
    change calls tsk node (shadow.trace ++ seen) = _
    have count := due.count
    rw [calls_append]
    omega

theorem Due.move (due : Due tsk node before rest inner frame hook shadow)
    (sound : Sound (shadow.frames tsk)) (distinct : (nodesOf (shadow.frames tsk)).Nodup)
    (move : Move tsk (shadow.frames tsk) frames' seen) :
    (∃ inner' frame', Due tsk node before rest inner' frame' hook
        (shadow.replace tsk frames' seen)) ∨
      frames' = rest ∧ calls tsk node (shadow.trace ++ seen) = before + 1 := by
  have found := due.frames
  rw [found] at move sound distinct
  cases inner with
  | nil =>
      rw [List.nil_append] at move sound distinct
      have count := due.count
      cases move with
      | enter newest retAddr => exact .inl ⟨[⟨newest, retAddr, [], none⟩], frame, due.above rfl⟩
      | hook newer idle =>
          refine .inl ⟨[], _, due.here (List.mem_cons_of_mem _ due.member) ?_⟩
          have old : hook ∈ frame.pending := by
            simp only [Frame.pending, idle]
            exact due.member
          have new : hook ∈ Frame.pending { frame with hooks := newer :: frame.hooks } := by
            simp only [Frame.pending, idle]
            exact List.mem_cons_of_mem _ due.member
          rw [if_pos old, if_pos new]
          rfl
      | leave _ unhooked =>
          have member := due.member
          rw [unhooked] at member
          contradiction
      | begins idle =>
          refine .inl ⟨[], _, due.here due.member ?_⟩
          simp only [Frame.pending, idle]
          exact Nat.zero_add _
      | @call _ _ first todo returning =>
          refine .inl ⟨[], _, due.here due.member ?_⟩
          have suffix := sound frame List.mem_cons_self
          have pending : frame.pending = first :: todo := by simp only [Frame.pending, returning]
          have pending' : Frame.pending { frame with handling := some ⟨some first, todo⟩ } = todo :=
            rfl
          rw [pending] at suffix
          rw [pending, pending']
          rw [nodesOf_cons] at distinct
          have nodup := (List.nodup_append.mp distinct).1
          have isFirst : first ∈ frame.hooks := suffix.subset List.mem_cons_self
          have once : first ∉ todo := by
            have apart := (suffix.sublist.map Hook.node).nodup nodup
            intro again
            exact (List.nodup_cons.mp apart).1 (List.mem_map_of_mem again)
          rw [calls_ran]
          by_cases same : hook = first
          · subst same
            rw [if_pos ⟨due.called, rfl, due.node_eq⟩, if_pos List.mem_cons_self, if_neg once]
          · have other : ¬ (first.postHook ≠ none ∧ tsk = tsk ∧ first.node = node) := by
              intro call
              have nodes : hook.node = first.node := due.node_eq.trans call.2.2.symm
              exact same (List.inj_on_of_nodup_map nodup due.member isFirst nodes)
            have members : hook ∈ first :: todo ↔ hook ∈ todo := by
              rw [List.mem_cons]
              exact or_iff_right same
            rw [if_neg other, Nat.zero_add]
            exact if_congr members rfl rfl
      | returns returning =>
          refine .inl ⟨[], _, due.here due.member ?_⟩
          simp only [Frame.pending, returning]
          exact Nat.zero_add _
      | finish returning =>
          refine .inr ⟨rfl, ?_⟩
          have called : hook ∉ frame.pending := by
            simp only [Frame.pending, returning]
            exact List.not_mem_nil
          rw [if_neg called] at count
          rw [calls_append, calls_finish, count]
  | cons top inner =>
      rw [List.cons_append] at move sound distinct
      have below : frame ∈ inner ++ frame :: rest := by simp
      cases move with
      | enter newest retAddr =>
          exact .inl ⟨⟨newest, retAddr, [], none⟩ :: top :: inner, frame, due.above rfl⟩
      | hook newer idle =>
          exact .inl ⟨{ top with hooks := newer :: top.hooks } :: inner, frame, due.above rfl⟩
      | leave => exact .inl ⟨inner, frame, due.above rfl⟩
      | begins =>
          exact .inl ⟨{ top with handling := some ⟨none, top.hooks⟩ } :: inner, frame,
            due.above rfl⟩
      | @call _ _ first todo returning =>
          refine .inl ⟨{ top with handling := some ⟨some first, todo⟩ } :: inner, frame,
            due.above ?_⟩
          have suffix := sound top List.mem_cons_self
          simp only [Frame.pending, returning] at suffix
          have isFirst : first ∈ top.hooks := suffix.subset List.mem_cons_self
          rw [calls_ran]
          refine if_neg fun call => ?_
          exact node_ne_of_above distinct isFirst due.member below
            (call.2.2.trans due.node_eq.symm)
      | @returns _ _ first todo _ =>
          exact .inl ⟨{ top with handling := some ⟨none, todo⟩ } :: inner, frame, due.above rfl⟩
      | finish => exact .inl ⟨inner, frame, due.above (calls_finish _ _)⟩

/-- The task is in this frame or above it. -/
def Hooked.Within (tsk : Nat) (rest : List Frame) (hooked : Hooked) : Prop :=
  rest.length < (hooked.shadow.frames tsk).length

instance (tsk : Nat) (rest : List Frame) (hooked : Hooked) : Decidable (hooked.Within tsk rest) :=
  inferInstanceAs (Decidable (_ < _))

/-- The steps up to the return from a frame. -/
def Hooked.AttemptsWithin (kernel : Kernel) (tsk : Nat) (rest : List Frame) (hooked : Hooked)
    (event : Event) : Prop :=
  hooked.Attempts kernel event ∧ hooked.Within tsk rest

theorem attempt_shadow {event : Event} {next : Hooked}
    (taken : hooked.attempt kernel event = some next) :
    next.shadow = hooked.expected kernel event := by
  unfold Hooked.attempt at taken
  rcases ran : exec kernel event hooked.machine with ⟨reason | _, machine⟩ <;> rw [ran] at taken
  · contradiction
  · cases taken
    rfl

/-- What holds in every run. -/
structure Standing (kernel : Kernel) (hooked : Hooked) : Prop where
  kept : Kept kernel hooked
  sound : ∀ tsk, Sound (hooked.shadow.frames tsk)

theorem Sound.replace (sound : ∀ tsk, Sound (shadow.frames tsk)) (mine : Sound frames)
    (tsk : Nat) (seen : List Observation) (other : Nat) :
    Sound ((shadow.replace tsk frames seen).frames other) := by
  by_cases same : other = tsk
  · subst same
    rw [show (shadow.replace other frames seen).frames other = frames from
      Function.update_self ..]
    exact mine
  · rw [show (shadow.replace tsk frames seen).frames other = shadow.frames other from
      Function.update_of_ne same ..]
    exact sound other

theorem Standing.attempted {event : Event} {next : Hooked} (standing : Standing kernel hooked)
    (attempts : hooked.Attempts kernel event) (taken : hooked.attempt kernel event = some next) :
    Standing kernel next := by
  refine ⟨standing.kept.attempted attempts taken, fun tsk => ?_⟩
  rw [attempt_shadow taken, Hooked.expected]
  split
  · obtain ⟨frames, seen, after, move⟩ := attempts.1.moves
    rw [after]
    exact Sound.replace standing.sound ((standing.sound event.tsk).move move) event.tsk seen tsk
  · exact standing.sound tsk

theorem Standing.boot (stack : Nat → Nat → Nat) : Standing kernel ⟨.boot stack, .boot⟩ :=
  ⟨(Holds.boot stack).toKept, fun _ => List.forall_mem_nil _⟩

theorem Standing.of_attempts {stack : Nat → Nat → Nat}
    (reached : Reaches (Hooked.attempt kernel) (Hooked.Attempts kernel) ⟨.boot stack, .boot⟩ hooked) :
    Standing kernel hooked := by
  refine reached.invariant (Standing.boot stack) ?_
  intro before event after standing attempts taken
  exact standing.attempted attempts taken

/-- The states in which the hook is due, or has been called and the function has returned. -/
structure Tracked (kernel : Kernel) (tsk node before : Nat) (rest : List Frame) (hook : Hook)
    (hooked : Hooked) : Prop extends Standing kernel hooked where
  due : (∃ inner frame, Due tsk node before rest inner frame hook hooked.shadow) ∨
    hooked.shadow.frames tsk = rest ∧ calls tsk node hooked.shadow.trace = before + 1

theorem Tracked.attempted {event : Event} {next : Hooked}
    (tracked : Tracked kernel tsk node before rest hook hooked)
    (attempts : hooked.AttemptsWithin kernel tsk rest event)
    (taken : hooked.attempt kernel event = some next) :
    Tracked kernel tsk node before rest hook next := by
  obtain ⟨attempts, within⟩ := attempts
  refine ⟨tracked.toStanding.attempted attempts taken, ?_⟩
  have due := tracked.due.resolve_right fun left => by
    have short := within
    rw [Hooked.Within, left.1] at short
    exact Nat.lt_irrefl _ short
  rw [attempt_shadow taken, Hooked.expected]
  split
  · obtain ⟨frames, seen, after, move⟩ := attempts.1.moves
    obtain ⟨inner, frame, due⟩ := due
    rw [after]
    by_cases mine : event.tsk = tsk
    · rw [mine] at move ⊢
      cases due.move (tracked.sound tsk) (tracked.kept.tasks tsk).distinct move with
      | inl still => exact .inl still
      | inr returned => exact .inr ⟨(Function.update_self ..).trans returned.1, returned.2⟩
    · refine .inl ⟨inner, frame, ?_, due.member, due.node_eq, due.called, ?_⟩
      · exact (Function.update_of_ne (Ne.symm mine) ..).trans due.frames
      · change calls tsk node (hooked.shadow.trace ++ seen) = _
        rw [calls_append, move.calls_other mine, Nat.add_zero]
        exact due.count
  · exact .inl due

theorem Tracked.reached {start : Hooked} (tracked : Tracked kernel tsk node before rest hook start)
    (reached : Reaches (Hooked.attempt kernel) (Hooked.AttemptsWithin kernel tsk rest) start hooked) :
    Tracked kernel tsk node before rest hook hooked := by
  refine reached.invariant tracked ?_
  intro earlier event later tracked attempts taken
  exact tracked.attempted attempts taken

/-- A step without an allocation. -/
theorem Standing.goes {event : Event} (standing : Standing kernel hooked)
    (allowed : hooked.shadow.Allows kernel event) (gives : hooked.machine.Gives event)
    (allocates : hooked.machine.Allocates kernel event) (within : hooked.Within tsk rest) :
    ∃ next, Reaches (Hooked.attempt kernel) (Hooked.AttemptsWithin kernel tsk rest) hooked next ∧
      Standing kernel next ∧ next.shadow = hooked.shadow.after event := by
  obtain ⟨machine, taken⟩ := standing.kept.attempt_exists ⟨allowed, gives⟩
  rw [Hooked.expected, if_pos allocates] at taken
  exact ⟨_, .next .refl ⟨⟨allowed, gives⟩, within⟩ taken,
    standing.attempted ⟨allowed, gives⟩ taken, rfl⟩

theorem Hooked.within_cons (found : hooked.shadow.frames tsk = top :: rest) :
    hooked.Within tsk rest := by
  rw [Hooked.Within, found]
  exact Nat.lt_succ_self _

/-- A frame that returns gets to its end: the hooks that are left are called one after the
other. -/
theorem Standing.drains (standing : Standing kernel hooked) {todo : List Hook}
    (found : hooked.shadow.frames tsk = top :: rest)
    (returning : top.handling = some ⟨none, todo⟩) :
    ∃ last, Reaches (Hooked.attempt kernel) (Hooked.AttemptsWithin kernel tsk rest) hooked last ∧
      last.shadow.frames tsk = rest := by
  have within := Hooked.within_cons found
  induction todo generalizing hooked top with
  | nil =>
      have allowed : hooked.shadow.Allows kernel (.finish tsk) := by
        simp only [Shadow.Allows, Shadow.Returns, found, List.head?_cons, Option.any_some, returning]
        rfl
      obtain ⟨last, reached, _, same⟩ := standing.goes allowed trivial trivial within
      refine ⟨last, reached, ?_⟩
      simp only [same, Shadow.after, found]
      exact Function.update_self ..
  | cons hook todo ih =>
      have allowed : hooked.shadow.Allows kernel (.callPostHook tsk) := by
        simp only [Shadow.Allows, Shadow.Returns, found, List.head?_cons, Option.any_some, returning]
        rfl
      obtain ⟨middle, reached, standing, same⟩ := standing.goes allowed trivial trivial within
      have called : middle.shadow.frames tsk =
          { top with handling := some ⟨some hook, todo⟩ } :: rest := by
        obtain ⟨frame, retAddr, hooks, handling⟩ := top
        cases returning
        simp only [same, Shadow.after, found]
        exact Function.update_self ..
      have allowed' : middle.shadow.Allows kernel (.postHookReturns tsk) := by
        simp only [Shadow.Allows, Shadow.Returns, called, List.head?_cons, Option.any_some]
        rfl
      have within' := Hooked.within_cons called
      obtain ⟨next, reached', standing', same'⟩ := standing.goes allowed' trivial trivial within'
      have returned : next.shadow.frames tsk =
          { top with handling := some ⟨none, todo⟩ } :: rest := by
        simp only [same', Shadow.after, called]
        exact Function.update_self ..
      obtain ⟨last, reached'', left⟩ := ih standing' returned rfl (Hooked.within_cons returned)
      exact ⟨last, (reached.trans reached').trans reached'', left⟩

/-- A function that runs can return. -/
theorem Standing.returns (standing : Standing kernel hooked)
    (found : hooked.shadow.frames tsk = top :: rest) (idle : top.handling = none) :
    ∃ last, Reaches (Hooked.attempt kernel) (Hooked.AttemptsWithin kernel tsk rest) hooked last ∧
      last.shadow.frames tsk = rest := by
  have within := Hooked.within_cons found
  have allowed : hooked.shadow.Allows kernel (.leave tsk top.frame) := by
    simp only [Shadow.Allows, Shadow.At, found, List.head?_cons, Option.any_some, idle]
    rfl
  obtain ⟨middle, reached, standing', same⟩ := standing.goes allowed trivial trivial within
  by_cases unhooked : top.hooks = []
  · refine ⟨middle, reached, ?_⟩
    simp only [same, Shadow.after, found, if_pos unhooked]
    exact Function.update_self ..
  · have begun : middle.shadow.frames tsk =
        { top with handling := some ⟨none, top.hooks⟩ } :: rest := by
      simp only [same, Shadow.after, found, if_neg unhooked]
      exact Function.update_self ..
    obtain ⟨last, reached', left⟩ := standing'.drains begun rfl
    exact ⟨last, reached.trans reached', left⟩

/-- How often the post step of a request has been taken: by the callback itself, and by the
trampoline for the node it got. -/
def stepsTaken (tsk : Nat) (own : Bool) (got : Option Nat) (before last : Machine) : Nat :=
  (if own then 1 else 0) +
    got.elim 0 fun node => calls tsk node last.trace - calls tsk node before.trace

/-- When the function has returned, the post step has been taken once. -/
def TakesStepOnce (kernel : Kernel) (callback : Callback) (tsk : Nat) (ctx : List Nat) (sp : Nat)
    (allocs : Allocations) (hooked : Hooked) : Prop :=
  ∀ own machine, callback.run kernel tsk ctx sp allocs hooked.machine = (.ok own, machine) →
    ∀ last, Reaches (Hooked.attempt kernel)
        (Hooked.AttemptsWithin kernel tsk (hooked.shadow.frames tsk).tail)
        ⟨machine, hooked.expected kernel (.hook tsk (callback.request ctx) sp allocs)⟩ last →
      ¬ last.Within tsk (hooked.shadow.frames tsk).tail →
      stepsTaken tsk own ((callback.request ctx).gets allocs) hooked.machine last.machine = 1

theorem Requested.exists_of_fresh (table : TableHolds kernel machine)
    (fresh : machine.Fresh allocs) :
    ∃ ret after, preHandlerPreemptRethook kernel tsk prh sp allocs machine = (.ok ret, after) ∧
      Requested kernel tsk prh sp allocs machine ret after := by
  have goes : wp (preHandlerPreemptRethook kernel tsk prh sp allocs)
      (fun ret after => Requested kernel tsk prh sp allocs machine ret after) (fun _ _ => False)
      machine := preHandlerPreemptRethook_spec table fresh
  unfold wp at goes
  rcases ran : preHandlerPreemptRethook kernel tsk prh sp allocs machine with
    ⟨reason | ret, after⟩ <;> rw [ran] at goes
  · exact goes.elim
  · exact ⟨ret, after, rfl, goes⟩

theorem PreemptRethook.gets_eq (got : prh.gets allocs = some node) : allocs.node = some node := by
  simp only [gets] at got
  split at got
  · contradiction
  · exact got

/-- The hook that was installed is due. -/
theorem Tracked.installed {event : Event} {next : Hooked} {postHook : Nat}
    (standing : Standing kernel hooked) (found : hooked.shadow.frames tsk = top :: rest)
    (idle : top.handling = none) (attempts : hooked.Attempts kernel event)
    (taken : hooked.attempt kernel event = some next)
    (same : event = .hook tsk prh sp allocs) (posts : prh.postHook = some postHook)
    (got : prh.gets allocs = some node) (enters : hooked.machine.Enters kernel tsk allocs) :
    Tracked kernel tsk node (calls tsk node hooked.shadow.trace) rest (prh.hook allocs) next := by
  refine ⟨standing.attempted attempts taken,
    .inl ⟨[], { top with hooks := prh.hook allocs :: top.hooks }, ?_⟩⟩
  have fresh : hooked.machine.Fresh allocs := by
    have gives := attempts.2
    rw [same] at gives
    exact gives
  have allocates : hooked.machine.Allocates kernel event := by
    rw [same]
    exact fresh.allocates_iff.mpr ⟨by rw [got]; exact Option.some_ne_none node, enters⟩
  have after : next.shadow = hooked.shadow.replace tsk
      ({ top with hooks := prh.hook allocs :: top.hooks } :: rest) [] := by
    rw [attempt_shadow taken, Hooked.expected, if_pos allocates, same]
    simp only [Shadow.after, found]
  rw [after]
  refine ⟨Function.update_self .., List.mem_cons_self, ?_, ?_, ?_⟩
  · simp only [PreemptRethook.hook, PreemptRethook.gets_eq got, Option.getD_some]
  · simp only [PreemptRethook.hook, posts]
    exact Option.some_ne_none postHook
  · have pending : prh.hook allocs ∈
        Frame.pending { top with hooks := prh.hook allocs :: top.hooks } := by
      simp only [Frame.pending, idle]
      exact List.mem_cons_self
    rw [if_pos pending]
    exact calls_append tsk node hooked.shadow.trace []

/-- A task without an entry has no hook. -/
theorem Kept.unhooked (kept : Kept kernel hooked)
    (found : hooked.shadow.frames tsk = top :: rest)
    (missing : ¬ hooked.machine.HasEntry kernel tsk) : top.hooks = [] := by
  by_contra hooks
  have task := kept.tasks tsk
  rw [found] at task
  obtain ⟨prhtn, first, entry, _⟩ := task.listed (nodesOf_ne_nil hooks)
  have bucket := (kept.table.listed _ prhtn).mpr ⟨tsk, ⟨first, entry⟩, rfl⟩
  exact missing (hasEntry_iff.mpr ⟨prhtn, bucket, ⟨first, entry⟩⟩)

theorem Callback.run_eq {callback : Callback} {ctx : List Nat} {ret : Nat} {after : Machine}
    (ran : preHandlerPreemptRethook kernel tsk (callback.request ctx) sp allocs machine =
      (.ok ret, after)) :
    callback.run kernel tsk ctx sp allocs machine =
      (.ok (decide (ret ≠ 0) && callback.takesStep), after) := by
  simp only [Callback.run, bind, ran, pure]

theorem attempt_hook_eq {ret : Nat} {after : Machine}
    (ran : preHandlerPreemptRethook kernel tsk prh sp allocs hooked.machine = (.ok ret, after)) :
    hooked.attempt kernel (.hook tsk prh sp allocs) =
      some ⟨after, hooked.expected kernel (.hook tsk prh sp allocs)⟩ := by
  simp only [Hooked.attempt, exec, bind, ran, pure]

/-- The callback takes the step itself, or leaves it to a hook that is there. -/
def Callback.Steps (kernel : Kernel) (callback : Callback) (tsk : Nat) (ctx : List Nat)
    (allocs : Allocations) (machine : Machine) : Prop :=
  if (callback.request ctx).gets allocs = none then callback.takesStep = true
  else machine.Enters kernel tsk allocs

instance (kernel : Kernel) (callback : Callback) (tsk : Nat) (ctx : List Nat)
    (allocs : Allocations) (machine : Machine) :
    Decidable (callback.Steps kernel tsk ctx allocs machine) := by
  unfold Callback.Steps
  infer_instance

theorem takesStepOnce_iff {callback : Callback} {ctx : List Nat}
    (standing : Standing kernel hooked) (here : hooked.shadow.At tsk sp)
    (fresh : hooked.machine.Fresh allocs) :
    TakesStepOnce kernel callback tsk ctx sp allocs hooked ↔
      callback.Steps kernel tsk ctx allocs hooked.machine := by
  obtain ⟨top, rest, found, same, idle⟩ := here.innermost
  obtain ⟨ret, after, ran, requested⟩ :
      ∃ ret after, preHandlerPreemptRethook kernel tsk (callback.request ctx) sp allocs
          hooked.machine = (.ok ret, after) ∧
        Requested kernel tsk (callback.request ctx) sp allocs hooked.machine ret after :=
    Requested.exists_of_fresh standing.kept.table fresh
  have attempts : hooked.Attempts kernel (.hook tsk (callback.request ctx) sp allocs) :=
    ⟨here, fresh⟩
  have taken := attempt_hook_eq ran
  have standing' := standing.attempted attempts taken
  have runs := Callback.run_eq ran
  have tail : (hooked.shadow.frames tsk).tail = rest := by rw [found]; rfl
  simp only [TakesStepOnce, runs, tail, Callback.Steps]
  cases requested with
  | refused none =>
      have unchanged : hooked.expected kernel (.hook tsk (callback.request ctx) sp allocs) =
          hooked.shadow :=
        if_neg fun allocates => (fresh.allocates_iff.mp allocates).1 none
      rw [if_pos none, unchanged]
      constructor
      · intro once
        obtain ⟨last, reached, left⟩ := standing.returns found idle
        have out : ¬ last.Within tsk rest := by
          rw [Hooked.Within, left]
          exact Nat.lt_irrefl _
        have one := once _ _ rfl last reached out
        rw [none] at one
        by_contra own
        simp [stepsTaken, own] at one
      · intro own _ _ same last _ _
        cases same
        rw [none]
        simp [stepsTaken, own, enomem]
  | installed got enters _ =>
      rw [if_neg got]
      refine ⟨fun _ => enters, fun _ _ _ same last reached out => ?_⟩
      cases same
      obtain ⟨node, got⟩ := Option.ne_none_iff_exists'.mp got
      have tracked : Tracked kernel tsk node (calls tsk node hooked.shadow.trace) rest
          ((callback.request ctx).hook allocs) ⟨after, hooked.expected kernel _⟩ :=
        Tracked.installed standing found idle attempts taken rfl rfl got enters
      have tracked' := tracked.reached reached
      have once := tracked'.due.resolve_left fun due => by
        obtain ⟨inner, frame, due⟩ := due
        refine out ?_
        rw [Hooked.Within, due.frames, List.length_append, List.length_cons]
        omega
      have before := standing.kept.trace
      have now := tracked'.kept.trace
      rw [got]
      simp only [stepsTaken, Option.elim_some, before, now, once.2]
      simp
  | @leaked node got missing =>
      have some : (callback.request ctx).gets allocs ≠ none := by
        rw [got]
        exact Option.some_ne_none node
      have unchanged : hooked.expected kernel (.hook tsk (callback.request ctx) sp allocs) =
          hooked.shadow :=
        if_neg fun allocates => missing (fresh.allocates_iff.mp allocates).2
      rw [if_neg some]
      refine ⟨fun once => ?_, fun enters => absurd enters missing⟩
      exfalso
      have unhooked := standing.kept.unhooked found fun has => missing (.inl has)
      rw [unchanged] at standing' once
      have allowed : hooked.shadow.Allows kernel (.leave tsk top.frame) := by
        simp only [Shadow.Allows, Shadow.At, found, List.head?_cons, Option.any_some, idle]
        rfl
      obtain ⟨last, reached, standing'', left⟩ :=
        standing'.goes allowed trivial trivial (Hooked.within_cons found)
      have frames : last.shadow.frames tsk = rest := by
        simp only [left, Shadow.after, found, if_pos unhooked]
        exact Function.update_self ..
      have out : ¬ last.Within tsk rest := by
        rw [Hooked.Within, frames]
        exact Nat.lt_irrefl _
      have one := once _ _ rfl last reached out
      have trace : last.shadow.trace = hooked.shadow.trace ++ [.returned tsk top.retAddr] := by
        simp only [left, Shadow.after, found, if_pos unhooked]
        rfl
      have before := standing.kept.trace
      have now := standing''.kept.trace
      rw [got] at one
      simp only [stepsTaken, Option.elim_some, before, now, trace, calls_append] at one
      simp [calls, Observation.isCall] at one

/-- A request reports what it did, and the post step is taken once, exactly if the task has
an entry or gets one where a node was got, and, for the step, if the callback takes it itself
where no node was got. -/
theorem hook_reported_iff_installed {stack : Nat → Nat → Nat}
    (reached : Reaches (Hooked.attempt kernel) (Hooked.Attempts kernel) ⟨.boot stack, .boot⟩ hooked)
    (here : hooked.shadow.At tsk sp) (fresh : hooked.machine.Fresh allocs)
    (prh : PreemptRethook) (callback : Callback) (ctx : List Nat) :
    (∃ ret after, preHandlerPreemptRethook kernel tsk prh sp allocs hooked.machine =
        (.ok ret, after) ∧
      (Reports kernel tsk prh sp ret hooked.machine after ↔
        prh.gets allocs = none ∨ hooked.machine.Enters kernel tsk allocs)) ∧
      (TakesStepOnce kernel callback tsk ctx sp allocs hooked ↔
        callback.Steps kernel tsk ctx allocs hooked.machine) := by
  have standing := Standing.of_attempts reached
  refine ⟨?_, takesStepOnce_iff standing here fresh⟩
  obtain ⟨ret, after, ran, requested⟩ :
      ∃ ret after, preHandlerPreemptRethook kernel tsk prh sp allocs hooked.machine =
          (.ok ret, after) ∧ Requested kernel tsk prh sp allocs hooked.machine ret after :=
    Requested.exists_of_fresh standing.kept.table fresh
  exact ⟨ret, after, ran, requested.reports_iff standing.kept.allocated⟩

/-- The umount callback, in a task that has no entry yet. -/
theorem hook_reported_iff_installed_umount :
    let kernel : Kernel := ⟨1000, fun tsk => tsk % 64⟩
    let umount := ftracePathUmountPreemptRh ⟨7, 8, 9, 10⟩
    ∃ hooked : Hooked, ¬ hooked.machine.HasEntry kernel 1 ∧
      (∃ ret after, preHandlerPreemptRethook kernel 1 (umount.request [5]) 900
          ⟨some 1, true, some 101⟩ hooked.machine = (.ok ret, after) ∧
        (Reports kernel 1 (umount.request [5]) 900 ret hooked.machine after ↔
          (umount.request [5]).gets ⟨some 1, true, some 101⟩ = none ∨
            hooked.machine.Enters kernel 1 ⟨some 1, true, some 101⟩)) ∧
      (TakesStepOnce kernel umount 1 [5] 900 ⟨some 1, true, some 101⟩ hooked ↔
        umount.Steps kernel 1 [5] ⟨some 1, true, some 101⟩ hooked.machine) := by
  intro kernel umount
  have ran : (Transition.run
      (Transition.checked (Hooked.attempt kernel) (Hooked.Attempts kernel))
      ⟨.boot fun _ _ => 0, .boot⟩ [.enter 1 900 50]).any (fun hooked =>
        decide (hooked.shadow.At 1 900 ∧ hooked.machine.Fresh ⟨some 1, true, some 101⟩ ∧
          ¬ hooked.machine.HasEntry kernel 1)) = true := by
    decide +kernel
  obtain ⟨hooked, reached, holds⟩ := Transition.Reaches.of_evaluated ran
  obtain ⟨here, fresh, missing⟩ := of_decide_eq_true holds
  exact ⟨hooked, missing, hook_reported_iff_installed reached here fresh _ umount [5]⟩

/-- The node and its data are allocated, the entry is not: the hook is reported as installed,
and the return address is still that of the caller. -/
theorem hook_reported_without_entry :
    ¬ ∀ (kernel : Kernel) (stack : Nat → Nat → Nat) (hooked : Hooked),
      Reaches (Hooked.attempt kernel) (Hooked.Attempts kernel) ⟨.boot stack, .boot⟩ hooked →
      ∀ (tsk sp : Nat) (prh : PreemptRethook) (allocs : Allocations) (ret : Nat)
        (after : Machine), hooked.shadow.At tsk sp → hooked.machine.Fresh allocs →
      preHandlerPreemptRethook kernel tsk prh sp allocs hooked.machine = (.ok ret, after) →
      Reports kernel tsk prh sp ret hooked.machine after := by
  intro always
  let kernel : Kernel := ⟨1000, fun tsk => tsk % 64⟩
  let prh := (ftracePathUmountPreemptRh ⟨7, 8, 9, 10⟩).request [5]
  let allocs : Allocations := ⟨some 1, true, none⟩
  have ran : (Transition.run
      (Transition.checked (Hooked.attempt kernel) (Hooked.Attempts kernel))
      ⟨.boot fun _ _ => 0, .boot⟩ [.enter 1 900 50]).any (fun hooked =>
        decide (hooked.shadow.At 1 900 ∧ hooked.machine.Fresh allocs ∧
          (preHandlerPreemptRethook kernel 1 prh 900 allocs hooked.machine).1 = .ok 0 ∧
          (preHandlerPreemptRethook kernel 1 prh 900 allocs hooked.machine).2.stack 1 900 =
            50)) = true := by
    decide +kernel
  obtain ⟨hooked, reached, holds⟩ := Transition.Reaches.of_evaluated ran
  obtain ⟨here, fresh, reported, slot⟩ := of_decide_eq_true holds
  have reports := always kernel _ hooked reached 1 900 prh allocs 0 _ here fresh
    (Prod.ext reported rfl)
  have replaced := (reports.installed.mp rfl).slot
  rw [slot] at replaced
  exact absurd replaced (by decide)

end Moocbt.Hooking
