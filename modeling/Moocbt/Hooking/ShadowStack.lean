import Moocbt.Hooking.Rethook

/-! What return hooks are for. Each task has a stack of function frames; a frame that is
hooked runs its post hooks before it returns, newest first. -/

namespace Moocbt.Hooking

/-- A hook on the return from a frame, with the data copied at the entry. -/
structure Hook where
  node : Nat
  postHook : Option Nat
  data : Option (List Nat)
  deriving DecidableEq, Repr

/-- A frame that returns: the hook that runs and those that have not run. -/
structure Handling where
  current : Option Hook
  todo : List Hook
  deriving DecidableEq, Repr

/-- The frame of a function that has been entered: the address of its return address, that
address before the first hook, and its hooks, newest first. -/
structure Frame where
  frame : Nat
  retAddr : Nat
  hooks : List Hook
  handling : Option Handling
  deriving DecidableEq, Repr

/-- The frames of each task, innermost first. -/
structure Shadow where
  frames : Nat → List Frame
  trace : List Observation

def Shadow.boot : Shadow := ⟨fun _ => [], []⟩

/-- The task runs the function of this frame, or a post hook of it. -/
def Frame.Runs (frame : Frame) : Prop :=
  match frame.handling with
  | none => True
  | some handling => handling.current.any (·.postHook.isSome) = true

instance : DecidablePred Frame.Runs := fun frame => by
  unfold Frame.Runs
  cases frame.handling <;> infer_instance

/-- The innermost frame is the one at this address, and its function runs. -/
def Shadow.At (shadow : Shadow) (tsk frame : Nat) : Prop :=
  ((shadow.frames tsk).head?.any fun top => top.frame = frame ∧ top.handling = none) = true

instance (shadow : Shadow) (tsk frame : Nat) : Decidable (shadow.At tsk frame) :=
  inferInstanceAs (Decidable (_ = true))

/-- The innermost frame returns, and its handler is as `meets` says. -/
def Shadow.Returns (shadow : Shadow) (tsk : Nat) (meets : Handling → Bool) : Prop :=
  ((shadow.frames tsk).head?.any fun top => top.handling.any meets) = true

instance (shadow : Shadow) (tsk : Nat) (meets : Handling → Bool) :
    Decidable (shadow.Returns tsk meets) := inferInstanceAs (Decidable (_ = true))

/-- The well-nested steps. A call takes a frame below the innermost one, and the address
behind a call instruction is neither null nor the start of the trampoline. -/
def Shadow.Allows (kernel : Kernel) (shadow : Shadow) : Event → Prop
  | .enter tsk frame retAddr =>
      (retAddr ≠ 0 ∧ retAddr ≠ kernel.trampoline) ∧
        ∀ top ∈ (shadow.frames tsk).head?, frame < top.frame ∧ top.Runs
  | .hook tsk _ frame _ => shadow.At tsk frame
  | .leave tsk frame => shadow.At tsk frame
  | .callPostHook tsk =>
      shadow.Returns tsk fun handling => handling.current.isNone && !handling.todo.isEmpty
  | .postHookReturns tsk => shadow.Returns tsk fun handling => handling.current.isSome
  | .finish tsk =>
      shadow.Returns tsk fun handling => handling.current.isNone && handling.todo.isEmpty

instance (kernel : Kernel) (shadow : Shadow) (event : Event) :
    Decidable (shadow.Allows kernel event) := by
  cases event <;> unfold Shadow.Allows <;> infer_instance

/-- The copy of the data of a request. -/
def PreemptRethook.copied (prh : PreemptRethook) : Option (List Nat) :=
  if prh.dataSize = 0 then none else some (prh.data.take prh.dataSize)

def PreemptRethook.hook (prh : PreemptRethook) (allocs : Allocations) : Hook :=
  ⟨allocs.node.getD 0, prh.postHook, prh.copied⟩

/-- The run of a hook. -/
def Hook.ran (hook : Hook) (tsk retAddr : Nat) : List Observation :=
  match hook.postHook with
  | none => []
  | some postHook => [.postHook tsk hook.node postHook hook.data retAddr]

/-- The innermost frame and what happens to it. -/
def Shadow.replace (shadow : Shadow) (tsk : Nat) (frames : List Frame)
    (seen : List Observation) : Shadow :=
  ⟨Function.update shadow.frames tsk frames, shadow.trace ++ seen⟩

/-- The hooks of a frame run one after the other; then they are freed, and the frame
returns to where it would have without them. -/
def Shadow.after (shadow : Shadow) : Event → Shadow
  | .enter tsk frame retAddr =>
      shadow.replace tsk (⟨frame, retAddr, [], none⟩ :: shadow.frames tsk) []
  | .hook tsk prh _ allocs =>
      match shadow.frames tsk with
      | [] => shadow
      | top :: rest =>
          shadow.replace tsk ({ top with hooks := prh.hook allocs :: top.hooks } :: rest) []
  | .leave tsk _ =>
      match shadow.frames tsk with
      | [] => shadow
      | top :: rest =>
          if top.hooks = [] then shadow.replace tsk rest [.returned tsk top.retAddr]
          else shadow.replace tsk ({ top with handling := some ⟨none, top.hooks⟩ } :: rest) []
  | .callPostHook tsk =>
      match shadow.frames tsk with
      | ⟨frame, retAddr, hooks, some ⟨none, hook :: todo⟩⟩ :: rest =>
          shadow.replace tsk (⟨frame, retAddr, hooks, some ⟨some hook, todo⟩⟩ :: rest)
            (hook.ran tsk retAddr)
      | _ => shadow
  | .postHookReturns tsk =>
      match shadow.frames tsk with
      | ⟨frame, retAddr, hooks, some ⟨some _, todo⟩⟩ :: rest =>
          shadow.replace tsk (⟨frame, retAddr, hooks, some ⟨none, todo⟩⟩ :: rest) []
      | _ => shadow
  | .finish tsk =>
      match shadow.frames tsk with
      | [] => shadow
      | top :: rest =>
          shadow.replace tsk rest
            ((top.hooks.map Hook.node).map .freed ++ [.returned tsk top.retAddr])

/-- The task has an entry in `preempt_rh_task_nodes`. -/
def Machine.HasEntry (kernel : Kernel) (machine : Machine) (tsk : Nat) : Prop :=
  ∃ prhtn ∈ machine.table (kernel.hash tsk),
    ((machine.taskNodes prhtn).any fun entry => entry.tsk = tsk) = true

instance (kernel : Kernel) (machine : Machine) (tsk : Nat) :
    Decidable (machine.HasEntry kernel tsk) :=
  inferInstanceAs (Decidable (∃ prhtn ∈ machine.table (kernel.hash tsk), _))

/-- `kmalloc` gives what the hook asks for, in memory that is not in use. -/
def Machine.Allocates (kernel : Kernel) (machine : Machine) : Event → Prop
  | .hook tsk prh _ allocs =>
      (allocs.node.any fun node => decide (node ∉ machine.used)) = true ∧
      (prh.dataSize = 0 ∨ allocs.data = true) ∧
      match allocs.taskNode with
      | none => machine.HasEntry kernel tsk
      | some prhtn => machine.taskNodes prhtn = none
  | _ => True

instance (kernel : Kernel) (machine : Machine) (event : Event) :
    Decidable (machine.Allocates kernel event) := by
  unfold Machine.Allocates
  split
  · split <;> infer_instance
  · infer_instance

/-- The code and what it should do, side by side. -/
structure Hooked where
  machine : Machine
  shadow : Shadow

/-- A step of the tasks, where memory can be had. -/
def Hooked.Possible (kernel : Kernel) (hooked : Hooked) (event : Event) : Prop :=
  hooked.shadow.Allows kernel event ∧ hooked.machine.Allocates kernel event

instance (kernel : Kernel) (hooked : Hooked) (event : Event) :
    Decidable (hooked.Possible kernel event) := inferInstanceAs (Decidable (_ ∧ _))

/-- A step the code gets through. -/
def Hooked.step (kernel : Kernel) (hooked : Hooked) (event : Event) : Option Hooked :=
  match exec kernel event hooked.machine with
  | (.ok (), machine) => some ⟨machine, hooked.shadow.after event⟩
  | (.error _, _) => none

end Moocbt.Hooking
