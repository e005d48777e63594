import Mathlib.Logic.Function.Basic
import Moocbt.Data.LinkedQueue
import Moocbt.Logic.Program

/-! `preempt_rethook.c`: hooks on the return of a function. A hook saves the return address
on a list of the task and puts the trampoline in its place; the trampoline runs the post
hooks of the frame and returns to the saved address. -/

namespace Moocbt.Hooking

open LinkedQueue (Cell)
open Program

/-- The address of `preempt_rethook_trampoline`, and the bucket of a task in
`preempt_rh_task_nodes`. -/
structure Kernel where
  trampoline : Nat
  hash : Nat → Nat

/-- `struct preempt_rethook`. -/
structure PreemptRethook where
  postHook : Option Nat
  dataSize : Nat
  data : List Nat
  deriving DecidableEq, Repr

/-- `struct preempt_rh_node`, without its link. -/
structure RhNode where
  postHook : Option Nat
  retAddr : Nat
  frame : Nat
  data : Option (List Nat)
  deriving DecidableEq, Repr

/-- `struct preempt_rh_task_node`. -/
structure RhTaskNode where
  tsk : Nat
  first : Option Nat
  deriving DecidableEq, Repr

/-- Where the handler is: at the head of its first loop, in the call of a post hook, or
after the loop. -/
inductive Point where
  | loop
  | postHook
  | unlink
  deriving DecidableEq, Repr

/-- The locals of `preempt_rethook_trampoline_handler`. -/
structure Handler where
  frame : Nat
  correctRetAddr : Nat
  node : Nat
  prhtn : Nat
  first : Option Nat
  point : Point
  deriving DecidableEq, Repr

/-- `while (first)`. -/
def Handler.continue (handler : Handler) (first : Option Nat) : Handler :=
  { handler with first, point := if first.isSome then .loop else .unlink }

inductive Observation where
  | warned
  | postHook (tsk node hook : Nat) (data : Option (List Nat)) (retAddr : Nat)
  | freed (node : Nat)
  | returned (tsk retAddr : Nat)
  deriving DecidableEq, Repr

/-- The stacks of the tasks, the nodes with the addresses in use, the table of the task
nodes, and the handlers each task is in, innermost first. -/
structure Machine where
  stack : Nat → Nat → Nat
  nodes : Nat → Option (Cell RhNode)
  used : List Nat
  taskNodes : Nat → Option RhTaskNode
  table : Nat → List Nat
  handlers : Nat → List Handler
  trace : List Observation

/-- No task is hooked. -/
def Machine.boot (stack : Nat → Nat → Nat) : Machine :=
  ⟨stack, fun _ => none, [], fun _ => none, fun _ => [], fun _ => [], []⟩

/-- `BUG_ON`, an access to memory that is not there, or a list that does not end. The code
that a step is about may also not be what the task is at. -/
inductive Fault where
  | bug
  | oops
  | spins
  | elsewhere
  deriving DecidableEq, Repr

abbrev Rh := Program Fault Machine

def observe (observation : Observation) : Rh Unit :=
  update fun machine => { machine with trace := machine.trace ++ [observation] }

def nodeAt (node : Nat) : Rh (Cell RhNode) := do
  let machine ← read
  match machine.nodes node with
  | none => stop .oops
  | some cell => pure cell

def setNode (node : Nat) (cell : Cell RhNode) : Rh Unit :=
  update fun machine => { machine with nodes := Function.update machine.nodes node (some cell) }

def taskNodeAt (prhtn : Nat) : Rh RhTaskNode := do
  let machine ← read
  match machine.taskNodes prhtn with
  | none => stop .oops
  | some entry => pure entry

def setTaskNode (prhtn : Nat) (entry : RhTaskNode) : Rh Unit :=
  update fun machine =>
    { machine with taskNodes := Function.update machine.taskNodes prhtn (some entry) }

def setStack (tsk frame word : Nat) : Rh Unit :=
  update fun machine =>
    { machine with
      stack := Function.update machine.stack tsk
        (Function.update (machine.stack tsk) frame word) }

def setHandlers (tsk : Nat) (handlers : List Handler) : Rh Unit :=
  update fun machine => { machine with handlers := Function.update machine.handlers tsk handlers }

/-- What `kmalloc` gives for the node, its data and the task node. -/
structure Allocations where
  node : Option Nat
  data : Bool
  taskNode : Option Nat
  deriving DecidableEq, Repr

variable (kernel : Kernel)

def findInBucket (tsk : Nat) : List Nat → Rh (Option Nat)
  | [] => pure none
  | prhtn :: rest => do
      let entry ← taskNodeAt prhtn
      if entry.tsk = tsk then pure (some prhtn) else findInBucket tsk rest

-- The table is locked around each access, so that an access is one step.
def preemptRhTaskNodeFind (tsk : Nat) : Rh (Option Nat) := do
  let machine ← read
  findInBucket tsk (machine.table (kernel.hash tsk))

def preemptRethookRecycle (node : Nat) : Rh Unit := do
  let _ ← nodeAt node
  update fun machine =>
    { machine with
      nodes := Function.update machine.nodes node none
      used := machine.used.erase node }
  observe (.freed node)

/-- A node whose link and saved address are set when it is hooked. -/
def preemptRethookTryGet (prh : PreemptRethook) (allocs : Allocations) : Rh (Option Nat) :=
  match allocs.node with
  | none => pure none
  | some node =>
      if prh.dataSize ≠ 0 ∧ allocs.data = false then pure none
      else do
        let data := if prh.dataSize = 0 then none else some (prh.data.take prh.dataSize)
        setNode node ⟨none, ⟨prh.postHook, 0, 0, data⟩⟩
        update fun machine => { machine with used := node :: machine.used }
        pure (some node)

def preemptRethookPrepare (tsk node sp : Nat) : Rh Unit := do
  let machine ← read
  let cell ← nodeAt node
  setNode node { cell with value := { cell.value with retAddr := machine.stack tsk sp, frame := sp } }
  setStack tsk sp kernel.trampoline

/-- `llist_add`. -/
def llistAdd (node prhtn : Nat) : Rh Unit := do
  let entry ← taskNodeAt prhtn
  let cell ← nodeAt node
  setNode node { cell with next := entry.first }
  setTaskNode prhtn { entry with first := some node }

/-- The task node of the task, a new one where it has none. -/
def findOrAddTaskNode (tsk : Nat) (allocs : Allocations) : Rh (Option Nat) := do
  match ← preemptRhTaskNodeFind kernel tsk with
  | some prhtn => pure (some prhtn)
  | none =>
      match allocs.taskNode with
      | none => pure none
      | some prhtn => do
          setTaskNode prhtn ⟨tsk, none⟩
          update fun machine =>
            { machine with
              table := Function.update machine.table (kernel.hash tsk)
                (prhtn :: machine.table (kernel.hash tsk)) }
          pure (some prhtn)

def preemptRethookHook (tsk node sp : Nat) (allocs : Allocations) : Rh Unit := do
  match ← findOrAddTaskNode kernel tsk allocs with
  | none => pure ()
  | some prhtn => do
      preemptRethookPrepare kernel tsk node sp
      llistAdd node prhtn

def enomem : Nat := 12

def preHandlerPreemptRethook (tsk : Nat) (prh : PreemptRethook) (sp : Nat) (allocs : Allocations) :
    Rh Nat := do
  match ← preemptRethookTryGet prh allocs with
  | none => pure enomem
  | some node => do
      preemptRethookHook kernel tsk node sp allocs
      pure 0

/-- The loop of `preempt_rethook_find_ret_addr`, with so many nodes at most. -/
def findRetAddrFrom : Nat → Option Nat → Rh (Option (Nat × Nat))
  | _, none => pure none
  | 0, some _ => stop .spins
  | fuel + 1, some node => do
      let prhn ← nodeAt node
      if prhn.value.retAddr ≠ kernel.trampoline then pure (some (node, prhn.value.retAddr))
      else findRetAddrFrom fuel prhn.next

/-- `preempt_rethook_find_ret_addr`, as its only caller calls it: with `*cur` null. -/
def preemptRethookFindRetAddr (tsk : Nat) : Rh (Option (Nat × Nat)) := do
  match ← preemptRhTaskNodeFind kernel tsk with
  | none => do
      observe .warned
      pure none
  | some prhtn => do
      let entry ← taskNodeAt prhtn
      let machine ← read
      findRetAddrFrom kernel machine.used.length entry.first

/-- The handler up to its first loop. -/
def beginHandler (tsk frame : Nat) : Rh Unit := do
  match ← preemptRethookFindRetAddr kernel tsk with
  | none => stop .bug
  | some (node, correctRetAddr) =>
      if correctRetAddr = 0 then stop .bug
      else
        match ← preemptRhTaskNodeFind kernel tsk with
        | none => stop .bug
        | some prhtn => do
            let entry ← taskNodeAt prhtn
            let machine ← read
            let handler : Handler := ⟨frame, correctRetAddr, node, prhtn, none, .unlink⟩
            setHandlers tsk (handler.continue entry.first :: machine.handlers tsk)

/-- `ret` with the stack pointer at the frame: to the address there, which may be the
trampoline. It pushes itself, so that the frame of the handler is the same word. -/
def returnFrom (tsk frame : Nat) : Rh Unit := do
  let machine ← read
  if machine.stack tsk frame = kernel.trampoline then beginHandler kernel tsk frame
  else observe (.returned tsk (machine.stack tsk frame))

/-- The handler that runs, with those it interrupted. -/
def innermost (tsk : Nat) (point : Point) : Rh (Handler × List Handler) := do
  let machine ← read
  match machine.handlers tsk with
  | [] => stop .elsewhere
  | handler :: rest => if handler.point = point then pure (handler, rest) else stop .elsewhere

/-- A turn of the first loop up to the call of the post hook. -/
def callPostHook (tsk : Nat) : Rh Unit := do
  let (handler, rest) ← innermost tsk .loop
  match handler.first with
  | none => stop .oops
  | some first => do
      let prhn ← nodeAt first
      if prhn.value.frame ≠ handler.frame then do
        observe .warned
        setHandlers tsk ({ handler with point := .unlink } :: rest)
      else do
        setHandlers tsk ({ handler with point := .postHook } :: rest)
        match prhn.value.postHook with
        | none => pure ()
        | some hook =>
            observe (.postHook tsk first hook prhn.value.data handler.correctRetAddr)

/-- The rest of the turn, once the post hook has returned. -/
def postHookReturns (tsk : Nat) : Rh Unit := do
  let (handler, rest) ← innermost tsk .postHook
  match handler.first with
  | none => stop .oops
  | some first =>
      if first = handler.node then setHandlers tsk ({ handler with point := .unlink } :: rest)
      else do
        let prhn ← nodeAt first
        setHandlers tsk (handler.continue prhn.next :: rest)

/-- The last loop of the handler. -/
def recycleFrom : Nat → Option Nat → Rh Unit
  | _, none => pure ()
  | 0, some _ => stop .spins
  | fuel + 1, some first => do
      let prhn ← nodeAt first
      preemptRethookRecycle first
      recycleFrom fuel prhn.next

/-- `hash_del` and `kfree`. -/
def dropTaskNode (prhtn : Nat) : Rh Unit :=
  update fun machine =>
    { machine with
      table := fun bucket => (machine.table bucket).erase prhtn
      taskNodes := Function.update machine.taskNodes prhtn none }

/-- The handler after its first loop, and the return from the trampoline. -/
def finishHandler (tsk : Nat) : Rh Unit := do
  let (handler, rest) ← innermost tsk .unlink
  setStack tsk handler.frame handler.correctRetAddr
  let entry ← taskNodeAt handler.prhtn
  let prhn ← nodeAt handler.node
  setTaskNode handler.prhtn { entry with first := prhn.next }
  setNode handler.node { prhn with next := none }
  let machine ← read
  recycleFrom machine.used.length entry.first
  let entry ← taskNodeAt handler.prhtn
  when entry.first.isNone (dropTaskNode handler.prhtn)
  setHandlers tsk rest
  let machine ← read
  observe (.returned tsk (machine.stack tsk handler.frame))

/-- What the tasks do. A call pushes its return address; a hook is on the entry of a
function whose return address is at the frame, called or jumped to. -/
inductive Event where
  | enter (tsk frame retAddr : Nat)
  | hook (tsk : Nat) (prh : PreemptRethook) (frame : Nat) (allocs : Allocations)
  | leave (tsk frame : Nat)
  | callPostHook (tsk : Nat)
  | postHookReturns (tsk : Nat)
  | finish (tsk : Nat)
  deriving DecidableEq, Repr

def Event.tsk : Event → Nat
  | enter tsk _ _ => tsk
  | hook tsk _ _ _ => tsk
  | leave tsk _ => tsk
  | callPostHook tsk => tsk
  | postHookReturns tsk => tsk
  | finish tsk => tsk

def exec : Event → Rh Unit
  | .enter tsk frame retAddr => setStack tsk frame retAddr
  | .hook tsk prh frame allocs => do
      let _ ← preHandlerPreemptRethook kernel tsk prh frame allocs
      pure ()
  | .leave tsk frame => returnFrom kernel tsk frame
  | .callPostHook tsk => callPostHook tsk
  | .postHookReturns tsk => postHookReturns tsk
  | .finish tsk => finishHandler tsk

end Moocbt.Hooking
