import Moocbt.Driver.Committing
import Moocbt.Driver.Ioctls

/-! What a change of mode does to the table: a new device takes the place of the old one, or
nothing is left of it there. -/

namespace Moocbt.Driver

open Cow (Errno Stop)
open Program
open TraceTable (Alike Operation Residue)

variable {α : Type} {machine : Machine} {kernel : Kernel} {dev oldDev : Address}
  {device old : SnapDevice} {bdev minor : Nat} {paths : CowPath → Prop} {leaky : Prop}

/-- What an event does that concerns one minor. -/
structure Moved (machine : Machine) (leaky : Prop) (minor : Nat) (before after : Kernel) :
    Prop where
  faults : after.faults = before.faults
  slots : ∀ other, other ≠ minor → after.snapDevices other = before.snapDevices other
  devices : ∀ other dev, other ≠ minor → before.snapDevices other = some dev →
    after.devices dev = before.devices dev
  wired : after.Wired machine
  operations : TraceTable.Operations machine leaky before.tracing after.tracing

theorem Moved.refl (minor : Nat) (wired : kernel.Wired machine) :
    Moved machine leaky minor kernel kernel :=
  ⟨rfl, fun _ _ => rfl, fun _ _ _ _ => rfl, wired, .refl⟩

theorem Moved.trans {before middle after : Kernel} (left : Moved machine leaky minor before middle)
    (right : Moved machine leaky minor middle after) : Moved machine leaky minor before after where
  faults := right.faults.trans left.faults
  slots := fun other away => (right.slots other away).trans (left.slots other away)
  devices := fun other dev away held =>
    (right.devices other dev away ((left.slots other away).trans held)).trans
      (left.devices other dev away held)
  wired := right.wired
  operations := left.operations.trans right.operations

theorem Apart.moved {before after : Kernel} (apart : Apart dev paths before after)
    (slots : ∀ other, other ≠ minor → after.snapDevices other = before.snapDevices other)
    (away : ∀ other, other ≠ minor → before.snapDevices other ≠ some dev)
    (wired : after.Wired machine)
    (operations : TraceTable.Operations machine leaky before.tracing after.tracing) :
    Moved machine leaky minor before after where
  faults := apart.faults
  slots := slots
  devices := by
    intro other held there slot
    apply apart.devices
    intro same
    subst same
    exact away other there slot
  wired := wired
  operations := operations

theorem updated {table table' : Nat → Option Address} {slot : Option Address}
    (same : table' = Function.update table minor slot) (other : Nat) (away : other ≠ minor) :
    table' other = table other := by
  rw [same, Function.update_of_ne away]

theorem Missed.moved {before after : Kernel} (minor : Nat) (outside : before.Outside dev)
    (missed : Missed machine leaky dev paths before after) :
    Moved machine leaky minor before after :=
  missed.apart.moved (fun other _ => congrFun missed.table other) (fun other _ => outside other)
    missed.wired missed.operations

theorem Placed.moved {good : SnapDevice → Prop} {before after : Kernel}
    (outside : before.Outside dev) (placed : Placed machine leaky dev paths minor good before after) :
    Moved machine leaky minor before after :=
  placed.apart.moved (updated placed.table) (fun other _ => outside other) placed.wired
    placed.operations

theorem Destroyed.moved {before after : Kernel} (wired : before.Wired machine)
    (slot : before.snapDevices minor = some dev)
    (destroyed : Destroyed machine leaky dev paths minor before after) :
    Moved machine leaky minor before after :=
  destroyed.apart.moved (updated destroyed.table)
    (fun other away held => away (wired.apart other minor dev held slot)) destroyed.wired
    destroyed.operations

/-- What a device of the table does on its own. -/
theorem Local.moved {good : SnapDevice → Prop} {after : Kernel}
    (held : kernel.Holds minor dev device) (wired : kernel.Wired machine)
    (here : Local dev paths kernel good after)
    (alike : ∀ device', good device' → Alike device device') :
    Moved machine leaky minor kernel after := by
  obtain ⟨works, wired'⟩ : Operation machine leaky kernel.tracing after.tracing ∧
      after.Wired machine := here.works held wired alike
  apply here.elsewhere.toApart.moved
  · exact fun other _ => congrFun here.elsewhere.table other
  · exact fun other away slot => away (wired.apart other minor dev slot held.1)
  · exact wired'
  · exact .single works

/-- What a device in no slot does on its own. -/
theorem Local.moved_outside {good : SnapDevice → Prop} {after : Kernel} (minor : Nat)
    (outside : kernel.Outside dev) (wired : kernel.Wired machine)
    (here : Local dev paths kernel good after) : Moved machine leaky minor kernel after := by
  obtain ⟨device', found, _⟩ := here.device
  apply here.elsewhere.toApart.moved
  · exact fun other _ => congrFun here.elsewhere.table other
  · exact fun other _ => outside other
  · exact here.elsewhere.wired wired (by simp [found])
  · rw [here.elsewhere.tracing_outside outside]

/-- A new device is in the slot of the old one, which is still there. -/
structure Swapped (machine : Machine) (leaky : Prop) (dev oldDev : Address) (minor : Nat)
    (before after : Kernel) : Prop extends Moved machine leaky minor before after where
  slot : after.snapDevices minor = some dev
  outside : after.Outside oldDev
  device : (after.devices dev).isSome
  old : (after.devices oldDev).isSome

namespace Swapped

variable {before : Kernel} {program : KernelM α}

theorem differs (here : Swapped machine leaky dev oldDev minor before kernel) : dev ≠ oldDev := by
  intro same
  subst same
  exact here.outside minor here.slot

/-- Nobody else has the old device any more. -/
theorem oldStep {done : α → SnapDevice → Prop} {stopped : Stop → SnapDevice → Prop}
    (next : ∀ old, Concerns oldDev (fun _ => True) old program done stopped) :
    Maintains (Swapped machine leaky dev oldDev minor before) program := by
  intro middle here
  obtain ⟨old, found⟩ := Option.isSome_iff_exists.mp here.old
  have after : ∀ {good : SnapDevice → Prop} {after : Kernel},
      Local oldDev (fun _ => True) middle good after →
      Swapped machine leaky dev oldDev minor before after := by
    intro good after there
    obtain ⟨old', found', _⟩ := there.device
    refine ⟨here.toMoved.trans (there.moved_outside minor here.outside here.wired), ?_, ?_, ?_, ?_⟩
    · rw [there.elsewhere.table]
      exact here.slot
    · exact here.outside.unchanged there.elsewhere.table
    · rw [there.elsewhere.devices dev here.differs]
      exact here.device
    · simp [found']
  apply wp_mono (next old middle found fun _ _ _ _ => trivial)
  · exact fun _ _ => after
  · exact fun _ _ => after

theorem newStep (next : ∀ device, Concerns dev (fun _ => True) device program
      (fun _ => Alike device) (fun _ => Alike device)) :
    Maintains (Swapped machine leaky dev oldDev minor before) program := by
  intro middle here
  obtain ⟨device, found⟩ := Option.isSome_iff_exists.mp here.device
  have after : ∀ {after : Kernel}, Local dev (fun _ => True) middle (Alike device) after →
      Swapped machine leaky dev oldDev minor before after := by
    intro after there
    obtain ⟨device', found', _⟩ := there.device
    have moved : Moved machine leaky minor middle after :=
      there.moved ⟨here.slot, found⟩ here.wired fun _ => id
    refine ⟨here.toMoved.trans moved, ?_, ?_, ?_, ?_⟩
    · rw [there.elsewhere.table]
      exact here.slot
    · exact here.outside.unchanged there.elsewhere.table
    · simp [found']
    · rw [there.elsewhere.devices oldDev (Ne.symm here.differs)]
      exact here.old
  apply wp_mono (next device middle found fun _ _ _ _ => trivial)
  · exact fun _ _ => after
  · exact fun _ _ => after

theorem frees (here : Swapped machine leaky dev oldDev minor before kernel) :
    wp (kfreeDev oldDev) (fun _ => Moved machine leaky minor before) (fun _ _ => False) kernel := by
  have missed : Missed machine leaky oldDev (fun _ => True) kernel kernel := Missed.refl here.wired
  apply wp_mono (kfreeDev_missed here.outside missed)
  · exact fun _ _ there => here.toMoved.trans (there.moved minor here.outside)
  · exact fun _ _ => id

end Swapped

end Moocbt.Driver
