import Moocbt.Driver.Events

/-! What the steps that concern one device leave alone: everything but that device and the COW
managers and files of some paths. -/

namespace Moocbt.Driver

open Cow (CowM CowState Errno Stop)
open Program

variable {α : Type} {kernel : Kernel} {dev : Address} {device : SnapDevice}
  {paths : CowPath → Prop}

section rules

variable {done : Unit → Kernel → Prop} {stopped : Stop → Kernel → Prop}

@[simp] theorem Kernel.setDev_faults (kernel : Kernel) (dev : Address) (device : SnapDevice) :
    (kernel.setDev dev device).faults = kernel.faults := rfl

@[simp] theorem wp_attempt (step : Step) :
    wp (attempt step) done stopped kernel ↔
      match kernel.faults step with
      | none => done () kernel
      | some error => stopped (.errno error) kernel := by
  unfold attempt
  rw [wp_bind, wp_read]
  cases kernel.faults step <;> rfl

@[simp] theorem wp_deref {done : α → Kernel → Prop} (pointer : Option α) :
    wp (deref pointer) done stopped kernel ↔
      match pointer with
      | none => stopped .oops kernel
      | some value => done value kernel := by
  cases pointer <;> rfl

theorem wp_deref_some {done : α → Kernel → Prop} {pointer : Option α} {value : α}
    (held : pointer = some value) :
    wp (deref pointer) done stopped kernel ↔ done value kernel := by
  rw [held]
  rfl

theorem wp_getDev {done : SnapDevice → Kernel → Prop} (found : kernel.devices dev = some device) :
    wp (getDev dev) done stopped kernel ↔ done device kernel := by
  unfold getDev
  rw [wp_bind, wp_read, found]
  rfl

theorem wp_setDev (found : kernel.devices dev = some device) (change : SnapDevice → SnapDevice) :
    wp (setDev dev change) done stopped kernel ↔ done () (kernel.setDev dev (change device)) := by
  unfold setDev
  rw [wp_bind, wp_getDev found]
  rfl

theorem wp_getDev_freed {done : SnapDevice → Kernel → Prop} (freed : kernel.devices dev = none) :
    wp (getDev dev) done stopped kernel ↔ stopped .oops kernel := by
  unfold getDev
  rw [wp_bind, wp_read, freed]
  rfl

theorem wp_setDev_freed (freed : kernel.devices dev = none) (change : SnapDevice → SnapDevice) :
    wp (setDev dev change) done stopped kernel ↔ stopped .oops kernel := by
  unfold setDev
  rw [wp_bind, wp_getDev_freed freed]

@[simp] theorem wp_unwinding {done : α → Kernel → Prop} (program : KernelM α)
    (cleanup : Errno → KernelM Unit) :
    wp (unwinding program cleanup) done stopped kernel ↔
      wp program done
        (fun reason middle =>
          match reason with
          | .errno error =>
              wp (cleanup error) (fun _ => stopped (.errno error)) stopped middle
          | reason => stopped reason middle) kernel := by
  unfold unwinding
  rw [wp_handle]
  constructor
  all_goals
    intro holds
    apply wp_mono holds
    · exact fun _ _ => id
    · intro reason after stop
      cases reason with
      | errno error => simpa only [wp_bind, wp_stop] using stop
      | oops => exact stop
      | crash => exact stop

@[simp] theorem wp_catching (program : KernelM Unit) (handler : Errno → KernelM Unit) :
    wp (catching program handler) done stopped kernel ↔
      wp program done
        (fun reason middle =>
          match reason with
          | .errno error => wp (handler error) done stopped middle
          | reason => stopped reason middle) kernel := by
  unfold catching
  rw [wp_handle]
  constructor
  all_goals
    intro holds
    apply wp_mono holds
    · exact fun _ _ => id
    · intro reason after stop
      cases reason <;> exact stop

@[simp] theorem wp_ignoring (program : KernelM Unit) :
    wp (ignoring program) done stopped kernel ↔
      wp program done
        (fun reason middle =>
          match reason with
          | .errno _ => done () middle
          | reason => stopped reason middle) kernel := by
  unfold ignoring
  rw [wp_catching]
  rfl

@[simp] theorem wp_returned {done : Option Errno → Kernel → Prop} (program : KernelM Unit) :
    wp (returned program) done stopped kernel ↔
      wp program (fun _ => done none)
        (fun reason middle =>
          match reason with
          | .errno error => done (some error) middle
          | reason => stopped reason middle) kernel := by
  unfold returned
  rw [wp_handle, wp_bind]
  constructor
  all_goals
    intro holds
    apply wp_mono holds (fun _ _ => id)
    intro reason middle
    cases reason <;> exact id

@[simp] theorem wp_opening (path : CowPath) (refused opened : KernelM Unit) :
    wp (opening path refused opened) done stopped kernel ↔
      if kernel.immutable path = true then wp refused done stopped kernel
      else wp opened done stopped kernel := by
  unfold opening
  rw [wp_bind, wp_read, wp_ite]

theorem wp_opening_each {done : Unit → Kernel → Prop} {path : CowPath} {cow : Address}
    {refused opened : Cow.CowM Unit}
    (each : ∀ program, wp (runCow cow program) done stopped kernel) :
    wp (opening path (runCow cow refused) (runCow cow opened)) done stopped kernel := by
  rw [wp_opening]
  split
  · exact each refused
  · exact each opened

/-- The machine with a new manager. -/
def Kernel.withCow (kernel : Kernel) (path : CowPath) (owner : Option Address) : Kernel :=
  { kernel with
    fresh := kernel.fresh + 1
    cows := Function.update kernel.cows kernel.fresh (some ⟨Cow.CowManager.zero, path⟩)
    cowDev := Function.update kernel.cowDev kernel.fresh owner }

theorem Kernel.withCow_stored (kernel : Kernel) (path : CowPath) (owner : Option Address) :
    (kernel.withCow path owner).cows kernel.fresh = some ⟨Cow.CowManager.zero, path⟩ :=
  Function.update_self _ _ _

theorem wp_newCow (path : CowPath) (owner : Option Address) (refused opened : CowM Unit) :
    wp (newCow dev path owner refused opened) done stopped kernel ↔
      wp (do
          unwinding (opening path (runCow kernel.fresh refused) (runCow kernel.fresh opened))
            fun _ => do
              kfreeCow kernel.fresh
              setDev dev fun device => { device with sdCow := none }
          setDev dev fun device => { device with sdCow := some kernel.fresh })
        done stopped (kernel.withCow path owner) := by
  unfold newCow kzalloc setCow setCowDev
  rw [wp_bind, wp_bind, wp_read, wp_bind, wp_update, wp_pure, wp_bind, wp_update, wp_bind,
    wp_update]
  rfl

theorem wp_runCow {done : α → Kernel → Prop} {cow : Address} {object : CowObject}
    (found : kernel.cows cow = some object) (program : CowM α) :
    wp (runCow cow program) done stopped kernel ↔
      wp program (fun value after => done value (kernel.putCow cow object after))
        (fun reason after => stopped reason (kernel.putCow cow object after))
        ⟨object.cm, kernel.files object.path, kernel.outcomes⟩ := by
  unfold runCow wp
  simp only [found]
  rcases program ⟨object.cm, kernel.files object.path, kernel.outcomes⟩ with ⟨_ | _, _⟩ <;> rfl

theorem wp_runCow_freed {done : α → Kernel → Prop} {cow : Address}
    (freed : kernel.cows cow = none) (program : CowM α) :
    wp (runCow cow program) done stopped kernel ↔ stopped .oops kernel := by
  unfold runCow wp
  simp only [freed]

end rules

/-- What a program that returned an error code left. -/
def OnError (left : Kernel → Prop) (reason : Stop) (after : Kernel) : Prop :=
  ∀ error, reason = .errno error → left after

theorem OnError.oops {left : Kernel → Prop} (after : Kernel) : OnError left .oops after := by
  intro _ same
  contradiction

theorem OnError.crash {left : Kernel → Prop} (after : Kernel) : OnError left .crash after := by
  intro _ same
  contradiction

theorem OnError.mono {left left' : Kernel → Prop} {reason : Stop} {after : Kernel}
    (failed : OnError left reason after) (weaker : ∀ after, left after → left' after) :
    OnError left' reason after :=
  fun error same => weaker after (failed error same)

/-- An event leaves what its program does, or the machine starts again. -/
theorem Kernel.settle_holds {machine : Machine} {inv : Kernel → Prop} {program : KernelM Unit}
    (boot : ∀ files, inv (machine.boot files))
    (spec : wp program (fun _ => inv) (OnError inv) kernel) :
    inv (Kernel.settle machine (program kernel)) := by
  unfold wp at spec
  rcases ran : program kernel with ⟨reason | _, after⟩
  · rw [ran] at spec
    cases reason with
    | errno error => exact spec error rfl
    | oops => exact boot after.files
    | crash => exact boot after.files
  · rw [ran] at spec
    exact spec

/-- What a failed program leaves is what its cleanup makes of it. -/
theorem wp_unwinding_errors {program : KernelM α} {cleanup : Errno → KernelM Unit}
    {done : α → Kernel → Prop} {left left' : Kernel → Prop}
    (body : wp program done (OnError left) kernel)
    (cleans : ∀ error after, left after → wp (cleanup error) (fun _ => left') (OnError left') after) :
    wp (unwinding program cleanup) done (OnError left') kernel := by
  rw [wp_unwinding]
  apply wp_mono body (fun _ _ => id)
  intro reason after failed
  cases reason with
  | errno error =>
      apply wp_mono (cleans error after (failed error rfl))
      · exact fun _ _ holds _ _ => holds
      · exact fun _ _ => id
  | oops => exact OnError.oops _
  | crash => exact OnError.crash _

theorem wp_catching_errors {program : KernelM Unit} {handler : Errno → KernelM Unit}
    {done : Unit → Kernel → Prop} {left left' : Kernel → Prop}
    (body : wp program done (OnError left) kernel)
    (handles : ∀ error after, left after → wp (handler error) done (OnError left') after) :
    wp (catching program handler) done (OnError left') kernel := by
  rw [wp_catching]
  apply wp_mono body (fun _ _ => id)
  intro reason after failed
  cases reason with
  | errno error => exact handles error after (failed error rfl)
  | oops => exact OnError.oops _
  | crash => exact OnError.crash _

theorem wp_returned_errors {program : KernelM Unit} {done : Option Errno → Kernel → Prop}
    {left left' : Kernel → Prop}
    (body : wp program (fun _ => done none) (OnError left) kernel)
    (handles : ∀ error after, left after → done (some error) after) :
    wp (returned program) done (OnError left') kernel := by
  rw [wp_returned]
  apply wp_mono body (fun _ _ => id)
  intro reason after failed
  cases reason with
  | errno error => exact handles error after (failed error rfl)
  | oops => exact OnError.oops _
  | crash => exact OnError.crash _

/-- Nothing changed but the device, the managers and files of these paths, memory that was
free, and the way devices trace. -/
structure Apart (dev : Address) (paths : CowPath → Prop) (before after : Kernel) : Prop where
  mounted : after.mounted = before.mounted
  faults : after.faults = before.faults
  fresh : before.fresh ≤ after.fresh
  devices : ∀ other, other ≠ dev → after.devices other = before.devices other
  cows : ∀ cow object, cow < before.fresh → before.cows cow = some object → ¬ paths object.path →
    after.cows cow = some object
  objects : ∀ cow object, after.cows cow = some object →
    paths object.path ∨ before.cows cow = some object
  cowDev : ∀ cow, cow < before.fresh → after.cowDev cow = before.cowDev cow
  files : ∀ path, ¬ paths path → after.files path = before.files path
  immutable : ∀ path, ¬ paths path → after.immutable path = before.immutable path

theorem Apart.trans {before middle after : Kernel} (left : Apart dev paths before middle)
    (right : Apart dev paths middle after) : Apart dev paths before after where
  mounted := right.mounted.trans left.mounted
  faults := right.faults.trans left.faults
  fresh := Nat.le_trans left.fresh right.fresh
  devices := fun other apart => (right.devices other apart).trans (left.devices other apart)
  cows := fun cow object allocated found outside =>
    right.cows cow object (Nat.lt_of_lt_of_le allocated left.fresh)
      (left.cows cow object allocated found outside) outside
  objects := fun cow object found =>
    (right.objects cow object found).elim .inl (left.objects cow object)
  cowDev := fun cow allocated =>
    (right.cowDev cow (Nat.lt_of_lt_of_le allocated left.fresh)).trans (left.cowDev cow allocated)
  files := fun path outside => (right.files path outside).trans (left.files path outside)
  immutable := fun path outside =>
    (right.immutable path outside).trans (left.immutable path outside)

theorem Apart.weaken {before after : Kernel} {more : CowPath → Prop}
    (here : Apart dev paths before after) (wider : ∀ path, paths path → more path) :
    Apart dev more before after :=
  { here with
    cows := fun cow object allocated found outside =>
      here.cows cow object allocated found fun inside => outside (wider _ inside)
    objects := fun cow object found => (here.objects cow object found).imp_left (wider _)
    files := fun path outside => here.files path fun inside => outside (wider _ inside)
    immutable := fun path outside => here.immutable path fun inside => outside (wider _ inside) }

/-- Nor did the way devices trace. -/
structure Elsewhere (dev : Address) (paths : CowPath → Prop) (before after : Kernel) : Prop
    extends Apart dev paths before after where
  table : after.snapDevices = before.snapDevices
  lowest : after.lowestMinor = before.lowestMinor
  highest : after.highestMinor = before.highestMinor
  disks : after.disks = before.disks
  copies : after.copies = before.copies
  tracingOps : after.tracingOps = before.tracingOps

theorem Elsewhere.refl (dev : Address) (paths : CowPath → Prop) (kernel : Kernel) :
    Elsewhere dev paths kernel kernel where
  mounted := rfl
  faults := rfl
  fresh := Nat.le_refl _
  devices := fun _ _ => rfl
  cows := fun _ _ _ found _ => found
  objects := fun _ _ => .inr
  cowDev := fun _ _ => rfl
  files := fun _ _ => rfl
  immutable := fun _ _ => rfl
  table := rfl
  lowest := rfl
  highest := rfl
  disks := rfl
  copies := rfl
  tracingOps := rfl

theorem Elsewhere.trans {before middle after : Kernel} (left : Elsewhere dev paths before middle)
    (right : Elsewhere dev paths middle after) : Elsewhere dev paths before after where
  toApart := left.toApart.trans right.toApart
  table := right.table.trans left.table
  lowest := right.lowest.trans left.lowest
  highest := right.highest.trans left.highest
  disks := right.disks.trans left.disks
  copies := right.copies.trans left.copies
  tracingOps := right.tracingOps.trans left.tracingOps

theorem Elsewhere.setDev (dev : Address) (paths : CowPath → Prop) (kernel : Kernel)
    (device : SnapDevice) : Elsewhere dev paths kernel (kernel.setDev dev device) :=
  { Elsewhere.refl dev paths kernel with
    devices := fun _ apart => Function.update_of_ne apart _ _ }

@[simp] theorem Kernel.setDev_same (kernel : Kernel) (dev : Address) (device : SnapDevice) :
    (kernel.setDev dev device).devices dev = some device := Function.update_self _ _ _

theorem apart {path other : CowPath} (outside : ¬ paths path) (inside : paths other) :
    path ≠ other := by
  intro same
  rw [same] at outside
  exact outside inside

theorem Elsewhere.putCow {cow : Address} {object : CowObject} {after : CowState}
    (found : kernel.cows cow = some object) (inside : paths object.path) :
    Elsewhere dev paths kernel (kernel.putCow cow object after) :=
  { Elsewhere.refl dev paths kernel with
    cows := by
      intro other held _ stored outside
      by_cases same : other = cow
      · subst same
        rw [stored] at found
        cases found
        exact absurd inside outside
      · exact (Function.update_of_ne same _ _).trans stored
    objects := by
      intro other held stored
      by_cases same : other = cow
      · subst same
        cases (Function.update_self _ _ _).symm.trans stored
        exact .inl inside
      · exact .inr ((Function.update_of_ne same _ _).symm.trans stored)
    files := fun path outside => Function.update_of_ne (apart outside inside) _ _
    immutable := fun path outside => Function.update_of_ne (apart outside inside) _ _ }

/-- The manager of the device, if any, works on one of the paths. -/
def Owns (paths : CowPath → Prop) (kernel : Kernel) (device : SnapDevice) : Prop :=
  ∀ cow object, device.sdCow = some cow → kernel.cows cow = some object → paths object.path

/-- Whatever other device it was that changed. -/
theorem Owns.apart {before after : Kernel} (owns : Owns paths before device)
    (apart : Apart dev paths before after) : Owns paths after device := by
  intro cow object held stored
  rcases apart.objects cow object stored with inside | same
  · exact inside
  · exact owns cow object held same

/-- A step that concerned one device left it like this. -/
structure Local (dev : Address) (paths : CowPath → Prop) (before : Kernel)
    (good : SnapDevice → Prop) (after : Kernel) : Prop where
  elsewhere : Elsewhere dev paths before after
  device : ∃ device, after.devices dev = some device ∧ Owns paths after device ∧ good device

theorem Local.step {good : SnapDevice → Prop} {before middle : Kernel} {program : KernelM α}
    {done : α → SnapDevice → Prop} {stopped : Stop → SnapDevice → Prop}
    (here : Local dev paths before good middle)
    (next : ∀ device, middle.devices dev = some device → Owns paths middle device → good device →
      wp program (fun value => Local dev paths middle (done value))
        (fun reason => Local dev paths middle (stopped reason)) middle) :
    wp program (fun value => Local dev paths before (done value))
      (fun reason => Local dev paths before (stopped reason)) middle := by
  obtain ⟨device, found, owns, holds⟩ := here.device
  apply wp_mono (next device found owns holds)
  · exact fun _ _ later => ⟨here.elsewhere.trans later.elsewhere, later.device⟩
  · exact fun _ _ later => ⟨here.elsewhere.trans later.elsewhere, later.device⟩

theorem Local.weaken {good better : SnapDevice → Prop} {before after : Kernel}
    (here : Local dev paths before better after) (weaker : ∀ device, better device → good device) :
    Local dev paths before good after := by
  obtain ⟨device, found, owns, holds⟩ := here.device
  exact ⟨here.elsewhere, device, found, owns, weaker device holds⟩

theorem Local.here {good : SnapDevice → Prop} (found : kernel.devices dev = some device)
    (owns : Owns paths kernel device) (holds : good device) :
    Local dev paths kernel good kernel :=
  ⟨.refl dev paths kernel, device, found, owns, holds⟩

theorem Local.setDev {good : SnapDevice → Prop} {device' : SnapDevice}
    (owns : Owns paths kernel device) (cow : device'.sdCow = device.sdCow ∨ device'.sdCow = none)
    (holds : good device') : Local dev paths kernel good (kernel.setDev dev device') := by
  apply Local.mk (Elsewhere.setDev dev paths kernel device')
  refine ⟨device', kernel.setDev_same dev device', ?_, holds⟩
  intro address object kept stored
  rcases cow with same | gone
  · exact owns address object (same ▸ kept) stored
  · rw [gone] at kept
    contradiction

end Moocbt.Driver
