import Moocbt.Data.Ownership
import Moocbt.Driver.Counting
import Moocbt.Driver.Events
import Moocbt.Driver.NoErrorCode
import Moocbt.Driver.Stable
import Moocbt.Logic.Transition

/-! The COW manager a device points to is in memory, in every state of every run. -/

namespace Moocbt.Driver

open Cow (CowM Errno Stop)
open Program
open Ownership (Owned)

variable {machine : Machine} {kernel before after : Kernel} {dev other cow : Address}
  {device device' : SnapDevice} {minor bdev : Nat} {α : Type} {but : Address → Prop}

def Kernel.heldCow (kernel : Kernel) (dev : Address) : Option Address :=
  (kernel.devices dev).bind SnapDevice.sdCow

/-- Each manager a device points to is in memory, and belongs to one device but for these. -/
abbrev Kernel.Owning (but : Address → Prop) (kernel : Kernel) : Prop :=
  Owned but kernel.heldCow (fun cow => (kernel.cows cow).isSome = true) kernel.fresh

theorem heldCow_setDev (kernel : Kernel) (dev : Address) (device : SnapDevice) :
    (kernel.setDev dev device).heldCow = Function.update kernel.heldCow dev device.sdCow := by
  funext other
  by_cases here : other = dev
  · rw [here, Function.update_self]
    simp [Kernel.heldCow]
  · rw [Function.update_of_ne here]
    unfold Kernel.heldCow
    rw [show (kernel.setDev dev device).devices other = kernel.devices other from
      Function.update_of_ne here _ _]

theorem heldCow_found (found : kernel.devices dev = some device) :
    kernel.heldCow dev = device.sdCow := by
  simp [Kernel.heldCow, found]

namespace Owning

/-- A device keeps its manager, or points to none. -/
theorem setDev (owning : kernel.Owning but)
    (cow : device'.sdCow = kernel.heldCow dev ∨ device'.sdCow = none) :
    (kernel.setDev dev device').Owning but := by
  apply owning.mono _ (fun _ => Iff.rfl) (Nat.le_refl _)
  intro other
  rw [heldCow_setDev]
  by_cases here : other = dev
  · rw [here, Function.update_self]
    exact cow
  · exact .inl (Function.update_of_ne here _ _)

theorem stable : Stable (Kernel.Owning but) where
  update := by
    intro before after owning same devices fresh
    have cows : after.cows = before.cows := congrArg Side.cows same
    apply owning.mono _ _ fresh
    · intro dev
      unfold Kernel.heldCow
      rw [devices]
      exact .inl rfl
    · intro cow
      rw [cows]
  setDev := fun owning found _ _ same _ =>
    setDev owning (.inl (same.trans (heldCow_found found).symm))

/-- Which manager a device has does not change either. -/
theorem stable_held (held : Option Address) :
    Stable fun kernel => kernel.Owning but ∧ kernel.heldCow dev = held where
  update := by
    intro before after holds same devices fresh
    refine ⟨stable.update holds.1 same devices fresh, ?_⟩
    unfold Kernel.heldCow
    rw [devices]
    exact holds.2
  setDev := by
    intro kernel other device device' holds found pending verified same code
    refine ⟨stable.setDev holds.1 found pending verified same code, ?_⟩
    rw [heldCow_setDev]
    by_cases here : dev = other
    · subst here
      rw [Function.update_self, same, ← heldCow_found found]
      exact holds.2
    · rw [Function.update_of_ne here]
      exact holds.2

theorem loses {change : SnapDevice → SnapDevice}
    (cow : ∀ device, (change device).sdCow = device.sdCow ∨ (change device).sdCow = none) :
    Maintains (Kernel.Owning but) (Driver.setDev dev change) := by
  intro kernel owning
  cases found : kernel.devices dev with
  | none =>
      rw [wp_setDev_freed found]
      exact owning
  | some device =>
      rw [wp_setDev found]
      apply setDev owning
      rw [heldCow_found found]
      exact cow device

/-- A manager works on its file: the same managers are in memory. -/
structure Ran (but : Address → Prop) (before after : Kernel) : Prop where
  owning : after.Owning but
  devices : after.devices = before.devices
  cows : ∀ cow, (after.cows cow).isSome = (before.cows cow).isSome

theorem putCow {object : CowObject} {state : Cow.CowState} (owning : kernel.Owning but)
    (found : kernel.cows cow = some object) : Ran but kernel (kernel.putCow cow object state) := by
  have same : ∀ other, ((kernel.putCow cow object state).cows other).isSome =
      (kernel.cows other).isSome := by
    intro other
    by_cases here : other = cow
    · subst here
      rw [show (kernel.putCow other object state).cows other = some ⟨state.cm, object.path⟩ from
        Function.update_self _ _ _, found]
      rfl
    · rw [show (kernel.putCow cow object state).cows other = kernel.cows other from
        Function.update_of_ne here _ _]
  refine ⟨?_, rfl, same⟩
  exact owning.mono (fun _ => .inl rfl) (fun other => by rw [same other]) (Nat.le_refl _)

theorem runCow_spec (owning : kernel.Owning but) (cow : Address) (program : CowM α) :
    wp (Driver.runCow cow program) (fun _ => Ran but kernel) (fun _ => Ran but kernel) kernel := by
  cases found : kernel.cows cow with
  | none =>
      rw [wp_runCow_freed found]
      exact ⟨owning, rfl, fun _ => rfl⟩
  | some object =>
      rw [wp_runCow found]
      apply wp_mono (wp_true program _)
      · exact fun _ _ _ => putCow owning found
      · exact fun _ _ _ => putCow owning found

theorem runCow (cow : Address) (program : CowM α) :
    Maintains (Kernel.Owning but) (Driver.runCow cow program) := by
  intro kernel owning
  apply wp_mono (runCow_spec owning cow program)
  · exact fun _ _ => Ran.owning
  · exact fun _ _ => Ran.owning

theorem setCowDev (cow : Address) (dev : Option Address) :
    Maintains (Kernel.Owning but) (Driver.setCowDev cow dev) :=
  .update fun _ owning => owning

theorem kfreeDev (dev : Address) : Maintains (Kernel.Owning but) (Driver.kfreeDev dev) := by
  apply Maintains.update
  intro kernel owning
  apply owning.mono _ (fun _ => Iff.rfl) (Nat.le_refl _)
  intro other
  by_cases here : other = dev
  · exact .inr (by simp [Kernel.heldCow, here])
  · exact .inl (by simp [Kernel.heldCow, here])

theorem cleanUpCow : Maintains (Kernel.Owning but) (Driver.cleanUpCow dev) := by
  apply Maintains.bind (Stable.getDev dev)
  intro device
  apply Maintains.when
  cases device.sdCow with
  | none => exact .pure ()
  | some cow => exact runCow cow _

theorem drain (jobs : List Job) : Maintains (Kernel.Owning but) (Driver.drain dev jobs) := by
  induction jobs with
  | nil => exact .pure ()
  | cons job rest ih =>
      apply Maintains.bind cleanUpCow
      intro _
      apply Maintains.bind (Stable.getDev dev)
      intro device
      apply Maintains.bind _ fun _ => ih
      apply Maintains.when
      apply Maintains.bind (Stable.deref _)
      intro cow
      exact maintains_catching (runCow cow _) fun _ => loses fun _ => .inl rfl

theorem finishCow (jobs : List Job) :
    Maintains (Kernel.Owning but) (Driver.finishCow dev jobs) := by
  cases jobs with
  | nil => exact cleanUpCow
  | cons job rest => exact drain _

theorem tracerDestroyCowThread :
    Maintains (Kernel.Owning but) (Driver.tracerDestroyCowThread dev) := by
  apply Maintains.bind (Stable.getDev dev)
  intro device
  apply Maintains.when
  exact .bind (finishCow _) fun _ => loses fun _ => .inl rfl

section managers

/-- Between two steps, when no manager has two owners. -/
abbrev Keeps (program : KernelM α) : Prop :=
  ∀ kernel : Kernel, kernel.Owning (fun _ => False) →
    wp program (fun _ after => after.Owning fun _ => False)
      (OnError fun after => after.Owning fun _ => False) kernel

/-- The manager of the device has just been freed. -/
def Freed (dev : Address) (kernel : Kernel) : Prop :=
  (∃ device, kernel.devices dev = some device) ∧
    ∀ device, device.sdCow = none → (kernel.setDev dev device).Owning fun _ => False

namespace Keeps

variable {β : Type}

theorem of_maintains {program : KernelM α}
    (maintains : Maintains (Kernel.Owning fun _ => False) program) : Keeps program :=
  fun kernel owning => wp_mono (maintains kernel owning) (fun _ _ => id) fun _ _ kept _ _ => kept

theorem bind {program : KernelM α} {next : α → KernelM β} (first : Keeps program)
    (second : ∀ value, Keeps (next value)) : Keeps (program >>= next) := by
  intro kernel owning
  rw [wp_bind]
  apply wp_mono (first kernel owning) _ fun _ _ => id
  exact fun value middle owning' => second value middle owning'

theorem ite {condition : Prop} [Decidable condition] {left right : KernelM α}
    (first : Keeps left) (second : Keeps right) : Keeps (if condition then left else right) := by
  split
  · exact first
  · exact second

theorem pure (value : α) : Keeps (Pure.pure value : KernelM α) := of_maintains (.pure value)

theorem stop (reason : Stop) : Keeps (Program.stop reason : KernelM α) := of_maintains (.stop reason)

theorem when {condition : Bool} {program : KernelM Unit} (inner : Keeps program) :
    Keeps (Program.when condition program) := ite inner (pure ())

theorem unwinding {program : KernelM α} {cleanup : Errno → KernelM Unit} (inner : Keeps program)
    (cleans : ∀ error, Keeps (cleanup error)) : Keeps (Driver.unwinding program cleanup) :=
  fun kernel owning => wp_unwinding_errors (inner kernel owning) cleans

theorem catching {program : KernelM Unit} {handler : Errno → KernelM Unit} (inner : Keeps program)
    (handles : ∀ error, Keeps (handler error)) : Keeps (Driver.catching program handler) :=
  fun kernel owning => wp_catching_errors (inner kernel owning) handles

theorem returned {program : KernelM Unit} {next : Option Errno → KernelM α}
    (inner : Keeps program) (second : ∀ code, Keeps (next code)) :
    Keeps (Driver.returned program >>= next) := by
  intro kernel owning
  rw [wp_bind]
  apply wp_returned_errors (wp_mono (inner kernel owning) _ fun _ _ => id)
  · exact fun error after owning => second (some error) after owning
  · exact fun _ after owning => second none after owning

end Keeps

theorem kfreeCow {stopped : Stop → Kernel → Prop} (owning : kernel.Owning fun _ => False)
    (found : kernel.devices dev = some device) (held : device.sdCow = some cow) :
    wp (Driver.kfreeCow cow) (fun _ => Freed dev) stopped kernel := by
  refine ⟨⟨device, found⟩, fun device' none => ?_⟩
  have refers : kernel.heldCow dev = some cow := (heldCow_found found).trans held
  have freed : Owned (fun _ => False) (Function.update kernel.heldCow dev Option.none)
      (fun other => (Function.update kernel.cows cow Option.none other).isSome = true)
      kernel.fresh := by
    apply owning.free refers
    intro other
    by_cases here : other = cow
    · simp [here]
    · simp [here]
  change Owned _ (Kernel.heldCow (Kernel.setDev _ dev device')) _ _
  rw [heldCow_setDev, none]
  exact freed

theorem Freed.setDev {change : SnapDevice → SnapDevice} (freed : Freed dev kernel)
    (none : ∀ device, (change device).sdCow = none) :
    wp (Driver.setDev dev change) (fun _ after => after.Owning fun _ => False)
      (fun _ after => after.Owning fun _ => False) kernel := by
  obtain ⟨⟨device, found⟩, owning⟩ := freed
  rw [wp_setDev found]
  exact owning _ (none device)

theorem kfreeCow_after {stopped : Stop → Kernel → Prop}
    (found : before.devices dev = some device) (held : device.sdCow = some cow)
    (ran : Ran (fun _ => False) before after) :
    wp (Driver.kfreeCow cow) (fun _ => Freed dev) stopped after :=
  kfreeCow ran.owning ((congrFun ran.devices dev).trans found) held

theorem cowFree (owning : kernel.Owning fun _ => False) (found : kernel.devices dev = some device)
    (held : device.sdCow = some cow) :
    wp (Driver.cowFree cow) (fun _ => Freed dev) (OnError fun after => after.Owning fun _ => False)
      kernel := by
  unfold Driver.cowFree
  rw [wp_bind]
  apply wp_mono (runCow_spec owning cow _)
  · exact fun _ _ => kfreeCow_after found held
  · exact fun _ _ ran _ _ => ran.owning

/-- Whether the sync succeeds or not. -/
theorem cowSyncAndFree (owning : kernel.Owning fun _ => False)
    (found : kernel.devices dev = some device) (held : device.sdCow = some cow) :
    wp (Driver.cowSyncAndFree cow) (fun _ => Freed dev) (OnError (Freed dev)) kernel := by
  have ran := runCow_spec owning cow Cow.cowSyncAndFree
  unfold Driver.cowSyncAndFree
  rw [wp_bind]
  apply wp_mono
  · apply wp_unwinding_errors (wp_mono ran (fun _ _ => id) fun _ _ kept _ _ => kept)
    exact fun _ _ => kfreeCow_after found held
  · exact fun _ _ => kfreeCow_after found held
  · exact fun _ _ => id

theorem closeCow (method : CloseMethod) : Keeps (Driver.closeCow dev method) := by
  intro kernel owning
  unfold Driver.closeCow
  rw [wp_bind]
  cases found : kernel.devices dev with
  | none =>
      rw [wp_getDev_freed found]
      exact OnError.oops _
  | some device =>
      rw [wp_getDev found]
      cases held : device.sdCow with
      | none => exact owning
      | some cow =>
          cases method with
          | free =>
              change wp (Driver.cowFree cow >>= fun _ => _) _ _ _
              rw [wp_bind]
              apply wp_mono (cowFree owning found held)
              · intro _ middle freed
                apply wp_mono (freed.setDev fun _ => rfl) (fun _ _ => id)
                exact fun _ _ kept _ _ => kept
              · exact fun _ _ => id
          | syncAndFree =>
              change wp (unwinding _ _ >>= fun _ => _) _ _ _
              rw [wp_bind]
              apply wp_mono
              · apply wp_unwinding_errors (cowSyncAndFree owning found held)
                intro error middle freed
                apply wp_mono (freed.setDev fun _ => rfl) (fun _ _ => id)
                exact fun _ _ kept _ _ => kept
              · intro _ middle freed
                apply wp_mono (freed.setDev fun _ => rfl) (fun _ _ => id)
                exact fun _ _ kept _ _ => kept
              · exact fun _ _ => id
          | syncAndClose =>
              apply wp_mono (runCow cow Cow.cowSyncAndClose kernel owning) (fun _ _ => id)
              exact fun _ _ kept _ _ => kept

/-- A manager that no device points to. -/
structure Spare (cow : Address) (kernel : Kernel) : Prop where
  owning : kernel.Owning fun _ => False
  stored : (kernel.cows cow).isSome = true
  unheld : ∀ dev, kernel.heldCow dev ≠ some cow

theorem Spare.ran (spare : Spare cow before) (ran : Ran (fun _ => False) before after) :
    Spare cow after where
  owning := ran.owning
  stored := (ran.cows cow).trans spare.stored
  unheld := by
    intro dev
    unfold Kernel.heldCow
    rw [ran.devices]
    exact spare.unheld dev

theorem Spare.runCow {program : CowM α} (spare : Spare cow kernel) :
    wp (Driver.runCow cow program) (fun _ => Spare cow) (OnError (Spare cow)) kernel := by
  apply wp_mono (runCow_spec spare.owning cow program)
  · exact fun _ _ => spare.ran
  · exact fun _ _ ran _ _ => spare.ran ran

theorem Spare.kfreeCow {stopped : Stop → Kernel → Prop} (spare : Spare cow kernel) :
    wp (Driver.kfreeCow cow) (fun _ after => after.Owning fun _ => False) stopped kernel := by
  apply spare.owning.discard spare.unheld
  intro other
  by_cases here : other = cow
  · simp [here]
  · simp [here]

theorem Spare.take (spare : Spare cow kernel) :
    wp (Driver.setDev dev fun device => { device with sdCow := some cow })
      (fun _ after => after.Owning fun _ => False) (OnError fun after => after.Owning fun _ => False)
      kernel := by
  cases found : kernel.devices dev with
  | none =>
      rw [wp_setDev_freed found]
      exact OnError.oops _
  | some device =>
      rw [wp_setDev found]
      change Owned _ (Kernel.heldCow _) _ _
      rw [heldCow_setDev]
      exact spare.owning.take spare.stored spare.unheld

theorem newCow (path : CowPath) (owner : Option Address) (refused opened : CowM Unit) :
    Keeps (Driver.newCow dev path owner refused opened) := by
  intro kernel owning
  have more : ∀ cow, ((kernel.withCow path owner).cows cow).isSome = true ↔
      cow = kernel.fresh ∨ (kernel.cows cow).isSome = true := by
    intro cow
    by_cases here : cow = kernel.fresh
    · simp [Kernel.withCow, here]
    · simp [Kernel.withCow, here]
  obtain ⟨owning', unheld⟩ := owning.allocate more
  have spare : Spare kernel.fresh (kernel.withCow path owner) :=
    ⟨owning', (more kernel.fresh).mpr (.inl rfl), unheld⟩
  rw [wp_newCow, wp_bind]
  have drops : Keeps (Driver.setDev dev fun device => { device with sdCow := none }) :=
    .of_maintains (loses fun _ => .inr rfl)
  apply wp_mono
  · apply wp_unwinding_errors (wp_opening_each fun program => spare.runCow)
    intro error after spare
    rw [wp_bind]
    exact wp_mono spare.kfreeCow (fun _ => drops) fun _ _ => id
  · exact fun _ _ spare => spare.take
  · exact fun _ _ => id

/-- A manager that is there is set anew. -/
theorem setCow {object : CowObject} (owning : kernel.Owning but)
    (stored : (kernel.cows cow).isSome = true) :
    Kernel.Owning but { kernel with cows := Function.update kernel.cows cow (some object) } := by
  apply owning.mono (fun _ => .inl rfl) _ (Nat.le_refl _)
  intro other
  by_cases here : other = cow
  · simp [here, stored]
  · simp [here]

theorem cowReopen (path : CowPath) : Keeps (Driver.cowReopen cow path) := by
  intro kernel owning
  unfold Driver.cowReopen
  rw [wp_bind, wp_read, wp_bind, wp_deref]
  split
  · exact OnError.oops _
  · rename_i object stored
    rw [wp_opening]
    split
    · exact Keeps.of_maintains (runCow cow _) kernel owning
    · rw [wp_bind]
      exact Keeps.of_maintains (runCow cow _) _ (setCow owning (by simp [stored]))

end managers

section functions

theorem tracerDestroyCow (method : CloseMethod) : Keeps (Driver.tracerDestroyCow dev method) :=
  .bind (.of_maintains (stable.sets (by simp))) fun _ => closeCow method

theorem openCow (path : CowPath) (method : OpenMethod) :
    Keeps (Driver.openCow machine dev path method) := by
  cases method with
  | reopen =>
      apply Keeps.bind (.of_maintains (Stable.getDev dev))
      intro device
      exact .bind (.of_maintains (Stable.deref _)) fun cow => cowReopen path
  | new size fallocatedSpace cacheSize uuid seqid =>
      apply Keeps.bind (.of_maintains (stable.sets (by simp)))
      exact fun _ => newCow path _ _ _
  | reload size cacheSize indexOnly =>
      apply Keeps.bind (.of_maintains (stable.sets (by simp)))
      intro _
      apply Keeps.bind (newCow path _ _ _)
      intro _
      apply Keeps.of_maintains
      apply Maintains.bind .read
      intro kernel
      apply Maintains.bind (Stable.getDev dev)
      intro device
      apply Maintains.bind (Stable.deref _)
      intro cow
      exact .bind (Stable.deref _) fun object => stable.sets (by simp)

theorem tracerSetupCow (path : CowPath) (method : OpenMethod) :
    Keeps (Driver.tracerSetupCow machine dev bdev path method) := by
  apply Keeps.unwinding
  · apply Keeps.bind (openCow path method)
    intro _
    apply Keeps.bind (.of_maintains (.bind .read fun _ => .pure _))
    exact fun _ => .when (.stop _)
  · intro error
    cases method with
    | reopen => exact .pure ()
    | new => exact tracerDestroyCow .free
    | reload => exact tracerDestroyCow .free

theorem tracerDestroy : Keeps (Driver.tracerDestroy machine dev) := by
  apply Keeps.bind (.of_maintains (stable.tracerDestroyTracing tracerDestroyCowThread))
  intro _
  apply Keeps.bind (.of_maintains tracerDestroyCowThread)
  intro _
  apply Keeps.bind (.of_maintains (stable.sets (by simp)))
  intro _
  apply Keeps.bind (.of_maintains (stable.sets (by simp)))
  intro _
  exact .bind (tracerDestroyCow .free) fun _ => .of_maintains (stable.sets (by simp))

theorem tracerAlloc : Keeps Driver.tracerAlloc := by
  apply Keeps.of_maintains
  apply Maintains.bind (Stable.attempt _)
  intro _
  apply Maintains.bind stable.kzalloc
  intro dev
  exact .bind (.update fun _ owning => setDev owning (.inr rfl)) fun _ => .pure dev

theorem tracerSetupBaseDev (bdevPath : Nat) :
    Maintains (Kernel.Owning but) (Driver.tracerSetupBaseDev machine dev bdevPath) := by
  apply maintains_unwinding _ fun _ => stable.sets (by simp)
  apply Maintains.bind (Stable.attempt _)
  intro _
  apply Maintains.bind (stable.sets (by simp))
  intro _
  apply Maintains.bind (Stable.attempt _)
  intro _
  apply Maintains.bind Stable.bdevIsAlreadyTraced
  intro traced
  apply Maintains.bind (.when (.stop _))
  intro _
  exact .bind (Stable.attempt _) fun _ => stable.sets (by simp)

theorem tracerSetupTracingUnverified :
    Maintains (Kernel.Owning but) (Driver.tracerSetupTracingUnverified dev minor) := by
  apply Maintains.bind (stable.minorRangeInclude minor)
  intro _
  exact .bind (stable.sets (by simp)) fun _ => stable.setSlot _ _

theorem tracerSetupUnverified (bdevPath relPath cacheSize : Nat) (isSnap : Bool) :
    Keeps (Driver.tracerSetupUnverified machine dev minor bdevPath relPath cacheSize isSnap) := by
  apply Keeps.bind (.of_maintains (loses (by simp)))
  intro _
  apply Keeps.bind _ fun _ => .of_maintains tracerSetupTracingUnverified
  apply Keeps.unwinding
  · apply Keeps.of_maintains
    apply Maintains.bind (Stable.attempt _)
    intro _
    apply Maintains.bind (stable.sets (by simp))
    intro _
    exact .bind (Stable.attempt _) fun _ => stable.sets (by simp)
  · exact fun _ => .bind tracerDestroy fun _ => .stop _

theorem tracerSetupActiveSnap (bdevPath : Nat) (path : CowPath) (fallocatedSpace cacheSize : Nat)
    (uuid : BitVec 128) :
    Keeps (Driver.tracerSetupActiveSnap machine dev minor bdevPath path fallocatedSpace cacheSize
      uuid) := by
  apply Keeps.bind (.of_maintains (loses (by simp)))
  intro _
  apply Keeps.unwinding _ fun _ => tracerDestroy
  apply Keeps.bind (.of_maintains (tracerSetupBaseDev bdevPath))
  intro _
  apply Keeps.bind (.of_maintains (Stable.getDev dev))
  intro device
  apply Keeps.bind (.of_maintains (Stable.deref _))
  intro bdev
  exact .bind (tracerSetupCow path _) fun _ => .of_maintains (stable.activate true)

theorem tracerReconfigure (cacheSize : Nat) :
    Keeps (Driver.tracerReconfigure machine dev cacheSize) := by
  apply Keeps.of_maintains
  apply Maintains.bind (stable.sets (by simp))
  intro _
  apply Maintains.bind (Stable.getDev dev)
  intro device
  apply Maintains.when
  exact .bind (Stable.deref _) fun cow => runCow cow _

theorem tracerSetFailState (error : Errno) :
    Maintains (Kernel.Owning but) (Driver.tracerSetFailState dev error) :=
  loses fun _ => .inl rfl

theorem tracerActiveToDormant : Keeps (Driver.tracerActiveToDormant dev) := by
  apply Keeps.bind (.of_maintains tracerDestroyCowThread)
  intro _
  apply Keeps.catching _ fun error => .of_maintains (tracerSetFailState error)
  exact .bind (tracerDestroyCow .syncAndClose) fun _ => .of_maintains (stable.sets (by simp))

theorem unverify (bdevPath relPath cacheSize : Nat) (isSnap : Bool) (error : Errno) :
    Keeps (Driver.unverify machine dev minor bdevPath relPath cacheSize isSnap error) := by
  apply Keeps.bind tracerDestroy
  intro _
  apply Keeps.bind _ fun _ => .of_maintains (tracerSetFailState error)
  exact .catching (tracerSetupUnverified _ _ _ _) fun _ => .pure ()

theorem verify (mountBdev relPath : Nat) (isSnap : Bool) :
    Keeps (Driver.verify machine dev minor mountBdev relPath isSnap) := by
  apply Keeps.bind (.of_maintains (Stable.attempt _))
  intro _
  apply Keeps.bind (.of_maintains (Stable.getDev dev))
  intro device
  apply Keeps.bind (.of_maintains (Stable.deref _))
  intro bdev
  exact .bind (tracerSetupCow _ _) fun _ => .of_maintains (stable.activate isSnap)

theorem tracerUnverifiedToActive (mountBdev : Nat) (isSnap : Bool) :
    Keeps (Driver.tracerUnverifiedToActive machine dev mountBdev isSnap) := by
  apply Keeps.bind (.of_maintains .read)
  intro entered
  apply Keeps.bind (.of_maintains (Stable.getDev dev))
  intro given
  apply Keeps.bind (.of_maintains (stable.tracerDestroyTracing tracerDestroyCowThread))
  intro _
  apply Keeps.bind (.of_maintains (loses (by simp)))
  intro _
  apply Keeps.bind (.of_maintains (Stable.deref _))
  intro bdevPath
  apply Keeps.bind (.of_maintains (Stable.deref _))
  intro relPath
  apply Keeps.returned (.of_maintains (tracerSetupBaseDev bdevPath))
  intro unbased
  cases unbased with
  | none => exact .catching (verify mountBdev relPath isSnap) (unverify _ _ _ isSnap)
  | some error =>
      apply Keeps.bind (unverify _ _ _ isSnap error)
      exact fun _ => .when (.stop _)

theorem tracerDormantToActive (mountBdev : Nat) :
    Keeps (Driver.tracerDormantToActive machine dev mountBdev) := by
  apply Keeps.catching _ fun error => .of_maintains (tracerSetFailState error)
  apply Keeps.bind (.of_maintains (Stable.attempt _))
  intro _
  apply Keeps.bind (.of_maintains (Stable.getDev dev))
  intro device
  apply Keeps.bind (.of_maintains (Stable.deref _))
  intro relPath
  apply Keeps.bind (.of_maintains (Stable.deref _))
  intro bdev
  apply Keeps.bind (tracerSetupCow _ _)
  intro _
  apply Keeps.of_maintains
  apply Maintains.bind (stable.tracerSetupCowThread _)
  intro _
  exact .bind Stable.wakeUpCowThread fun _ => loses (by simp)

theorem tracerActiveIncToSnap (path : CowPath) (fallocatedSpace : Nat) :
    Keeps (Driver.tracerActiveIncToSnap machine dev path fallocatedSpace) := by
  apply Keeps.bind tracerAlloc
  intro new
  apply Keeps.bind (.of_maintains (loses (by simp)))
  intro _
  apply Keeps.bind (.of_maintains .read)
  intro kernel
  apply Keeps.bind (.of_maintains (Stable.getDev dev))
  intro old
  apply Keeps.bind (.of_maintains (Stable.deref _))
  intro oldCow
  apply Keeps.bind (.of_maintains (Stable.deref _))
  intro oldObject
  apply Keeps.bind (.of_maintains (stable.sets (by simp)))
  intro _
  apply Keeps.bind
  · apply Keeps.unwinding
    · apply Keeps.bind (.of_maintains (Stable.getDev new))
      intro device
      apply Keeps.bind (.of_maintains (Stable.deref _))
      intro bdev
      apply Keeps.bind (tracerSetupCow path _)
      intro _
      apply Keeps.of_maintains
      apply Maintains.bind stable.tracerSetupCowPath
      intro _
      apply Maintains.bind stable.tracerSetupSnap
      intro _
      apply Maintains.bind (stable.tracerSetupCowThread _)
      intro _
      exact .bind (stable.sets (by simp)) fun _ => stable.tracerSetupTracing
    · intro _
      apply Keeps.bind (.of_maintains tracerDestroyCowThread)
      intro _
      apply Keeps.bind (.of_maintains (stable.sets (by simp)))
      intro _
      apply Keeps.bind (.of_maintains (stable.sets (by simp)))
      intro _
      exact .bind (tracerDestroyCow .free) fun _ => .of_maintains (kfreeDev new)
  · intro _
    apply Keeps.bind (.of_maintains tracerDestroyCowThread)
    intro _
    apply Keeps.bind (.of_maintains Stable.wakeUpCowThread)
    intro _
    apply Keeps.bind (.of_maintains (stable.sets (by simp)))
    intro _
    apply Keeps.bind _ fun _ => .of_maintains (kfreeDev dev)
    exact .catching (tracerDestroyCow .syncAndFree) fun _ => .pure ()

end functions

section sharing

/-- Two devices have one manager. -/
structure Shared (dev other : Address) (kernel : Kernel) : Prop where
  new : kernel.Owning (· = dev)
  old : kernel.Owning (· = other)

/-- One of them is freed in the end. -/
def Resolves (dev other : Address) (program : KernelM α) : Prop :=
  ∀ kernel, Shared dev other kernel → wp program (fun _ after => after.Owning fun _ => False)
    (OnError fun after => after.Owning fun _ => False) kernel

theorem Shared.maintains {program : KernelM α}
    (each : ∀ but, Maintains (Kernel.Owning but) program) :
    Maintains (Shared dev other) program := by
  intro kernel shared
  apply wp_mono (wp_and (each _ kernel shared.new) (each _ kernel shared.old))
  · exact fun _ _ both => ⟨both.1, both.2⟩
  · exact fun _ _ both => ⟨both.1, both.2⟩

theorem Resolves.bind {β : Type} {program : KernelM α} {next : α → KernelM β}
    (each : ∀ but, Maintains (Kernel.Owning but) program) (silent : Silent program)
    (rest : ∀ value, Resolves dev other (next value)) :
    Resolves dev other (program >>= next) := by
  intro kernel shared
  rw [wp_bind]
  apply wp_mono (wp_and (Shared.maintains each kernel shared) (silent kernel))
  · exact fun value middle both => rest value middle both.1
  · exact fun _ _ both error same => absurd same (both.2 error)

theorem settles {stopped : Stop → Kernel → Prop} (owning : kernel.Owning (· = dev)) :
    wp (Driver.kfreeDev dev) (fun _ after => after.Owning fun _ => False) stopped kernel := by
  have kept := kfreeDev dev kernel owning
  exact Owned.settle kept (by simp [Kernel.heldCow])

theorem Resolves.kfreeOld {β : Type} {next : Unit → KernelM β} (rest : Keeps (next ())) :
    Resolves dev other (Driver.kfreeDev other >>= next) := by
  intro kernel shared
  rw [wp_bind]
  exact wp_mono (settles shared.old) (fun _ => rest) fun _ _ => id

theorem tracerCopyCow {old : SnapDevice} (owning : kernel.Owning fun _ => False)
    (held : kernel.heldCow other = old.sdCow) :
    wp (Driver.tracerCopyCow old dev) (fun _ => Shared dev other)
      (OnError fun after => after.Owning fun _ => False) kernel := by
  unfold Driver.tracerCopyCow Driver.setCowDev
  rw [wp_bind, wp_deref]
  cases has : old.sdCow with
  | none => exact OnError.oops _
  | some cow =>
      rw [has] at held
      dsimp only
      let taken : Kernel :=
        { kernel with cowDev := Function.update kernel.cowDev cow (some dev) }
      rw [wp_bind, wp_update]
      change wp _ _ _ taken
      cases found : taken.devices dev with
      | none =>
          rw [wp_setDev_freed found]
          exact OnError.oops _
      | some device =>
          rw [wp_setDev found]
          constructor
          · change Owned _ (Kernel.heldCow (Kernel.setDev _ dev _)) _ _
            rw [heldCow_setDev]
            exact (owning.share held).1
          · change Owned _ (Kernel.heldCow (Kernel.setDev _ dev _)) _ _
            rw [heldCow_setDev]
            exact (owning.share held).2

/-- The manager goes from the old device to the new one. -/
theorem tracerActiveSnapToInc : Keeps (Driver.tracerActiveSnapToInc machine other) := by
  apply Keeps.bind tracerAlloc
  intro dev
  apply Keeps.bind (.of_maintains (loses (by simp)))
  intro _ kernel owning
  rw [wp_bind]
  cases found : kernel.devices other with
  | none =>
      rw [wp_getDev_freed found]
      exact OnError.oops _
  | some old =>
      rw [wp_getDev found]
      have stays : Stable fun kernel =>
          kernel.Owning (fun _ => False) ∧ kernel.heldCow other = old.sdCow := stable_held _
      have copies : Maintains
          (fun kernel => kernel.Owning (fun _ => False) ∧ kernel.heldCow other = old.sdCow)
          (tracerCopyBaseDev old dev) := stays.sets (by simp)
      have copies' : Maintains
          (fun kernel => kernel.Owning (fun _ => False) ∧ kernel.heldCow other = old.sdCow)
          (tracerCopyCowPath old dev) := stays.sets (by simp)
      have traces : ∀ but, Maintains (Kernel.Owning but) (do
          Driver.tracerSetupCowThread .cowThread dev
          Driver.setDev dev fun device => { device with sdOrigRequestFn := old.sdOrigRequestFn }
          Driver.tracerSetupTracing machine dev old.sdMinor) := by
        intro but
        apply Maintains.bind (stable.tracerSetupCowThread _)
        intro _
        exact .bind (stable.sets (by simp)) fun _ => stable.tracerSetupTracing
      have frees : Resolves dev other (do
          Driver.tracerDestroyCowThread dev
          Driver.kfreeDev dev) := by
        apply Resolves.bind (fun _ => tracerDestroyCowThread) tracerDestroyCowThread_silent
        exact fun _ middle shared => settles shared.new
      rw [wp_bind]
      apply wp_mono (copies kernel ⟨owning, heldCow_found found⟩) _ fun _ _ kept _ _ => kept.1
      intro _ middle kept
      rw [wp_bind]
      apply wp_mono (copies' middle kept) _ fun _ _ kept _ _ => kept.1
      intro _ middle kept
      rw [wp_bind]
      apply wp_mono (tracerCopyCow kept.1 kept.2) _ fun _ _ => id
      intro _ middle shared
      rw [wp_bind]
      apply wp_mono
      · apply wp_unwinding_errors (wp_mono (Shared.maintains traces middle shared) (fun _ _ => id)
          fun _ _ kept _ _ => kept)
        exact fun _ middle shared => frees middle shared
      · intro _ middle shared
        refine Resolves.bind (fun _ => tracerDestroyCowThread) tracerDestroyCowThread_silent ?_
          middle shared
        intro _
        apply Resolves.bind (fun _ => Stable.getDev other) (.getDev other)
        intro stopped
        cases stopped.sdFailCode with
        | some error =>
            apply Resolves.bind (fun _ => tracerSetFailState error) (tracerSetFailState_silent _)
            intro _
            apply Resolves.bind (fun _ => Stable.wakeUpCowThread) wakeUpCowThread_silent
            intro _
            apply Resolves.bind (fun _ => stable.sets (by simp)) (.setDev _ _)
            intro _
            exact .kfreeOld (.stop _)
        | none =>
            apply Resolves.bind (fun _ => Stable.wakeUpCowThread) wakeUpCowThread_silent
            intro _
            apply Resolves.bind (fun _ => Stable.getDev dev) (.getDev dev)
            intro device
            apply Resolves.bind (fun _ => Stable.deref _) (.deref _)
            intro cow
            apply Resolves.bind _ (.ignoring _)
            · intro _
              apply Resolves.bind (fun _ => stable.sets (by simp)) (.setDev _ _)
              exact fun _ middle shared => settles shared.old
            · exact fun _ => maintains_catching (runCow cow _) fun _ => .pure ()
      · exact fun _ _ => id

end sharing

section events

theorem verifyMinor (check : MinorCheck) :
    Maintains (Kernel.Owning but) (Driver.verifyMinor machine minor check) := by
  apply Maintains.bind .read
  intro kernel
  apply Maintains.ite (.stop _)
  cases kernel.snapDevices minor with
  | none => exact .ite (.pure ()) (.stop _)
  | some dev =>
      cases check with
      | available => exact .stop _
      | inUse => exact .pure ()
      | inUseNotBusy => exact .bind (Stable.getDev dev) fun _ => .ite (.stop _) (.pure ())

theorem verifyBdevWritable (bdevPath : Nat) :
    Maintains (Kernel.Owning but) (Driver.verifyBdevWritable machine bdevPath) :=
  .bind (Stable.attempt _) fun _ => .bind .read fun _ => .pure _

theorem slotDev : Maintains (Kernel.Owning but) (Driver.slotDev minor) :=
  .bind .read fun _ => Stable.deref _

theorem verifyActive (isSnap : Bool) :
    Maintains (Kernel.Owning but) (Driver.verifyActive dev isSnap) :=
  .bind (Stable.getDev dev) fun _ => .ite (.stop _) (.ite (.stop _) (.pure ()))

/-- A command on the device of a minor. -/
theorem command {next : Address → KernelM Unit} (check : MinorCheck)
    (rest : ∀ dev, Keeps (next dev)) :
    Keeps (Driver.verifyMinor machine minor check >>= fun _ => Driver.slotDev minor >>= next) :=
  .bind (.of_maintains (verifyMinor check)) fun _ => .bind (.of_maintains slotDev) rest

/-- A new device, which is freed where its setup fails. -/
theorem newDevice {setup : Address → KernelM Unit} (sets : ∀ dev, Keeps (setup dev)) :
    Keeps (Driver.tracerAlloc >>= fun dev => unwinding (setup dev) fun _ => Driver.kfreeDev dev) :=
  .bind tracerAlloc fun dev => .unwinding (sets dev) fun _ => .of_maintains (kfreeDev dev)

theorem ioctlSetupSnap (bdevPath : Nat) (path : CowPath) (fallocatedSpace cacheSize : Nat)
    (uuid : BitVec 128) :
    Keeps (Driver.ioctlSetupSnap machine minor bdevPath path fallocatedSpace cacheSize uuid) := by
  apply Keeps.bind (.of_maintains (verifyMinor _))
  intro _
  apply Keeps.bind (.of_maintains (verifyBdevWritable bdevPath))
  intro isMounted
  apply Keeps.bind (.when (.stop _))
  exact fun _ => newDevice fun dev => tracerSetupActiveSnap _ _ _ _ _

theorem ioctlReload (bdevPath relPath cacheSize : Nat) (isSnap : Bool) :
    Keeps (Driver.ioctlReload machine minor bdevPath relPath cacheSize isSnap) := by
  apply Keeps.bind (.of_maintains (verifyMinor _))
  intro _
  apply Keeps.bind (.of_maintains (verifyBdevWritable bdevPath))
  intro isMounted
  apply Keeps.bind (.when (.stop _))
  exact fun _ => newDevice fun dev => tracerSetupUnverified _ _ _ _

theorem ioctlDestroy : Keeps (Driver.ioctlDestroy machine minor) :=
  command _ fun dev => .bind tracerDestroy fun _ => .of_maintains (kfreeDev dev)

theorem ioctlTransitionInc : Keeps (Driver.ioctlTransitionInc machine minor) :=
  command _ fun _ => .bind (.of_maintains (verifyActive _)) fun _ => tracerActiveSnapToInc

theorem ioctlTransitionSnap (path : CowPath) (fallocatedSpace : Nat) :
    Keeps (Driver.ioctlTransitionSnap machine minor path fallocatedSpace) :=
  command _ fun _ => .bind (.of_maintains (verifyActive _)) fun _ => tracerActiveIncToSnap _ _

theorem ioctlReconfigure (cacheSize : Nat) :
    Keeps (Driver.ioctlReconfigure machine minor cacheSize) := by
  apply command
  intro dev
  apply Keeps.bind (.of_maintains (Stable.getDev dev))
  exact fun _ => .ite (.stop _) (tracerReconfigure cacheSize)

theorem snapRefs (change : Nat → Nat) : Keeps (Driver.snapRefs minor change) := by
  apply Keeps.of_maintains
  apply Maintains.bind slotDev
  intro dev
  apply Maintains.bind (Stable.getDev dev)
  exact fun _ => .ite (stable.sets (by simp)) (.stop _)

theorem autoTransitionDormant : Keeps (Driver.autoTransitionDormant minor) :=
  .bind (.of_maintains slotDev) fun _ => tracerActiveToDormant

theorem autoTransitionActive (mountBdev : Nat) :
    Keeps (Driver.autoTransitionActive machine minor mountBdev) := by
  apply Keeps.bind (.of_maintains slotDev)
  intro dev
  apply Keeps.bind (.of_maintains (Stable.getDev dev))
  exact fun _ => .ite (tracerUnverifiedToActive _ _) (tracerDormantToActive _)

theorem handleBdevMountNowrite (throughMount : Bool) :
    Keeps (Driver.handleBdevMountNowrite bdev throughMount) := by
  apply Keeps.bind (.of_maintains (Stable.attempt _))
  intro _
  apply Keeps.bind (.of_maintains .read)
  intro kernel
  apply Keeps.bind
  · apply Keeps.of_maintains
    apply Stable.tracerForEach
    intro minor device
    apply Maintains.ite (.pure false)
    cases device.sdCow with
    | none => exact .pure false
    | some cow => exact .bind (Stable.deref _) fun _ => .pure _
  · intro found
    cases found with
    | none => exact .pure none
    | some pair => exact .bind autoTransitionDormant fun _ => .pure _

theorem handleBdevMountWritable : Keeps (Driver.handleBdevMountWritable machine bdev) := by
  apply Keeps.bind (.of_maintains (Stable.attempt _))
  intro _
  apply Keeps.bind (.of_maintains .read)
  intro kernel
  apply Keeps.bind
  · apply Keeps.of_maintains
    apply Stable.tracerForEach
    intro minor device
    apply Maintains.ite (.pure false)
    apply Maintains.ite _ (.pure _)
    cases kernel.faults (.mountBdev minor) with
    | some error => exact .pure false
    | none => exact .bind (Stable.deref _) fun _ => .pure _
  · intro found
    cases found with
    | none => exact .pure ()
    | some pair => exact autoTransitionActive bdev

theorem postUmountFailed : Keeps (Driver.postUmountFailed machine minor bdev) := by
  apply Keeps.bind (.of_maintains slotDev)
  intro dev
  apply Keeps.bind (.of_maintains (Stable.getDev dev))
  intro device
  apply Keeps.bind (.of_maintains (Stable.deref _))
  intro path
  apply Keeps.bind (.of_maintains .read)
  intro kernel
  cases kernel.faults .umountBdev with
  | some error => exact .of_maintains (tracerSetFailState _)
  | none => exact autoTransitionActive bdev

theorem postUmountUnlocked (slot : Option Address) : Keeps (Driver.postUmountUnlocked slot) := by
  apply Keeps.of_maintains
  apply Maintains.bind (Stable.deref slot)
  intro dev
  apply Maintains.bind (Stable.getDev dev)
  intro device
  apply Maintains.bind (Stable.deref _)
  intro bdev
  exact .bind .read fun _ => .when (tracerSetFailState _)

theorem postUmountCheck (moved : Option Nat) (umountFailed : Bool) :
    Keeps (Driver.postUmountCheck machine moved bdev umountFailed) := by
  cases moved with
  | none => exact .pure ()
  | some minor =>
      apply Keeps.ite postUmountFailed
      exact .bind (.of_maintains .read) fun _ => postUmountUnlocked _

theorem sysResult (result : SysResult) : Keeps (SysResult.apply result bdev) := by
  cases result with
  | none => exact .pure ()
  | some mounted => exact .of_maintains (.update fun _ owning => owning)

theorem umount (throughMount : Bool) (result : SysResult) :
    Keeps (Driver.umount machine bdev throughMount result) := by
  apply Keeps.bind _ fun moved => .bind (sysResult result) fun _ => postUmountCheck _ _
  intro kernel owning
  rw [wp_handle]
  apply wp_mono (handleBdevMountNowrite throughMount kernel owning) (fun _ _ => id)
  intro reason after failed
  cases reason with
  | errno error => exact failed error rfl
  | oops => exact OnError.oops _
  | crash => exact OnError.crash _

theorem mount (result : SysResult) : Keeps (Driver.mount machine bdev result) := by
  apply Keeps.bind (sysResult result)
  exact fun _ => .when (.catching handleBdevMountWritable fun _ => .pure ())

theorem mountReadOnly : Keeps (Driver.mountReadOnly bdev) :=
  .bind (.of_maintains .read) fun _ => .when (sysResult _)

theorem cowThreadStep : Keeps (Driver.cowThreadStep minor) := by
  apply Keeps.of_maintains
  apply Maintains.bind slotDev
  intro dev
  apply Maintains.bind (Stable.getDev dev)
  intro device
  cases device.sdPending with
  | nil => exact .pure ()
  | cons job rest =>
      apply Maintains.when
      exact .bind (loses (by simp)) fun _ => drain _

theorem traceWrite (jobs : List Job) : Keeps (Driver.traceWrite bdev jobs) := by
  apply Keeps.of_maintains
  apply Maintains.bind
  · apply Stable.tracerForEach
    exact fun _ _ => .ite (.pure false) (.pure _)
  · intro found
    cases found with
    | none => exact .pure ()
    | some pair => exact loses (by simp)

theorem program (event : Event) : Keeps (event.program machine) := by
  cases event with
  | setupSnap => exact ioctlSetupSnap _ _ _ _ _
  | reload => exact ioctlReload _ _ _ _
  | destroy => exact ioctlDestroy
  | transitionInc => exact ioctlTransitionInc
  | transitionSnap => exact ioctlTransitionSnap _ _
  | reconfigure => exact ioctlReconfigure _
  | openSnap => exact snapRefs (· + 1)
  | releaseSnap => exact snapRefs (· - 1)
  | umount => exact umount _ _
  | mount => exact mount _
  | mountReadOnly => exact mountReadOnly
  | write => exact traceWrite _
  | work => exact cowThreadStep
  | reboot => exact .stop _

theorem boot (machine : Machine) (files : CowPath → Option Cow.CowFile) :
    (machine.boot files).Owning but :=
  .empty (fun _ => rfl) (by simp [Machine.boot])

theorem step {call : Call} (owning : kernel.Owning fun _ => False)
    (taken : Kernel.step machine kernel call = some after) : after.Owning fun _ => False := by
  cases Option.some.inj taken
  apply Kernel.settle_holds
  · exact boot machine
  · exact program call.event (kernel.prepare call) owning

theorem reached {ok : Kernel → Call → Prop} {files : CowPath → Option Cow.CowFile}
    (reached : Transition.Reaches (Kernel.step machine) ok (machine.boot files) kernel) :
    kernel.Owning fun _ => False := by
  apply Transition.Reaches.invariant (boot machine files) _ reached
  exact fun owning _ taken => step owning taken

end events

end Owning

/-- In every run, whatever fails in it: no device refers to a manager that was freed, and no two
devices refer to one. -/
theorem cow_managers_owned {ok : Kernel → Call → Prop} {files : CowPath → Option Cow.CowFile}
    (reached : Transition.Reaches (Kernel.step machine) ok (machine.boot files) kernel) :
    (∀ dev device cow, kernel.devices dev = some device → device.sdCow = some cow →
      (kernel.cows cow).isSome) ∧
    ∀ dev other device device' cow, kernel.devices dev = some device →
      kernel.devices other = some device' → device.sdCow = some cow → device'.sdCow = some cow →
      dev = other := by
  have owning := Owning.reached reached
  constructor
  · intro dev device cow found has
    exact owning.alive dev cow ((heldCow_found found).trans has)
  · intro dev other device device' cow found found' has has'
    apply owning.apart dev other cow id id
    · exact (heldCow_found found).trans has
    · exact (heldCow_found found').trans has'

/-- The first of two devices was changed to incremental mode: the manager is now that of the device
that took its place, and of no other. -/
theorem cow_managers_owned_transition :
    ∃ kernel device, Transition.Reaches (Kernel.step .small) (fun _ _ => True)
        (Machine.small.boot fun _ => none) kernel ∧
      kernel.devices 0 = none ∧ kernel.devices 8 = some device ∧ device.sdCow = some 1 ∧
      (kernel.cows 1).isSome ∧
      ∀ other device', kernel.devices other = some device' → device'.sdCow = some 1 →
        other = 8 := by
  have ran : ((Transition.run (Kernel.step .small) (Machine.small.boot fun _ => none)
      [(Event.mount 1 (some .writable)).fine, (Event.mount 2 (some .writable)).fine,
        (Event.setupSnap 0 1 ⟨1, 7⟩ 1 0 0#128).fine, (Event.setupSnap 1 2 ⟨2, 7⟩ 1 0 0#128).fine,
        (Event.transitionInc 0).fine]).any fun kernel =>
      decide (kernel.devices 0 = none ∧ kernel.heldCow 8 = some 1)) = true := by
    decide +kernel
  obtain ⟨kernel, found, holds⟩ := (Option.any_eq_true _ _).mp ran
  obtain ⟨gone, held⟩ := of_decide_eq_true holds
  obtain ⟨device, there, has⟩ := Option.bind_eq_some_iff.mp held
  have reached := Transition.Reaches.of_run found
  obtain ⟨alive, alone⟩ := cow_managers_owned reached
  refine ⟨kernel, device, reached, gone, there, has, alive 8 device 1 there has, ?_⟩
  intro other device' there' has'
  exact alone other 8 device' device 1 there' there has' has

end Moocbt.Driver
