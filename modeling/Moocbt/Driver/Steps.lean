import Moocbt.Driver.Frame

/-! The functions that concern one device and its COW manager. -/

namespace Moocbt.Driver

open Cow (CowM CowState Errno Stop)
open Program

variable {α : Type} {kernel : Kernel} {dev cow : Address} {device : SnapDevice}
  {paths : CowPath → Prop}

/-- The fields that say how a device traces. -/
structure SameTracing (before after : SnapDevice) : Prop where
  sdMinor : after.sdMinor = before.sdMinor
  unverified : after.unverified = before.unverified
  sdActive : after.sdActive = before.sdActive
  sdOrigRequestFn : after.sdOrigRequestFn = before.sdOrigRequestFn
  bdOps : after.bdOps = before.bdOps
  sdTracingOps : after.sdTracingOps = before.sdTracingOps

theorem SameTracing.refl (device : SnapDevice) : SameTracing device device :=
  ⟨rfl, rfl, rfl, rfl, rfl, rfl⟩

theorem SameTracing.trans {first second third : SnapDevice} (left : SameTracing first second)
    (right : SameTracing second third) : SameTracing first third :=
  ⟨right.sdMinor.trans left.sdMinor, right.unverified.trans left.unverified,
    right.sdActive.trans left.sdActive, right.sdOrigRequestFn.trans left.sdOrigRequestFn,
    right.bdOps.trans left.bdOps, right.sdTracingOps.trans left.sdTracingOps⟩

/-- A program that, wherever the device is found like this, concerns nothing else. -/
def Concerns (dev : Address) (paths : CowPath → Prop) (device : SnapDevice)
    (program : KernelM α) (done : α → SnapDevice → Prop) (stopped : Stop → SnapDevice → Prop) :
    Prop :=
  ∀ kernel : Kernel, kernel.devices dev = some device → Owns paths kernel device →
    wp program (fun value => Local dev paths kernel (done value))
      (fun reason => Local dev paths kernel (stopped reason)) kernel

section concerns

variable {done : α → SnapDevice → Prop} {stopped : Stop → SnapDevice → Prop}

theorem Concerns.bind {β : Type} {program : KernelM α} {next : α → KernelM β}
    {R : α → SnapDevice → Prop} {done : β → SnapDevice → Prop}
    (first : Concerns dev paths device program R stopped)
    (second : ∀ value device', R value device' →
      Concerns dev paths device' (next value) done stopped) :
    Concerns dev paths device (program >>= next) done stopped := by
  intro kernel found owns
  rw [wp_bind]
  apply wp_mono (first kernel found owns)
  · intro value state here
    apply here.step
    intro device' found' owns' holds
    exact second value device' holds state found' owns'
  · exact fun _ _ => id

theorem Concerns.mono {program : KernelM α} {done' : α → SnapDevice → Prop}
    {stopped' : Stop → SnapDevice → Prop}
    (concerns : Concerns dev paths device program done stopped)
    (onDone : ∀ value device', done value device' → done' value device')
    (onStop : ∀ reason device', stopped reason device' → stopped' reason device') :
    Concerns dev paths device program done' stopped' := by
  intro kernel found owns
  apply wp_mono (concerns kernel found owns)
  · exact fun value _ here => here.weaken (onDone value)
  · exact fun reason _ here => here.weaken (onStop reason)

theorem Concerns.pure {value : α} (holds : done value device) :
    Concerns dev paths device (Pure.pure value) done stopped :=
  fun _ found owns => .here found owns holds

theorem Concerns.stop {reason : Stop} (holds : stopped reason device) :
    Concerns dev paths device (Program.stop reason) done stopped :=
  fun _ found owns => .here found owns holds

theorem Concerns.read {done : Kernel → SnapDevice → Prop} (holds : ∀ kernel, done kernel device) :
    Concerns dev paths device Program.read done stopped :=
  fun kernel found owns => .here found owns (holds kernel)

theorem Concerns.attempt {done : Unit → SnapDevice → Prop} (step : Step) (holds : done () device)
    (fails : ∀ error, stopped (.errno error) device) :
    Concerns dev paths device (Driver.attempt step) done stopped := by
  intro kernel found owns
  rw [wp_attempt]
  split
  · exact .here found owns holds
  · exact .here found owns (fails _)

theorem Concerns.deref {pointer : Option α} (null : stopped .oops device)
    (holds : ∀ value, pointer = some value → done value device) :
    Concerns dev paths device (Driver.deref pointer) done stopped := by
  intro kernel found owns
  rw [wp_deref]
  split
  · exact .here found owns null
  · exact .here found owns (holds _ rfl)

theorem Concerns.getDev {done : SnapDevice → SnapDevice → Prop} (holds : done device device) :
    Concerns dev paths device (Driver.getDev dev) done stopped := by
  intro kernel found owns
  rw [wp_getDev found]
  exact .here found owns holds

theorem Concerns.setDev {done : Unit → SnapDevice → Prop} {change : SnapDevice → SnapDevice}
    (cow : (change device).sdCow = device.sdCow ∨ (change device).sdCow = none)
    (holds : done () (change device)) :
    Concerns dev paths device (Driver.setDev dev change) done stopped := by
  intro kernel found owns
  rw [wp_setDev found]
  exact .setDev owns cow holds

section sequences

variable {β : Type} {done : β → SnapDevice → Prop}

theorem Concerns.getThen {next : SnapDevice → KernelM β}
    (second : Concerns dev paths device (next device) done stopped) :
    Concerns dev paths device (Driver.getDev dev >>= next) done stopped := by
  intro kernel found owns
  rw [wp_bind, wp_getDev found]
  exact second kernel found owns

theorem Concerns.setThen {change : SnapDevice → SnapDevice} {next : Unit → KernelM β}
    (cow : (change device).sdCow = device.sdCow ∨ (change device).sdCow = none)
    (second : Concerns dev paths (change device) (next ()) done stopped) :
    Concerns dev paths device (Driver.setDev dev change >>= next) done stopped := by
  apply Concerns.bind (R := fun _ after => after = change device) (.setDev cow rfl)
  intro _ _ same
  rw [same]
  exact second

theorem Concerns.readThen {next : Kernel → KernelM β}
    (second : ∀ kernel, Concerns dev paths device (next kernel) done stopped) :
    Concerns dev paths device (Program.read >>= next) done stopped :=
  fun kernel found owns => second kernel kernel found owns

theorem Concerns.attemptThen {next : Unit → KernelM β} (step : Step)
    (fails : ∀ error, stopped (.errno error) device)
    (second : Concerns dev paths device (next ()) done stopped) :
    Concerns dev paths device (Driver.attempt step >>= next) done stopped := by
  apply Concerns.bind (R := fun _ after => after = device) (.attempt step rfl fails)
  intro _ _ same
  rw [same]
  exact second

theorem Concerns.derefThen {pointer : Option α} {next : α → KernelM β}
    (null : stopped .oops device)
    (second : ∀ value, pointer = some value →
      Concerns dev paths device (next value) done stopped) :
    Concerns dev paths device (Driver.deref pointer >>= next) done stopped := by
  apply Concerns.bind (R := fun value after => pointer = some value ∧ after = device)
    (.deref null fun value held => ⟨held, rfl⟩)
  intro value after held
  rw [held.2]
  exact second value held.1

end sequences

theorem Concerns.ite {program other : KernelM α} {condition : Prop} [Decidable condition]
    (yes : condition → Concerns dev paths device program done stopped)
    (no : ¬ condition → Concerns dev paths device other done stopped) :
    Concerns dev paths device (if condition then program else other) done stopped := by
  split
  · rename_i holds
    exact yes holds
  · rename_i fails
    exact no fails

theorem Concerns.when {done : Unit → SnapDevice → Prop} {program : KernelM Unit} {condition : Bool}
    (yes : condition = true → Concerns dev paths device program done stopped)
    (no : condition = false → done () device) :
    Concerns dev paths device (Program.when condition program) done stopped := by
  cases condition with
  | true => exact yes rfl
  | false => exact .pure (no rfl)

theorem Concerns.unwinding {program : KernelM α} {cleanup : Errno → KernelM Unit}
    {F : Stop → SnapDevice → Prop}
    (body : Concerns dev paths device program done F)
    (cleans : ∀ error device', F (.errno error) device' →
      Concerns dev paths device' (cleanup error) (fun _ => stopped (.errno error)) stopped)
    (oops : ∀ device', F .oops device' → stopped .oops device')
    (crash : ∀ device', F .crash device' → stopped .crash device') :
    Concerns dev paths device (Driver.unwinding program cleanup) done stopped := by
  intro kernel found owns
  rw [wp_unwinding]
  apply wp_mono (body kernel found owns)
  · exact fun _ _ => id
  · intro reason state here
    cases reason with
    | errno error =>
        apply here.step
        intro device' found' owns' holds
        exact cleans error device' holds state found' owns'
    | oops => exact here.weaken oops
    | crash => exact here.weaken crash

theorem Concerns.catching {done : Unit → SnapDevice → Prop} {program : KernelM Unit}
    {handler : Errno → KernelM Unit} {F : Stop → SnapDevice → Prop}
    (body : Concerns dev paths device program done F)
    (handles : ∀ error device', F (.errno error) device' →
      Concerns dev paths device' (handler error) done stopped)
    (oops : ∀ device', F .oops device' → stopped .oops device')
    (crash : ∀ device', F .crash device' → stopped .crash device') :
    Concerns dev paths device (Driver.catching program handler) done stopped := by
  intro kernel found owns
  rw [wp_catching]
  apply wp_mono (body kernel found owns)
  · exact fun _ _ => id
  · intro reason state here
    cases reason with
    | errno error =>
        apply here.step
        intro device' found' owns' holds
        exact handles error device' holds state found' owns'
    | oops => exact here.weaken oops
    | crash => exact here.weaken crash

theorem Concerns.runCow (held : device.sdCow = some cow) (program : CowM α)
    (holds : ∀ value, done value device) (fails : ∀ reason, stopped reason device) :
    Concerns dev paths device (Driver.runCow cow program) done stopped := by
  intro kernel found owns
  cases stored : kernel.cows cow with
  | none =>
      rw [wp_runCow_freed stored]
      exact .here found owns (fails _)
  | some object =>
      have inside : paths object.path := owns cow object held stored
      have after : ∀ {good : SnapDevice → Prop} (state : CowState), good device →
          Local dev paths kernel good (kernel.putCow cow object state) := by
        intro good state holds
        apply Local.mk (Elsewhere.putCow stored inside)
        refine ⟨device, found, ?_, holds⟩
        intro address other same kept
        rw [held] at same
        cases same
        rw [show (kernel.putCow cow object state).cows cow = some ⟨state.cm, object.path⟩ from
          Function.update_self _ _ _] at kept
        cases kept
        exact inside
      rw [wp_runCow stored]
      apply wp_mono (wp_true program _)
      · exact fun value state _ => after state (holds value)
      · exact fun reason state _ => after state (fails reason)

end concerns

/-- What a stopped program leaves of the way the device traces. -/
abbrev KeepsTracing (device : SnapDevice) (_ : Stop) (after : SnapDevice) : Prop :=
  SameTracing device after

/-- The device with its fail code set, unless it had one. -/
def SnapDevice.failed (device : SnapDevice) (error : Errno) : SnapDevice :=
  { device with sdFailCode := device.sdFailCode.orElse fun _ => some error }

/-- A device whose fail code may have been set. -/
def MayFail (before after : SnapDevice) : Prop :=
  after = before ∨ ∃ error, after = before.failed error

theorem MayFail.trans {first second third : SnapDevice} (left : MayFail first second)
    (right : MayFail second third) : MayFail first third := by
  rcases left with rfl | ⟨error, rfl⟩
  · exact right
  · rcases right with rfl | ⟨other, rfl⟩
    · exact .inr ⟨error, rfl⟩
    · apply Or.inr
      refine ⟨error, ?_⟩
      cases code : first.sdFailCode <;> simp [SnapDevice.failed, code]

theorem MayFail.tracing {before after : SnapDevice} (may : MayFail before after) :
    SameTracing before after := by
  rcases may with rfl | ⟨error, rfl⟩
  · exact .refl _
  · exact ⟨rfl, rfl, rfl, rfl, rfl, rfl⟩

theorem cleanUpCow_concerns :
    Concerns dev paths device (cleanUpCow dev) (fun _ after => after = device)
      (fun _ after => after = device) := by
  apply Concerns.getThen
  apply Concerns.when _ fun _ => rfl
  intro _
  cases held : device.sdCow with
  | none => exact .pure rfl
  | some cow => exact .runCow held _ (fun _ => rfl) fun _ => rfl

theorem drain_concerns (jobs : List Job) :
    Concerns dev paths device (drain dev jobs) (fun _ => MayFail device)
      (fun _ => MayFail device) := by
  induction jobs generalizing device with
  | nil => exact .pure (.inl rfl)
  | cons job rest ih =>
      apply Concerns.bind (cleanUpCow_concerns.mono (fun _ _ => id) fun _ _ => .inl)
      intro _ _ same
      rw [same]
      apply Concerns.getThen
      apply Concerns.bind (R := fun _ => MayFail device)
      · apply Concerns.when
        · intro _
          apply Concerns.derefThen (.inl rfl)
          intro cow held
          apply Concerns.catching (F := fun _ after => after = device)
          · exact .runCow held _ (fun _ => .inl rfl) fun _ => rfl
          · intro error after same
            rw [same]
            exact .setDev (.inl rfl) (.inr ⟨error, rfl⟩)
          · exact fun _ same => .inl same
          · exact fun _ same => .inl same
        · exact fun _ => .inl rfl
      · intro _ middle may
        exact ih.mono (fun _ _ => may.trans) fun _ _ => may.trans

theorem finishCow_concerns (jobs : List Job) :
    Concerns dev paths device (finishCow dev jobs) (fun _ => MayFail device)
      (fun _ => MayFail device) := by
  cases jobs with
  | nil => exact cleanUpCow_concerns.mono (fun _ _ => .inl) fun _ _ => .inl
  | cons job rest => exact drain_concerns _

theorem tracerDestroyCowThread_concerns :
    Concerns dev paths device (tracerDestroyCowThread dev)
      (fun _ after => ∃ drained, MayFail device drained ∧
        after = if device.sdCowThread then
          { drained with sdPending := [], sdCowThread := false } else device)
      (KeepsTracing device) := by
  apply Concerns.getThen
  apply Concerns.when
  · intro running
    apply Concerns.bind ((finishCow_concerns device.sdPending).mono (fun _ _ => id)
      fun _ _ may => may.tracing)
    intro _ drained may
    exact .setDev (.inl rfl) ⟨drained, may, by rw [if_pos running]⟩
  · intro idle
    exact ⟨device, .inl rfl, by simp [idle]⟩

theorem tracerSetupCowThread_concerns (step : Step) :
    Concerns dev paths device (tracerSetupCowThread step dev)
      (fun _ after => after = { device with sdCowThread := true })
      (fun _ after => after = device) :=
  .attemptThen step (fun _ => rfl) (.setDev (.inl rfl) rfl)

theorem wakeUpCowThread_concerns :
    Concerns dev paths device (wakeUpCowThread dev)
      (fun _ after => after = device ∧ device.sdCowThread = true)
      (fun reason after => after = device ∧ reason = .oops) := by
  apply Concerns.getThen
  apply Concerns.ite
  · exact fun running => .pure ⟨rfl, running⟩
  · exact fun _ => .stop ⟨rfl, rfl⟩

theorem tracerDestroyBaseDev_concerns {stopped : Stop → SnapDevice → Prop} :
    Concerns dev paths device (tracerDestroyBaseDev dev)
      (fun _ after => after = { device with sdSize := 0, sdBdevPath := none, sdBaseDev := none })
      stopped :=
  .setDev (.inl rfl) rfl

theorem runCow_concerns (held : device.sdCow = some cow) (program : CowM α) :
    Concerns dev paths device (runCow cow program) (fun _ after => after = device)
      (fun _ after => after = device) :=
  .runCow held _ (fun _ => rfl) fun _ => rfl

theorem kfreeCow_concerns {stopped : Stop → SnapDevice → Prop} (held : device.sdCow = some cow) :
    Concerns dev paths device (kfreeCow cow) (fun _ after => after = device) stopped := by
  intro kernel found owns
  apply Local.mk
  · exact
      { Elsewhere.refl dev paths kernel with
        cows := by
          intro other object _ stored outside
          by_cases same : other = cow
          · subst same
            exact absurd (owns other object held stored) outside
          · exact (Function.update_of_ne same _ _).trans stored
        objects := by
          intro other object stored
          by_cases same : other = cow
          · subst same
            exact absurd ((Function.update_self _ _ _).symm.trans stored) (by simp)
          · exact .inr ((Function.update_of_ne same _ _).symm.trans stored) }
  · apply Exists.intro device
    refine ⟨found, ?_, rfl⟩
    intro other object same stored
    rw [held] at same
    cases same
    have gone : Function.update kernel.cows cow none cow = some object := stored
    rw [Function.update_self] at gone
    contradiction

theorem cowFree_concerns (held : device.sdCow = some cow) :
    Concerns dev paths device (cowFree cow) (fun _ after => after = device)
      (fun _ after => after = device) := by
  apply Concerns.bind (runCow_concerns held _)
  intro _ _ same
  rw [same]
  exact kfreeCow_concerns held

theorem cowSyncAndFree_concerns (held : device.sdCow = some cow) :
    Concerns dev paths device (cowSyncAndFree cow) (fun _ after => after = device)
      (fun _ after => after = device) := by
  apply Concerns.bind (R := fun _ after => after = device)
  · apply Concerns.unwinding (runCow_concerns held _)
    · intro error _ same
      rw [same]
      exact kfreeCow_concerns held
    · exact fun _ => id
    · exact fun _ => id
  · intro _ _ same
    rw [same]
    exact kfreeCow_concerns held

def SnapDevice.withoutCow (device : SnapDevice) : SnapDevice := { device with sdCow := none }

theorem closeCow_concerns (method : CloseMethod) :
    Concerns dev paths device (closeCow dev method)
      (fun _ after => after = if method = .syncAndClose then device else device.withoutCow)
      (fun _ after => after = device ∨ after = device.withoutCow) := by
  apply Concerns.getThen
  cases held : device.sdCow with
  | none =>
      apply Concerns.pure
      have same : device.withoutCow = device := by
        cases device
        cases held
        rfl
      rw [same, ite_self]
  | some cow =>
      cases method with
      | free =>
          apply Concerns.bind ((cowFree_concerns held).mono (fun _ _ => id) fun _ _ => .inl)
          intro _ _ same
          rw [same]
          exact .setDev (.inr rfl) rfl
      | syncAndFree =>
          apply Concerns.bind (R := fun _ after => after = device)
          · apply Concerns.unwinding (cowSyncAndFree_concerns held)
            · intro error _ same
              rw [same]
              exact .setDev (.inr rfl) (.inr rfl)
            · exact fun _ => .inl
            · exact fun _ => .inl
          · intro _ _ same
            rw [same]
            exact .setDev (.inr rfl) rfl
      | syncAndClose => exact .runCow held _ (fun _ => rfl) fun _ => .inl rfl

theorem tracerDestroyCow_concerns (method : CloseMethod) :
    Concerns dev paths device (tracerDestroyCow dev method)
      (fun _ after => after = if method = .syncAndClose then
        { device with sdFallocSize := 0, sdCacheSize := 0 }
        else { device with sdFallocSize := 0, sdCacheSize := 0, sdCow := none })
      (fun _ after => ∃ sdCow, after = { device with sdFallocSize := 0, sdCacheSize := 0, sdCow }) := by
  apply Concerns.setThen (.inl rfl)
  apply (closeCow_concerns method).mono (fun _ _ => id)
  rintro _ _ (same | same)
  · exact ⟨_, same⟩
  · exact ⟨_, same⟩

theorem newCow_concerns {path : CowPath} (inside : paths path) (owner : Option Address)
    (refused opened : CowM Unit) :
    Concerns dev paths device (newCow dev path owner refused opened)
      (fun _ after => ∃ cow, after = { device with sdCow := some cow })
      (fun _ after => after = device ∨ after = device.withoutCow) := by
  intro kernel found owns
  let allocated := kernel.withCow path owner
  have stored : allocated.cows kernel.fresh = some ⟨Cow.CowManager.zero, path⟩ :=
    kernel.withCow_stored path owner
  have alloc : Elsewhere dev paths kernel allocated :=
    { Elsewhere.refl dev paths kernel with
      fresh := Nat.le_succ _
      cows := fun other _ below kept _ =>
        (Function.update_of_ne (Nat.ne_of_lt below) _ _).trans kept
      objects := by
        intro other object kept
        by_cases new : other = kernel.fresh
        · subst new
          cases (Function.update_self _ _ _).symm.trans kept
          exact .inl inside
        · exact .inr ((Function.update_of_ne new _ _).symm.trans kept)
      cowDev := fun other below => Function.update_of_ne (Nat.ne_of_lt below) _ _ }
  have ran : ∀ state, Elsewhere dev paths kernel
      (allocated.putCow kernel.fresh ⟨Cow.CowManager.zero, path⟩ state) :=
    fun state => alloc.trans (.putCow stored inside)
  have held : ∀ state, (allocated.putCow kernel.fresh ⟨Cow.CowManager.zero, path⟩ state).cows
      kernel.fresh = some ⟨state.cm, path⟩ := fun _ => Function.update_self _ _ _
  have others : ∀ state, Owns paths
      (allocated.putCow kernel.fresh ⟨Cow.CowManager.zero, path⟩ state) device := by
    intro state cow object same kept
    by_cases new : cow = kernel.fresh
    · rw [new, held state] at kept
      cases kept
      exact inside
    · apply owns cow object same
      have unchanged : (allocated.putCow kernel.fresh ⟨Cow.CowManager.zero, path⟩ state).cows cow =
          kernel.cows cow :=
        (Function.update_of_ne new _ _).trans (Function.update_of_ne new _ _)
      exact unchanged ▸ kept
  have found' : ∀ state, (allocated.putCow kernel.fresh ⟨Cow.CowManager.zero, path⟩ state).devices
      dev = some device := fun _ => found
  rw [wp_newCow, wp_bind, wp_unwinding]
  apply wp_opening_each
  intro program
  change wp _ _ _ allocated
  rw [wp_runCow stored]
  apply wp_mono (wp_true program _)
  · intro _ state _
    rw [wp_setDev (found' state)]
    apply Local.mk ((ran state).trans (.setDev dev paths _ _))
    refine ⟨_, Kernel.setDev_same _ dev _, ?_, kernel.fresh, rfl⟩
    intro cow object same kept
    cases same
    have same' := kept.symm.trans (held state)
    cases same'
    exact inside
  · intro reason state _
    cases reason with
    | errno error =>
        let freed : Kernel :=
          { allocated.putCow kernel.fresh ⟨Cow.CowManager.zero, path⟩ state with
            cows := Function.update (allocated.putCow kernel.fresh
              ⟨Cow.CowManager.zero, path⟩ state).cows kernel.fresh none }
        have frees : Elsewhere dev paths
            (allocated.putCow kernel.fresh ⟨Cow.CowManager.zero, path⟩ state) freed :=
          { Elsewhere.refl dev paths _ with
            cows := by
              intro other object _ kept outside
              by_cases new : other = kernel.fresh
              · have same := kept.symm.trans ((congrArg _ new).trans (held state))
                cases same
                exact absurd inside outside
              · exact (Function.update_of_ne new _ _).trans kept
            objects := by
              intro other object kept
              by_cases new : other = kernel.fresh
              · subst new
                exact absurd ((Function.update_self _ _ _).symm.trans kept) (by simp)
              · exact .inr ((Function.update_of_ne new _ _).symm.trans kept) }
        change wp (setDev dev _) _ _ freed
        have found' : freed.devices dev = some device := found
        rw [wp_setDev found']
        apply Local.mk (((ran state).trans frees).trans (.setDev dev paths _ _))
        refine ⟨_, Kernel.setDev_same _ dev _, ?_, .inr rfl⟩
        intro cow object same _
        cases same
    | oops => exact ⟨ran state, device, found, others state, .inl rfl⟩
    | crash => exact ⟨ran state, device, found, others state, .inl rfl⟩

theorem setCow_concerns {object : CowObject} {stopped : Stop → SnapDevice → Prop}
    (held : device.sdCow = some cow) (inside : paths object.path) :
    Concerns dev paths device (setCow cow object) (fun _ after => after = device) stopped := by
  intro kernel found owns
  apply Local.mk
  · exact
      { Elsewhere.refl dev paths kernel with
        cows := by
          intro other kept _ stored outside
          by_cases same : other = cow
          · subst same
            exact absurd (owns other kept held stored) outside
          · exact (Function.update_of_ne same _ _).trans stored
        objects := by
          intro other kept stored
          by_cases same : other = cow
          · subst same
            cases (Function.update_self _ _ _).symm.trans stored
            exact .inl inside
          · exact .inr ((Function.update_of_ne same _ _).symm.trans stored) }
  · apply Exists.intro device
    refine ⟨found, ?_, rfl⟩
    intro other kept same stored
    rw [held] at same
    cases same
    have new : Function.update kernel.cows cow (some object) cow = some kept := stored
    rw [Function.update_self] at new
    cases new
    exact inside

theorem cowReopen_concerns {path : CowPath} (held : device.sdCow = some cow)
    (inside : paths path) :
    Concerns dev paths device (cowReopen cow path) (fun _ after => after = device)
      (fun _ after => after = device) := by
  apply Concerns.readThen
  intro kernel
  apply Concerns.derefThen rfl
  intro object _
  apply Concerns.readThen
  intro kernel
  apply Concerns.ite
  · exact fun _ => runCow_concerns held _
  · intro _
    have inside' : paths (CowObject.mk object.cm path).path := inside
    apply Concerns.bind (setCow_concerns held inside')
    intro _ _ same
    rw [same]
    exact runCow_concerns held _

/-- What `__tracer_setup_cow` sets in the device. -/
def OpenMethod.Opened (machine : Machine) (method : OpenMethod) (device after : SnapDevice) :
    Prop :=
  match method with
  | .reopen => after = device
  | .new size fallocatedSpace cacheSize _ _ => ∃ cow, after =
      { device with
        sdCow := some cow
        sdCacheSize := machine.cacheSize cacheSize
        sdFallocSize :=
          if fallocatedSpace = 0 then machine.maxFileSize size fallocatedSpace / megabyte
          else fallocatedSpace }
  | .reload _ cacheSize _ => ∃ cow sdFallocSize, after =
      { device with
        sdCow := some cow
        sdCacheSize := machine.cacheSize cacheSize
        sdFallocSize }

/-- No field but those of the COW manager changed. -/
def OnlyCow (before after : SnapDevice) : Prop :=
  ∃ sdCow sdCacheSize sdFallocSize, after = { before with sdCow, sdCacheSize, sdFallocSize }

theorem openCow_concerns {machine : Machine} {path : CowPath} (inside : paths path)
    (method : OpenMethod) :
    Concerns dev paths device (openCow machine dev path method)
      (fun _ => method.Opened machine device) (fun _ => OnlyCow device) := by
  cases method with
  | reopen =>
      have only : OnlyCow device device := ⟨_, _, _, rfl⟩
      apply Concerns.getThen
      apply Concerns.derefThen only
      intro cow held
      apply (cowReopen_concerns held inside).mono (fun _ _ => id)
      intro _ _ same
      rw [same]
      exact only
  | new size fallocatedSpace cacheSize uuid seqid =>
      apply Concerns.setThen (.inl rfl)
      apply (newCow_concerns inside _ refusedCow _).mono (fun _ _ => id)
      rintro _ _ (same | same)
      · exact ⟨_, _, _, same⟩
      · exact ⟨_, _, _, same⟩
  | reload size cacheSize indexOnly =>
      apply Concerns.setThen (.inl rfl)
      apply Concerns.bind
      · apply (newCow_concerns inside _ refusedCow _).mono (fun _ _ => id)
        rintro _ _ (same | same)
        · exact ⟨_, _, _, same⟩
        · exact ⟨_, _, _, same⟩
      · rintro _ _ ⟨cow, rfl⟩
        apply Concerns.readThen
        intro kernel
        apply Concerns.getThen
        apply Concerns.derefThen ⟨_, _, _, rfl⟩
        intro cow' held
        apply Concerns.derefThen ⟨_, _, _, rfl⟩
        intro object _
        exact .setDev (.inl rfl) ⟨cow, _, rfl⟩

theorem OpenMethod.Opened.onlyCow {machine : Machine} {method : OpenMethod}
    {after : SnapDevice} (opened : method.Opened machine device after) : OnlyCow device after := by
  cases method with
  | reopen => exact ⟨_, _, _, opened⟩
  | new size fallocatedSpace cacheSize uuid seqid =>
      obtain ⟨cow, same⟩ := opened
      exact ⟨_, _, _, same⟩
  | reload size cacheSize indexOnly =>
      obtain ⟨cow, fallocSize, same⟩ := opened
      exact ⟨_, _, _, same⟩

theorem tracerSetupCow_concerns {machine : Machine} {path : CowPath} (inside : paths path)
    (bdev : Nat) (method : OpenMethod) :
    Concerns dev paths device (tracerSetupCow machine dev bdev path method)
      (fun _ => method.Opened machine device) (fun _ => OnlyCow device) := by
  apply Concerns.unwinding (F := fun _ => OnlyCow device)
  · apply Concerns.bind (openCow_concerns inside method)
    intro _ middle opened
    apply Concerns.bind (R := fun _ after => after = middle)
    · apply Concerns.readThen
      exact fun _ => .pure rfl
    · intro _ _ same
      rw [same]
      apply Concerns.when
      · exact fun _ => .stop opened.onlyCow
      · exact fun _ => opened
  · intro error middle only
    have cleaned : ∀ method : CloseMethod, Concerns dev paths middle (tracerDestroyCow dev method)
        (fun _ => OnlyCow device) (fun _ => OnlyCow device) := by
      intro method
      obtain ⟨_, _, _, rfl⟩ := only
      apply (tracerDestroyCow_concerns method).mono
      · intro _ _ same
        rw [same]
        split
        · exact ⟨_, _, _, rfl⟩
        · exact ⟨_, _, _, rfl⟩
      · rintro _ _ ⟨_, same⟩
        exact ⟨_, _, _, same⟩
    cases method with
    | reopen => exact .pure only
    | new size fallocatedSpace cacheSize uuid seqid => exact cleaned _
    | reload size cacheSize indexOnly => exact cleaned _
  · exact fun _ => id
  · exact fun _ => id

theorem tracerSetupCowPath_concerns :
    Concerns dev paths device (tracerSetupCowPath dev)
      (fun _ after => ∃ path, after = { device with sdCowPath := some path })
      (fun _ after => after = device ∨ after = { device with sdCowPath := none }) := by
  apply Concerns.readThen
  intro kernel
  apply Concerns.getThen
  apply Concerns.derefThen (.inl rfl)
  intro cow _
  apply Concerns.derefThen (.inl rfl)
  intro object _
  apply Concerns.bind (R := fun _ after => after = device)
  · apply Concerns.unwinding (F := fun _ after => after = device)
      (.attempt _ rfl fun _ => rfl)
    · intro _ _ same
      rw [same]
      exact .setDev (.inl rfl) (.inr rfl)
    · exact fun _ => .inl
    · exact fun _ => .inl
  · intro _ _ same
    rw [same]
    exact .setDev (.inl rfl) ⟨_, rfl⟩

/-- No field but those of the snapshot disk changed. -/
def OnlySnap (before after : SnapDevice) : Prop :=
  ∃ sdGd sdMrfThread, after = { before with sdGd, sdMrfThread }

theorem tracerSetupSnap_concerns :
    Concerns dev paths device (tracerSetupSnap dev)
      (fun _ after => after = { device with sdGd := true, sdMrfThread := true })
      (fun _ => OnlySnap device) := by
  apply Concerns.unwinding (F := fun _ => OnlySnap device)
  · apply Concerns.attemptThen _ fun _ => ⟨_, _, rfl⟩
    apply Concerns.attemptThen _ fun _ => ⟨_, _, rfl⟩
    apply Concerns.setThen (.inl rfl)
    apply Concerns.attemptThen _ fun _ => ⟨_, _, rfl⟩
    apply Concerns.attemptThen _ fun _ => ⟨_, _, rfl⟩
    apply Concerns.setThen (.inl rfl)
    exact .attempt _ rfl fun _ => ⟨_, _, rfl⟩
  · rintro error _ ⟨_, _, rfl⟩
    exact .setDev (.inl rfl) ⟨_, _, rfl⟩
  · exact fun _ => id
  · exact fun _ => id

section walks

variable {test : Nat → SnapDevice → KernelM Bool} {G : Nat → SnapDevice → Bool → Prop}

/-- A program that only looks. -/
def Reads (kernel : Kernel) (program : KernelM α) (good : α → Prop) : Prop :=
  wp program (fun value after => after = kernel ∧ good value)
    (fun reason after => after = kernel ∧ reason = .oops) kernel

/-- The slot of a minor holds a device of this kind. -/
def Kernel.Holds (kernel : Kernel) (minor : Nat) (dev : Address) (device : SnapDevice) : Prop :=
  kernel.snapDevices minor = some dev ∧ kernel.devices dev = some device

theorem findDev_reads (looks : ∀ minor device, Reads kernel (test minor device) (G minor device))
    (minors : List Nat) :
    Reads kernel (findDev test minors) (fun found =>
      match found with
      | none => ∀ minor ∈ minors, ∀ dev device, kernel.Holds minor dev device →
          G minor device false
      | some (minor, dev) => minor ∈ minors ∧
          ∃ device, kernel.Holds minor dev device ∧ G minor device true) := by
  induction minors with
  | nil => exact ⟨rfl, by simp⟩
  | cons minor rest ih =>
      unfold Reads findDev
      rw [wp_bind, wp_read]
      cases slot : kernel.snapDevices minor with
      | none =>
          apply wp_mono ih
          · rintro found _ ⟨rfl, holds⟩
            refine ⟨rfl, ?_⟩
            cases found with
            | none =>
                intro other member dev device held
                rcases List.mem_cons.mp member with rfl | later
                · exact absurd (slot.symm.trans held.1) (by simp)
                · exact holds other later dev device held
            | some pair => exact ⟨List.mem_cons_of_mem _ holds.1, holds.2⟩
          · exact fun _ _ => id
      | some dev =>
          dsimp only
          rw [wp_bind]
          cases stored : kernel.devices dev with
          | none =>
              unfold getDev
              rw [wp_bind, wp_read, stored]
              exact ⟨rfl, rfl⟩
          | some device =>
              rw [wp_getDev stored, wp_bind]
              apply wp_mono (looks minor device)
              · rintro accepted _ ⟨rfl, verdict⟩
                rw [wp_ite]
                cases accepted with
                | true => exact ⟨rfl, List.mem_cons_self, device, ⟨slot, stored⟩, verdict⟩
                | false =>
                    apply wp_mono ih
                    · rintro found _ ⟨rfl, holds⟩
                      refine ⟨rfl, ?_⟩
                      cases found with
                      | none =>
                          intro other member dev' device' held
                          rcases List.mem_cons.mp member with rfl | later
                          · obtain ⟨slot', stored'⟩ := held
                            cases slot.symm.trans slot'
                            cases stored.symm.trans stored'
                            exact verdict
                          · exact holds other later dev' device' held
                      | some pair => exact ⟨List.mem_cons_of_mem _ holds.1, holds.2⟩
                    · exact fun _ _ => id
              · exact fun _ _ => id

/-- Every slot in use lies in the range the walks go through. -/
def Kernel.InRange (kernel : Kernel) : Prop :=
  ∀ minor dev, kernel.snapDevices minor = some dev →
    kernel.lowestMinor ≤ minor ∧ minor ≤ kernel.highestMinor

theorem tracerForEach_reads (range : kernel.InRange)
    (looks : ∀ minor device, Reads kernel (test minor device) (G minor device)) :
    Reads kernel (tracerForEach test) (fun found =>
      match found with
      | none => ∀ minor dev device, kernel.Holds minor dev device → G minor device false
      | some (minor, dev) => ∃ device, kernel.Holds minor dev device ∧ G minor device true) := by
  unfold Reads tracerForEach
  rw [wp_bind, wp_read]
  apply wp_mono (findDev_reads looks kernel.minors)
  · rintro found _ ⟨rfl, holds⟩
    refine ⟨rfl, ?_⟩
    cases found with
    | none =>
        intro minor dev device held
        have bounds := range minor dev held.1
        apply holds minor _ dev device held
        unfold Kernel.minors
        rw [List.mem_range'_1]
        omega
    | some pair => exact holds.2
  · exact fun _ _ => id

/-- No verified device in the table has this base device. -/
def Kernel.NotTraced (kernel : Kernel) (bdev : Nat) : Prop :=
  ∀ minor dev device, kernel.Holds minor dev device → device.unverified = false →
    device.sdBaseDev ≠ some bdev

/-- A test of the base device of the verified devices in the table. -/
theorem baseTest_reads {test : Nat → Bool} (_ : Nat) (device : SnapDevice) :
    Reads kernel
      (if device.unverified then pure false
        else do
          let base ← deref device.sdBaseDev
          pure (test base))
      (fun accepted => accepted = true ↔
        device.unverified = false ∧ ∃ base, device.sdBaseDev = some base ∧ test base = true) := by
  unfold Reads
  rw [wp_ite]
  split
  · rename_i unverified
    exact ⟨rfl, by simp [unverified]⟩
  · rename_i verified
    rw [wp_bind, wp_deref]
    split
    · exact ⟨rfl, rfl⟩
    · rename_i base same
      exact ⟨rfl, by simp [same, verified]⟩

theorem bdevIsAlreadyTraced_reads (range : kernel.InRange) (bdev : Nat) :
    Reads kernel (bdevIsAlreadyTraced bdev)
      (fun traced => traced = false ↔ kernel.NotTraced bdev) := by
  unfold Reads bdevIsAlreadyTraced
  rw [wp_bind]
  apply wp_mono (tracerForEach_reads range baseTest_reads)
  · rintro found _ ⟨rfl, holds⟩
    refine ⟨rfl, ?_⟩
    cases found with
    | none =>
        refine ⟨fun _ => ?_, fun _ => rfl⟩
        intro minor dev device held verified same
        have missed := holds minor dev device held
        simp [verified, same] at missed
    | some pair =>
        obtain ⟨device, held, accepted⟩ := holds
        obtain ⟨verified, base, same, equal⟩ := accepted.mp rfl
        refine ⟨nofun, fun apart => ?_⟩
        have equal : base = bdev := of_decide_eq_true equal
        exact absurd (equal ▸ same) (apart pair.1 pair.2 device held verified)
  · exact fun _ _ => id

end walks

/-- No field but those of the base device changed. -/
def OnlyBase (before after : SnapDevice) : Prop :=
  ∃ sdSize sdBdevPath sdBaseDev, after = { before with sdSize, sdBdevPath, sdBaseDev }

def SnapDevice.withBase (device : SnapDevice) (machine : Machine) (bdevPath : Nat) : SnapDevice :=
  { device with
    sdBaseDev := some (machine.bdevAt bdevPath)
    sdBdevPath := some bdevPath
    sdSize := machine.bdevSize (machine.bdevAt bdevPath) }

theorem Kernel.NotTraced.of_setDev {bdev : Nat} {device' : SnapDevice}
    (apart : (kernel.setDev dev device').NotTraced bdev)
    (outside : ∀ minor, kernel.snapDevices minor ≠ some dev) : kernel.NotTraced bdev := by
  intro minor other device held
  apply apart minor other device
  refine ⟨held.1, ?_⟩
  have differs : other ≠ dev := by
    intro same
    exact outside minor (same ▸ held.1)
  exact (Function.update_of_ne differs _ _).trans held.2

theorem tracerSetupBaseDev_spec (machine : Machine) (bdevPath : Nat) (range : kernel.InRange)
    (outside : ∀ minor, kernel.snapDevices minor ≠ some dev)
    (found : kernel.devices dev = some device) (owns : Owns paths kernel device) :
    wp (tracerSetupBaseDev machine dev bdevPath)
      (fun _ after => kernel.NotTraced (machine.bdevAt bdevPath) ∧
        Local dev paths kernel (fun after => after = device.withBase machine bdevPath) after)
      (fun _ => Local dev paths kernel (OnlyBase device)) kernel := by
  have cleans : ∀ middle, Local dev paths kernel (OnlyBase device) middle →
      wp (tracerDestroyBaseDev dev) (fun _ => Local dev paths kernel (OnlyBase device))
        (fun _ => Local dev paths kernel (OnlyBase device)) middle := by
    intro middle here
    refine here.step fun device' found' owns' only => ?_
    apply (tracerDestroyBaseDev_concerns.mono _ fun _ _ => id) middle found' owns'
    intro _ _ same
    obtain ⟨_, _, _, rfl⟩ := only
    exact ⟨_, _, _, same⟩
  have range' : ∀ device, (kernel.setDev dev device).InRange := fun _ => range
  let based : SnapDevice := { device with sdBaseDev := some (machine.bdevAt bdevPath) }
  have here : Local dev paths kernel (fun after => after = based) (kernel.setDev dev based) :=
    .setDev owns (.inl rfl) rfl
  have only : Local dev paths kernel (OnlyBase device) (kernel.setDev dev based) :=
    here.weaken fun _ same => ⟨_, _, _, same⟩
  unfold tracerSetupBaseDev
  rw [wp_unwinding, wp_bind, wp_attempt]
  split
  · rw [wp_bind, wp_setDev found, wp_bind, wp_attempt]
    split
    · rw [wp_bind]
      apply wp_mono (bdevIsAlreadyTraced_reads (range' based) _)
      · rintro traced _ ⟨rfl, apart⟩
        rw [wp_bind, wp_when]
        cases traced with
        | true => exact cleans _ only
        | false =>
            rw [if_neg (by decide), wp_bind, wp_attempt]
            split
            · rw [wp_setDev (Kernel.setDev_same _ _ _)]
              refine ⟨(apart.mp rfl).of_setDev outside, ?_⟩
              apply Local.mk (here.elsewhere.trans (.setDev dev paths _ _))
              refine ⟨_, Kernel.setDev_same _ _ _, ?_, rfl⟩
              intro cow object held stored
              exact owns cow object held stored
            · exact cleans _ only
      · rintro _ _ ⟨rfl, rfl⟩
        exact only
    · exact cleans _ only
  · exact cleans _ (.here found owns ⟨_, _, _, rfl⟩)

end Moocbt.Driver
