import Moocbt.Cow.Reloading
import Moocbt.Driver.CowFileFate
import Moocbt.Driver.Ioctls

/-! An activation that fails keeps the COW file where it fails before the header is written. -/

namespace Moocbt.Driver

open Cow (Acceptable CowFile Granted Stop Unclean)
open Program

variable {machine : Machine} {kernel : Kernel} {dev : Address} {device : SnapDevice}
  {path : CowPath} {file : CowFile} {bdev bdevPath minor : Nat} {reached : Prop}

/-- A device that waits for its block device to be mounted. -/
structure Unverified (device : SnapDevice) : Prop where
  unverified : device.unverified = true
  sdCow : device.sdCow = none
  sdPending : device.sdPending = []
  sdOrigRequestFn : device.sdOrigRequestFn = none

theorem Unverified.registered (minor bdevPath relPath cacheSize : Nat) (isSnap : Bool) :
    Unverified (SnapDevice.zero.registered minor bdevPath relPath cacheSize isSnap) :=
  ⟨rfl, rfl, rfl, rfl⟩

/-- A COW file that a reload accepts. -/
structure Reloadable (file : CowFile) (isSnap : Bool) : Prop where
  size : Cow.cowHeaderBytes ≤ file.size
  header : Acceptable file.header (!isSnap)

/-- The base device can be set up. -/
structure Based (machine : Machine) (kernel : Kernel) (bdevPath : Nat) : Prop where
  steps : ∀ step ∈ [Step.baseBdev, .bdDisk, .absolutePath], kernel.faults step = none
  apart : kernel.NotTraced (machine.bdevAt bdevPath)

/-- The file can be opened, and its header read and written. -/
def Opens (kernel : Kernel) (path : CowPath) : Prop :=
  kernel.immutable path = false ∧ Granted 5 kernel.outcomes

/-- An activation gets as far as the header of the file. -/
structure Reaching (machine : Machine) (kernel : Kernel) (bdevPath : Nat) (path : CowPath) : Prop
    extends Based machine kernel bdevPath where
  concatPath : kernel.faults .concatPath = none
  opens : Opens kernel path

theorem Based.of_same {before : Kernel} (based : Based machine before bdevPath)
    (faults : kernel.faults = before.faults)
    (apart : kernel.NotTraced (machine.bdevAt bdevPath)) : Based machine kernel bdevPath := by
  constructor
  · rw [faults]
    exact based.steps
  · exact apart

theorem Reaching.of_same {before : Kernel} (reaching : Reaching machine before bdevPath path)
    (faults : kernel.faults = before.faults) (immutable : kernel.immutable = before.immutable)
    (outcomes : kernel.outcomes = before.outcomes) (based : Based machine kernel bdevPath) :
    Reaching machine kernel bdevPath path := by
  constructor
  · exact based
  · rw [faults]
    exact reaching.concatPath
  · unfold Opens
    rw [immutable, outcomes]
    exact reaching.opens

/-- The header was written or the file is as it was. -/
def Verdict (reached : Prop) (dev : Address) (path : CowPath) (file : CowFile)
    (after : Kernel) : Prop :=
  reached ∧ Fate dev path Unclean false after ∨
    ¬ reached ∧ Fate dev path (fun found => found = some file) false after

theorem Verdict.kept {α : Type} {program : KernelM α}
    (keeps : ∀ good, Fate.Kept dev path good false program) :
    Maintains (Verdict reached dev path file) program := by
  intro kernel verdict
  rcases verdict with ⟨yes, fate⟩ | ⟨no, fate⟩
  · apply wp_mono (keeps _ kernel fate)
    · exact fun _ _ fate => .inl ⟨yes, fate⟩
    · exact fun _ _ fate => .inl ⟨yes, fate⟩
  · apply wp_mono (keeps _ kernel fate)
    · exact fun _ _ fate => .inr ⟨no, fate⟩
    · exact fun _ _ fate => .inr ⟨no, fate⟩

theorem Kernel.NotTraced.setDev {device' : SnapDevice} (apart : kernel.NotTraced bdev)
    (outside : kernel.Outside dev) : (kernel.setDev dev device').NotTraced bdev :=
  fun minor other device held => apart minor other device (held.of_setDev outside)

theorem tracerSetupBaseDev_reaches (range : kernel.InRange) (outside : kernel.Outside dev)
    (found : kernel.devices dev = some device) :
    wp (tracerSetupBaseDev machine dev bdevPath)
      (fun _ after => Based machine kernel bdevPath ∧
        after = kernel.setDev dev (device.withBase machine bdevPath))
      (OnError fun after => ¬ Based machine kernel bdevPath ∧
        ∃ device', OnlyBase device device' ∧ after = kernel.setDev dev device') kernel := by
  let left : Kernel → Prop := fun after => ¬ Based machine kernel bdevPath ∧
    ∃ device', OnlyBase device device' ∧ after = kernel.setDev dev device'
  have cleans : ∀ device' error, OnlyBase device device' → ¬ Based machine kernel bdevPath →
      wp (tracerDestroyBaseDev dev) (fun _ => OnError left (.errno error)) (OnError left)
        (kernel.setDev dev device') := by
    intro device' error only never
    obtain ⟨sdSize, sdBdevPath, sdBaseDev, same⟩ := only
    unfold tracerDestroyBaseDev
    rw [wp_setDev (Kernel.setDev_same _ _ _), Kernel.setDev_setDev]
    refine fun _ _ => ⟨never, _, ?_, rfl⟩
    rw [same]
    exact ⟨_, _, _, rfl⟩
  have same : OnlyBase device device := ⟨_, _, _, rfl⟩
  let based : SnapDevice := { device with sdBaseDev := some (machine.bdevAt bdevPath) }
  have only : OnlyBase device based := ⟨_, _, _, rfl⟩
  have faulty : ∀ {step : Step} {error : Cow.Errno}, kernel.faults step = some error →
      step ∈ [Step.baseBdev, .bdDisk, .absolutePath] → ¬ Based machine kernel bdevPath := by
    intro step error fault listed ready
    rw [ready.steps step listed] at fault
    contradiction
  unfold tracerSetupBaseDev
  rw [wp_unwinding, wp_bind, wp_attempt]
  split
  · rename_i base
    rw [wp_bind, wp_setDev found, wp_bind, wp_attempt]
    split
    · rename_i disk
      rw [wp_bind]
      have range' : (kernel.setDev dev based).InRange := range
      apply wp_mono (bdevIsAlreadyTraced_reads range' _)
      · intro traced middle ⟨here, verdict⟩
        subst middle
        rw [wp_bind, wp_when]
        cases traced with
        | true =>
            apply cleans based _ only
            intro ready
            exact absurd (verdict.mpr (ready.apart.setDev outside)) (by decide)
        | false =>
            rw [if_neg (by decide), wp_bind, wp_attempt]
            split
            · rename_i absolute
              rw [wp_setDev (Kernel.setDev_same _ _ _), Kernel.setDev_setDev]
              refine ⟨⟨?_, (verdict.mp rfl).of_setDev outside⟩, rfl⟩
              intro step listed
              simp only [List.mem_cons, List.not_mem_nil, or_false] at listed
              rcases listed with first | second | third
              · exact first ▸ base
              · exact second ▸ disk
              · exact third ▸ absolute
            · rename_i fault
              exact cleans based _ only (faulty fault (by decide))
      · intro reason middle ⟨_, oops⟩
        subst reason
        exact OnError.oops _
    · rename_i fault
      exact cleans based _ only (faulty fault (by decide))
  · rename_i error fault
    have kept := cleans device error same (faulty fault (by decide))
    rw [Kernel.setDev_self found] at kept
    exact kept

theorem Idle.unclean {cows : Option Address → Option Cow.Errno → Prop}
    (idle : Idle false cows device) :
    Idle false (fun held _ => held = none ∨ Unclean none) device :=
  { idle with sdCow := .inr .none }

/-- A manager with nothing open reloads the file. -/
theorem runCow_reaches {isSnap : Bool} {cow : Address}
    (fate : Fate dev path (fun found => found = some file) false kernel)
    (stored : kernel.cows cow = some ⟨Cow.CowManager.zero, path⟩)
    (free : kernel.immutable path = false) (good : Reloadable file isSnap)
    (elements sectSize cacheSize : Nat) :
    wp (runCow cow (Cow.cowReload elements sectSize cacheSize (!isSnap)))
      (fun _ after => Opens kernel path ∧ Fate dev path Unclean false after)
      (fun _ => Verdict (Opens kernel path) dev path file) kernel := by
  obtain ⟨device, found, idle⟩ := fate.device
  have granted : Opens kernel path ↔ Granted 5 kernel.outcomes :=
    ⟨And.right, fun all => ⟨free, all⟩⟩
  have here : ∀ after : Cow.CowState,
      (kernel.putCow cow ⟨Cow.CowManager.zero, path⟩ after).side.files path = after.file :=
    fun _ => Function.update_self _ _ _
  have wrote : ∀ {after : Cow.CowState}, Unclean after.file →
      Fate dev path Unclean false (kernel.putCow cow ⟨Cow.CowManager.zero, path⟩ after) := by
    intro after unclean
    refine ⟨?_, device, found, idle.unclean⟩
    rw [here]
    exact unclean
  rw [wp_runCow stored]
  apply wp_mono (Cow.cowReload_granted _ _ _ fate.side good.size good.header)
  · exact fun _ _ done => ⟨granted.mpr done.1, wrote done.2⟩
  · intro _ after stopped
    rcases stopped with ⟨all, unclean⟩ | ⟨never, same⟩
    · exact .inl ⟨granted.mpr all, wrote unclean⟩
    · refine .inr ⟨fun opens => never (granted.mp opens), ?_, device, found, idle⟩
      rw [here]
      exact same

/-- A new manager reloads the file. -/
theorem cowReload_reaches {isSnap : Bool}
    (fate : Fate dev path (fun found => found = some file) false kernel)
    (good : Reloadable file isSnap) (size cacheSize : Nat) :
    wp (cowReload dev path size cacheSize (!isSnap))
      (fun _ after => Opens kernel path ∧ Fate dev path Unclean false after)
      (fun _ => Verdict (Opens kernel path) dev path file) kernel := by
  let begun := kernel.withCow path none
  have stored : begun.cows kernel.fresh = some ⟨Cow.CowManager.zero, path⟩ :=
    kernel.withCow_stored path none
  have fate' : Fate dev path (fun found => found = some file) false begun :=
    ⟨fate.side, fate.device⟩
  have cleans : ∀ good, Fate.Kept dev path good false (do
      kfreeCow kernel.fresh
      setDev dev fun device => { device with sdCow := none }) := by
    intro good
    apply Maintains.bind (.update fun _ fate => ⟨fate.side, fate.device⟩)
    exact fun _ => Quiet.sets fun _ idle => { idle with sdCow := .inl rfl }
  unfold cowReload
  rw [wp_newCow]
  change wp _ _ _ begun
  have opened : wp
      (unwinding
        (opening path (runCow kernel.fresh refusedCow)
          (runCow kernel.fresh
            (Cow.cowReload (size / sectorsPerBlock) Cow.cowSectionSize cacheSize (!isSnap))))
        fun _ => do
          kfreeCow kernel.fresh
          setDev dev fun device => { device with sdCow := none })
      (fun _ after => Opens kernel path ∧ Fate dev path Unclean false after)
      (fun _ => Verdict (Opens kernel path) dev path file) begun := by
    apply wp_unwinding_of _ fun _ => Verdict.kept cleans
    rw [wp_opening]
    split
    · rename_i busy
      rw [wp_runCow stored]
      apply wp_mono refusedCow_spec
      · exact fun _ _ => False.elim
      · intro _ after ⟨same, _⟩
        obtain ⟨device, found, idle⟩ := fate.device
        refine .inr ⟨?_, ?_, device, found, idle⟩
        · intro opens
          have free : begun.immutable path = false := opens.1
          rw [free] at busy
          contradiction
        · change Function.update _ _ _ _ = _
          rw [Function.update_self, same]
          exact fate.side
    · rename_i free
      exact runCow_reaches fate' stored (by simpa using free) good _ _ _
  rw [wp_bind]
  apply wp_mono opened
  · intro _ after ⟨opens, fate⟩
    have sets : Fate.Kept dev path Unclean false
        (setDev dev fun device => { device with sdCow := some kernel.fresh }) :=
      Quiet.sets fun _ idle => { idle with sdCow := .inr .none }
    apply wp_mono (sets after fate)
    · exact fun _ _ fate => ⟨opens, fate⟩
    · exact fun _ _ fate => .inl ⟨opens, fate⟩
  · exact fun _ _ => id

/-- The manager of the device is set up from the file. -/
theorem tracerSetupCow_reaches {isSnap : Bool}
    (fate : Fate dev path (fun found => found = some file) false kernel)
    (good : Reloadable file isSnap) (size cacheSize : Nat) :
    wp (tracerSetupCow machine dev bdev path (.reload size cacheSize (!isSnap)))
      (fun _ after => Opens kernel path ∧ Fate dev path Unclean false after)
      (fun _ => Verdict (Opens kernel path) dev path file) kernel := by
  apply wp_unwinding_of _ fun _ => Verdict.kept fun _ => Fate.tracerDestroyCow
  have sized : Fate.Kept dev path Unclean false (do
      let kernel ← .read
      let device ← getDev dev
      let cow ← deref device.sdCow
      let object ← deref (kernel.cows cow)
      setDev dev fun device => { device with sdFallocSize := object.cm.fileSize / megabyte }) := by
    apply Maintains.bind .read
    intro kernel
    apply Maintains.bind (Stable.getDev dev)
    intro device
    apply Maintains.bind (Stable.deref _)
    intro cow
    apply Maintains.bind (Stable.deref _)
    intro object
    exact Quiet.stable.sets (by simp)
  have checked : Fate.Kept dev path Unclean false (do
      let onBdev ← fileIsOnBdev path bdev
      when (!onBdev) (.stop (.errno .einval))) :=
    .bind (.bind .read fun _ => .pure _) fun _ => .when (.stop _)
  unfold openCow
  rw [bind_assoc, wp_bind]
  obtain ⟨device, found, idle⟩ := fate.device
  rw [wp_setDev found, bind_assoc, wp_bind]
  let started := kernel.setDev dev { device with sdCacheSize := machine.cacheSize cacheSize }
  have fate' : Fate dev path (fun found => found = some file) false started :=
    ⟨fate.side, _, Kernel.setDev_same _ _ _, { idle with }⟩
  apply wp_mono (cowReload_reaches fate' good size _)
  · intro _ middle ⟨opens, fate⟩
    apply wp_mono (sized.bind (fun _ => checked) middle fate)
    · exact fun _ _ fate => ⟨opens, fate⟩
    · exact fun _ _ fate => .inl ⟨opens, fate⟩
  · exact fun _ _ => id

/-- The way an activation goes once the base device is set up: it ends with a header that is not
clean, or not. -/
theorem verify_reaches {isSnap : Bool} {mountBdev relPath : Nat}
    (based : Based machine kernel bdevPath) (found : kernel.devices dev = some device)
    (fate : Fate dev ⟨mountBdev, relPath⟩ (fun found => found = some file) false kernel)
    (good : Reloadable file isSnap) :
    wp (verify machine dev minor mountBdev relPath isSnap)
      (fun _ => Fate dev ⟨mountBdev, relPath⟩ Unclean false)
      (OnError (Verdict (Reaching machine kernel bdevPath ⟨mountBdev, relPath⟩) dev
        ⟨mountBdev, relPath⟩ file)) (kernel.setDev dev (device.withBase machine bdevPath)) := by
  obtain ⟨device', found', idle⟩ := fate.device
  cases found.symm.trans found'
  have fate' : Fate dev ⟨mountBdev, relPath⟩ (fun found => found = some file) false
      (kernel.setDev dev (device.withBase machine bdevPath)) :=
    ⟨fate.side, _, Kernel.setDev_same _ _ _, { idle with }⟩
  unfold verify
  rw [wp_bind, wp_attempt, Kernel.setDev_faults]
  cases concat : kernel.faults .concatPath with
  | some error =>
      refine fun _ _ => .inr ⟨?_, fate'⟩
      intro reaching
      rw [reaching.concatPath] at concat
      contradiction
  | none =>
      have reaching : Opens kernel ⟨mountBdev, relPath⟩ ↔
          Reaching machine kernel bdevPath ⟨mountBdev, relPath⟩ :=
        ⟨fun opens => ⟨based, concat, opens⟩, Reaching.opens⟩
      have base : (device.withBase machine bdevPath).sdBaseDev = some (machine.bdevAt bdevPath) :=
        rfl
      dsimp only
      rw [wp_bind, wp_getDev (Kernel.setDev_same _ _ _), wp_bind, wp_deref_some base, wp_bind]
      apply wp_mono (tracerSetupCow_reaches fate' good _ _)
      · intro _ after opened
        obtain ⟨opens, fate⟩ := opened
        apply wp_mono (Quiet.stable.activate isSnap after fate)
        · exact fun _ _ => id
        · exact fun _ _ fate _ _ => .inl ⟨reaching.mp opens, fate⟩
      · intro _ after verdict _ _
        unfold Verdict at *
        rw [← reaching]
        exact verdict

/-- What a failed activation does to put the device back. -/
theorem unverify_kept {good : Option CowFile → Prop} {relPath cacheSize : Nat} {isSnap : Bool}
    {error : Cow.Errno} (fate : Fate dev path good false kernel) :
    wp (unverify machine dev minor bdevPath relPath cacheSize isSnap error)
      (fun _ after => good (after.files path)) (fun _ _ => True) kernel := by
  unfold unverify
  rw [wp_bind]
  apply wp_mono (Fate.tracerDestroy kernel fate) _ fun _ _ _ => trivial
  intro _ middle fate
  have fails : ∀ after, Fate dev path good true after →
      wp (tracerSetFailState dev error) (fun _ after => good (after.files path))
        (fun _ _ => True) after := by
    intro after fate
    have sets : Fate.Kept dev path good true (tracerSetFailState dev error) :=
      Quiet.sets fun _ idle => { idle with }
    apply wp_mono (sets after fate) _ fun _ _ _ => trivial
    exact fun _ _ fate => fate.side
  rw [wp_bind, wp_ignoring]
  apply wp_mono (Fate.tracerSetupUnverified bdevPath relPath cacheSize isSnap fate)
  · exact fun _ after => fails after
  · intro reason after fate
    cases reason with
    | errno error => exact fails after fate
    | oops => trivial
    | crash => trivial

theorem Vacated.notTraced {middle : Kernel} (wired : kernel.Wired machine)
    (held : kernel.Holds minor dev device) (unverified : device.unverified = true)
    (vacated : Vacated machine dev device minor kernel middle) :
    middle.NotTraced bdev ↔ kernel.NotTraced bdev := by
  have outside : middle.Outside dev := outside_cleared wired held.1 vacated.table
  constructor
  · intro apart other kept found holds verified
    have differs : kept ≠ dev := by
      intro same
      rw [same] at holds
      cases holds.2.symm.trans held.2
      rw [unverified] at verified
      contradiction
    have away : other ≠ minor := by
      intro same
      rw [same] at holds
      exact differs (Option.some.inj (holds.1.symm.trans held.1))
    apply apart other kept found ⟨?_, ?_⟩ verified
    · rw [vacated.table, Function.update_of_ne away]
      exact holds.1
    · rw [vacated.aside.devices kept differs]
      exact holds.2
  · intro apart other kept found holds verified
    have away : other ≠ minor := by
      intro same
      have slot := holds.1
      rw [same, vacated.table, Function.update_self] at slot
      contradiction
    have differs : kept ≠ dev := by
      intro same
      exact outside other (same ▸ holds.1)
    apply apart other kept found ⟨?_, ?_⟩ verified
    · rw [← Function.update_of_ne away none kernel.snapDevices, ← vacated.table]
      exact holds.1
    · rw [← vacated.aside.devices kept differs]
      exact holds.2

/-- What an activation leaves: a verified device, a file whose header was rewritten, or the file
as it was. -/
inductive Ended (machine : Machine) (kernel : Kernel) (dev : Address) (bdevPath : Nat)
    (path : CowPath) (file : CowFile) (after : Kernel) : Prop
  | verified {device : SnapDevice} : after.devices dev = some device → device.unverified = false →
      Ended machine kernel dev bdevPath path file after
  | rewritten : Reaching machine kernel bdevPath path → Unclean (after.files path) →
      Ended machine kernel dev bdevPath path file after
  | spared : Based machine kernel bdevPath ∨ kernel.faults .strayCowPath = none →
      ¬ Reaching machine kernel bdevPath path → after.files path = some file →
      Ended machine kernel dev bdevPath path file after

theorem tracerUnverifiedToActive_ends {isSnap : Bool} {mountBdev relPath : Nat}
    (wired : kernel.Wired machine) (held : kernel.Holds device.sdMinor dev device)
    (waiting : Unverified device) (named : device.sdBdevPath = some bdevPath)
    (placed : device.sdCowPath = some relPath)
    (stored : kernel.files ⟨mountBdev, relPath⟩ = some file) (good : Reloadable file isSnap) :
    wp (tracerUnverifiedToActive machine dev mountBdev isSnap)
      (fun _ after => Ended machine kernel dev bdevPath ⟨mountBdev, relPath⟩ file after)
      (fun _ _ => True) kernel := by
  unfold tracerUnverifiedToActive
  rw [wp_bind, wp_read, wp_bind, wp_getDev held.2, wp_bind]
  apply wp_mono (tracerDestroyTracing_vacates wired held rfl waiting.sdOrigRequestFn) _
    fun _ _ => False.elim
  intro _ middle vacated
  have outside : middle.Outside dev := outside_cleared wired held.1 vacated.table
  rw [wp_bind, wp_setDev vacated.device, wp_bind, wp_deref_some named, wp_bind,
    wp_deref_some placed]
  let begun : SnapDevice :=
    { device with
      sdMinor := 0, active := true, unverified := false, sdBdevPath := none, sdCowPath := none }
  have fate : Fate dev ⟨mountBdev, relPath⟩ (fun found => found = some file) false
      (middle.setDev dev begun) := by
    refine ⟨?_, begun, Kernel.setDev_same _ _ _, waiting.sdPending, rfl, .inl waiting.sdCow⟩
    exact (congrFun vacated.aside.files _).trans stored
  have traced : middle.NotTraced (machine.bdevAt bdevPath) ↔
      kernel.NotTraced (machine.bdevAt bdevPath) :=
    vacated.notTraced wired held waiting.unverified
  have basis : Based machine (middle.setDev dev begun) bdevPath ↔
      Based machine kernel bdevPath := by
    constructor
    · intro based
      exact based.of_same vacated.aside.faults.symm (traced.mp (based.apart.of_setDev outside))
    · intro based
      exact based.of_same vacated.aside.faults ((traced.mpr based.apart).setDev outside)
  have same : Reaching machine (middle.setDev dev begun) bdevPath ⟨mountBdev, relPath⟩ ↔
      Reaching machine kernel bdevPath ⟨mountBdev, relPath⟩ := by
    constructor
    · intro reaching
      exact reaching.of_same vacated.aside.faults.symm vacated.aside.immutable.symm
        vacated.aside.outcomes.symm (basis.mp reaching.toBased)
    · intro reaching
      exact reaching.of_same vacated.aside.faults vacated.aside.immutable vacated.aside.outcomes
        (basis.mpr reaching.toBased)
  have range : (middle.setDev dev begun).InRange := vacated.wired.range
  rw [wp_bind, wp_returned]
  apply wp_mono (tracerSetupBaseDev_reaches range outside (Kernel.setDev_same _ _ _))
  · intro _ after ready
    obtain ⟨based, here⟩ := ready
    subst here
    dsimp only
    rw [wp_catching]
    apply wp_mono (verify_reaches based (Kernel.setDev_same _ _ _) fate good)
    · intro _ after fate
      obtain ⟨kept, found, idle⟩ := fate.device
      exact .verified found idle.unverified
    · intro reason after stopped
      cases reason with
      | oops => trivial
      | crash => trivial
      | errno error =>
          rcases stopped error rfl with ⟨reaching, fate⟩ | ⟨never, fate⟩
          · apply wp_mono (unverify_kept fate) _ fun _ _ _ => trivial
            exact fun _ _ unclean => .rewritten (same.mp reaching) unclean
          · apply wp_mono (unverify_kept fate) _ fun _ _ _ => trivial
            exact fun _ _ still => .spared (.inl (basis.mp based))
              (fun reaching => never (same.mpr reaching)) still
  · intro reason after stopped
    cases reason with
    | oops => trivial
    | crash => trivial
    | errno error =>
        obtain ⟨unbased, device', changed, here⟩ := stopped error rfl
        obtain ⟨_, _, _, only⟩ := changed
        have fate' : Fate dev ⟨mountBdev, relPath⟩ (fun found => found = some file) false
            after := by
          rw [here, only]
          exact ⟨fate.side, _, Kernel.setDev_same _ _ _, waiting.sdPending, rfl,
            .inl waiting.sdCow⟩
        dsimp only
        rw [wp_bind]
        apply wp_mono (unverify_kept fate') _ fun _ _ _ => trivial
        intro _ _ still
        rw [wp_when]
        split
        · trivial
        · rename_i null
          refine .spared (.inr (by simpa using null)) (fun reaching => ?_) still
          exact unbased (basis.mpr reaching.toBased)

/-- A failed activation keeps the index and a header that a later reload accepts exactly where it
did not get as far as the header. Where the base device could not be set up, it comes back only if
the stack had a null pointer for the path that is freed there. -/
theorem activation_keeps_file_iff {isSnap : Bool} {mountBdev relPath : Nat} {after : Kernel}
    {device' : SnapDevice} (wired : kernel.Wired machine)
    (held : kernel.Holds device.sdMinor dev device) (waiting : Unverified device)
    (named : device.sdBdevPath = some bdevPath) (placed : device.sdCowPath = some relPath)
    (stored : kernel.files ⟨mountBdev, relPath⟩ = some file) (good : Reloadable file isSnap)
    (ran : tracerUnverifiedToActive machine dev mountBdev isSnap kernel = (.ok (), after))
    (found : after.devices dev = some device') (failed : device'.unverified = true) :
    (Based machine kernel bdevPath ∨ kernel.faults .strayCowPath = none) ∧
      ((∃ kept, after.files ⟨mountBdev, relPath⟩ = some kept ∧ kept.words = file.words ∧
        Reloadable kept isSnap) ↔ ¬ Reaching machine kernel bdevPath ⟨mountBdev, relPath⟩) := by
  have ends := tracerUnverifiedToActive_ends wired held waiting named placed stored good
  cases wp_done ends ran with
  | verified found' verified =>
      cases found.symm.trans found'
      rw [failed] at verified
      contradiction
  | rewritten reaching unclean =>
      refine ⟨.inl reaching.toBased, ?_, fun never => absurd reaching never⟩
      intro kept
      obtain ⟨kept, here, _, reloadable⟩ := kept
      have dirty := unclean kept here
      rw [reloadable.header.clean] at dirty
      contradiction
  | spared returns never same => exact ⟨returns, fun _ => never, fun _ => ⟨file, same, rfl, good⟩⟩

/-- One disk driver that traces through `submit_bio`, and devices of 8192 blocks. -/
def Machine.small : Machine where
  build := .submitBio
  freezeSb := false
  blkMqMakeRequest := false
  maxSnapDevices := 24
  cowMaxMemoryDefault := 300 * megabyte
  cowFallocatePercentageDefault := 10
  bdevAt := fun bdevPath => bdevPath
  bdDisk := fun bdev => bdev
  bdevSize := fun _ => 8192 * sectorsPerBlock
  makeRequestFn := fun _ => none
  fops := fun _ => 0
  operations := fun _ => ⟨some 0, 0⟩

/-- A COW file an incremental device was closed with. -/
def closedFile : CowFile :=
  ⟨⟨Cow.cowMagic, Cow.setFlag (Cow.setFlag 0#32 Cow.cowClean) Cow.cowIndexOnly, 17, 0, 1, 0#128, 1, 0⟩,
    fun _ => 0, 17 * Cow.cowBlockSize⟩

/-- An incremental device was registered for the file, and its block device is being mounted. -/
def Machine.awaiting (faults : Step → Option Cow.Errno) : Kernel :=
  let booted := Machine.small.boot (Function.update (fun _ => none) ⟨1, 7⟩ (some closedFile))
  { (ioctlReload .small 0 1 7 0 false booted).2 with
    mounted := Function.update (fun _ => .unmounted) 1 .writable
    faults }

variable {faults : Step → Option Cow.Errno}

theorem Machine.awaiting_wired : (Machine.awaiting faults).Wired .small := by
  let booted := Machine.small.boot (Function.update (fun _ => none) ⟨1, 7⟩ (some closedFile))
  have ran : ioctlReload .small 0 1 7 0 false booted =
      (.ok (), (ioctlReload .small 0 1 7 0 false booted).2) := rfl
  have spec := @ioctlReload_spec .small booted 0 (fun _ => False) False (.boot .small _) 1 7 0 false
  have registered := wp_done spec ran
  exact { registered.wired with }

theorem unverified_of_any {found : Option SnapDevice} (any : found.any (·.unverified) = true) :
    ∃ device, found = some device ∧ device.unverified = true := by
  cases found with
  | none => contradiction
  | some device => exact ⟨device, rfl, any⟩

/-- The path of the file cannot be put together. -/
theorem activation_keeps_file_iff_concatPath :
    let kernel := Machine.awaiting (Function.update (fun _ => none) .concatPath (some .enomem))
    let after := (tracerUnverifiedToActive .small 0 1 false kernel).2
    ∃ kept, after.files ⟨1, 7⟩ = some kept ∧ kept.words = closedFile.words ∧
      Reloadable kept false := by
  intro kernel after
  have ran : tracerUnverifiedToActive .small 0 1 false kernel = (.ok (), after) := rfl
  have failed : (after.devices 0).any (·.unverified) = true := by decide +kernel
  obtain ⟨device', found, unverified⟩ := unverified_of_any failed
  have held : kernel.Holds 0 0 (SnapDevice.zero.registered 0 1 7 0 false) := ⟨rfl, rfl⟩
  have good : Reloadable closedFile false := ⟨by decide, rfl, rfl, rfl⟩
  apply (activation_keeps_file_iff Machine.awaiting_wired held (.registered 0 1 7 0 false) rfl rfl
    rfl good ran found unverified).2.mpr
  intro reaching
  exact absurd reaching.concatPath (by decide)

/-- The COW thread cannot be created: the file is gone, although its header was clean. -/
theorem activation_unlinks_file :
    ∃ kernel after : Kernel, ∃ device device' : SnapDevice, ∃ file : CowFile,
      kernel.Wired .small ∧ kernel.Holds device.sdMinor 0 device ∧ Unverified device ∧
      device.sdBdevPath = some 1 ∧ device.sdCowPath = some 7 ∧
      kernel.files ⟨1, 7⟩ = some file ∧ Reloadable file false ∧
      kernel.faults .cowThread = some .enomem ∧
      tracerUnverifiedToActive .small 0 1 false kernel = (.ok (), after) ∧
      after.devices 0 = some device' ∧ device'.unverified = true ∧
      after.files ⟨1, 7⟩ = none := by
  let kernel := Machine.awaiting (Function.update (fun _ => none) .cowThread (some .enomem))
  let after := (tracerUnverifiedToActive .small 0 1 false kernel).2
  have failed : (after.devices 0).any (·.unverified) = true := by decide +kernel
  have gone : (after.files ⟨1, 7⟩).isNone = true := by decide +kernel
  obtain ⟨device', found, unverified⟩ := unverified_of_any failed
  have good : Reloadable closedFile false := ⟨by decide, rfl, rfl, rfl⟩
  exact ⟨kernel, after, SnapDevice.zero.registered 0 1 7 0 false, device', closedFile,
    Machine.awaiting_wired, ⟨rfl, rfl⟩, .registered 0 1 7 0 false, rfl, rfl, rfl, good, rfl, rfl,
    found, unverified, Option.isNone_iff_eq_none.mp gone⟩

end Moocbt.Driver
