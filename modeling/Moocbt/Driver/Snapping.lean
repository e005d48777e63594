import Moocbt.Cow.Creating
import Moocbt.Driver.Committing

/-! The snapshot device a change of mode sets up: its new COW file, the calls it depends on, and
what is left alone when it is torn down again. -/

namespace Moocbt.Driver

open Cow (Created CowFile CowManager CowState Denied Errno Granted Stop)
open Program

variable {α β : Type} {machine : Machine} {kernel : Kernel} {dev cow : Address}
  {device : SnapDevice} {bdev : Nat} {path : CowPath} {paths : CowPath → Prop}

section file

variable {made : CowState} {size cacheSize fileMax seqid : Nat} {uuid : BitVec 128}
  {unverified : Bool} {side : Side → Prop} {failed : Option Errno}

/-- A device with this fail code and manager. -/
def Holding (failed : Option Errno) (cow held : Option Address) (code : Option Errno) : Prop :=
  held = cow ∧ code = failed

/-- A new manager has its file open. -/
structure Made (mounted : Nat → Mounted) (path : CowPath) (cow : Address) (made : CowState)
    (side : Side) : Prop where
  stored : side.cows cow = some ⟨made.cm, path⟩
  file : side.files path = made.file
  outcomes : side.outcomes = made.outcomes
  mounted : side.mounted = mounted

/-- The device has no manager, and the file at this path is this one. -/
abbrev Closed (failed : Option Errno) (dev : Address) (path : CowPath) (file : Option CowFile) :
    Kernel → Prop :=
  Quiet dev (fun side => side.files path = file) false (Holding failed none)

theorem Quiet.tracerDestroyCow :
    Quiet.Kept dev side unverified (Holding failed none) (tracerDestroyCow dev .free) := by
  apply Maintains.bind (Quiet.stable.sets (by simp))
  intro _
  apply Quiet.seen
  intro device idle
  rw [idle.sdCow.1]
  exact .pure ()

/-- A device that did not fail has nothing to clean up. -/
theorem Quiet.finishes {held : Option Address} :
    Quiet.Kept dev side unverified (Holding none held) (Driver.tracerDestroyCowThread dev) := by
  apply Quiet.tracerDestroyCowThread
  apply Quiet.seen
  intro device idle
  rw [idle.sdCow.2]
  exact .pure ()

/-- The file is unlinked when the manager is freed. -/
theorem tracerDestroyCow_unlinks {mounted : Nat → Mounted} (created : Created made)
    (quiet : Quiet dev (Made mounted path cow made) false (Holding failed (some cow)) kernel) :
    wp (tracerDestroyCow dev .free)
      (fun _ => Closed failed dev path (if Denied made.outcomes then made.file else none))
      (OnError fun _ => False) kernel := by
  obtain ⟨device, found, idle⟩ := quiet.device
  have stored : kernel.cows cow = some ⟨made.cm, path⟩ := quiet.side.stored
  have file : kernel.files path = made.file := quiet.side.file
  have outcomes : kernel.outcomes = made.outcomes := quiet.side.outcomes
  unfold tracerDestroyCow closeCow cowFree
  rw [wp_bind, wp_setDev found, wp_bind, wp_getDev (Kernel.setDev_same _ _ _)]
  dsimp only
  rw [idle.sdCow.1]
  dsimp only
  let zeroed := kernel.setDev dev
    { device with sdFallocSize := 0, sdCacheSize := 0, sdCow := some cow }
  have stored' : zeroed.cows cow = some ⟨made.cm, path⟩ := stored
  have state : (⟨made.cm, zeroed.files path, zeroed.outcomes⟩ : CowState) = made := by
    change (⟨made.cm, kernel.files path, kernel.outcomes⟩ : CowState) = made
    rw [file, outcomes]
  change wp _ _ _ zeroed
  rw [wp_bind, wp_bind, wp_runCow stored', state]
  apply wp_mono (Cow.cowFreeMembers_unlinks created.opened)
  · intro _ after unlinked
    let freed : Kernel :=
      { zeroed.putCow cow ⟨made.cm, path⟩ after with
        cows := Function.update (zeroed.putCow cow ⟨made.cm, path⟩ after).cows cow none }
    have held : freed.devices dev =
        some { device with sdFallocSize := 0, sdCacheSize := 0, sdCow := some cow } :=
      Kernel.setDev_same _ _ _
    unfold kfreeCow
    rw [wp_update]
    change wp (setDev dev _) _ _ freed
    rw [wp_setDev held]
    refine ⟨?_, _, Kernel.setDev_same _ _ _, idle.sdPending, idle.unverified, rfl, idle.sdCow.2⟩
    exact (Function.update_self _ _ _).trans unlinked
  · intro reason after never error same
    exact never error same

/-- What the creation of a COW file does, up to its error path. -/
def Kernel.creation (kernel : Kernel) (path : CowPath) (size cacheSize fileMax : Nat)
    (uuid : BitVec 128) (seqid : Nat) : Except Stop Unit × CowState :=
  Cow.cowCreate (size / sectorsPerBlock) Cow.cowSectionSize cacheSize fileMax uuid seqid
    ⟨CowManager.zero, kernel.files path, kernel.outcomes⟩

/-- The file is opened, and created with that. -/
def Kernel.Creates (kernel : Kernel) (path : CowPath) : Prop :=
  kernel.immutable path = false ∧ Granted 2 kernel.outcomes

instance (kernel : Kernel) (path : CowPath) : Decidable (kernel.Creates path) :=
  inferInstanceAs (Decidable (_ ∧ _))

/-- The file once the device of a failed setup has no manager any more: if it was created it is
unlinked, unless that fails. -/
def Kernel.unwound (kernel : Kernel) (path : CowPath) (left : CowState) : Option CowFile :=
  if kernel.Creates path then
    if Denied left.outcomes then left.file else none
  else kernel.files path

theorem Kernel.unwound_of_free (free : kernel.immutable path = false) (left : CowState) :
    kernel.unwound path left =
      Cow.unwoundFile ⟨CowManager.zero, kernel.files path, kernel.outcomes⟩ left := by
  unfold Kernel.unwound Cow.unwoundFile
  by_cases all : Granted 2 kernel.outcomes
  · rw [if_pos ⟨free, all⟩, if_pos all]
  · rw [if_neg fun creates => all creates.2, if_neg all]

/-- The manager of the device has created its file. -/
structure Opened (failed : Option Errno) (kernel : Kernel) (dev : Address) (path : CowPath)
    (reply : Except Stop Unit × CowState) (cow : Address) (after : Kernel) : Prop where
  creates : kernel.Creates path
  ok : reply.1 = .ok ()
  created : Created reply.2
  quiet : Quiet dev (Made kernel.mounted path cow reply.2) false (Holding failed (some cow)) after

/-- It has not, and is gone. -/
structure Unopened (failed : Option Errno) (kernel : Kernel) (dev : Address) (path : CowPath)
    (reply : Except Stop Unit × CowState) (after : Kernel) : Prop where
  why : kernel.immutable path = true ∨ reply.1 ≠ .ok ()
  created : kernel.Creates path → Created reply.2
  closed : Closed failed dev path (kernel.unwound path reply.2) after

/-- A new manager creates its file. -/
theorem cowInit_creates (found : kernel.devices dev = some device)
    (idle : Idle false (Holding failed none) device) :
    wp (cowInit dev path size cacheSize fileMax uuid seqid)
      (fun _ => Opened failed kernel dev path
        (kernel.creation path size cacheSize fileMax uuid seqid) kernel.fresh)
      (OnError (Unopened failed kernel dev path
        (kernel.creation path size cacheSize fileMax uuid seqid))) kernel := by
  let begun := kernel.withCow path (some dev)
  have stored : begun.cows kernel.fresh = some ⟨CowManager.zero, path⟩ :=
    kernel.withCow_stored path (some dev)
  have closed : ∀ after : CowState, Closed failed dev path after.file
      (begun.putCow kernel.fresh ⟨CowManager.zero, path⟩ after) :=
    fun after => ⟨Function.update_self _ _ _, device, found, idle⟩
  -- A manager that could not be set up is freed.
  have cleans : ∀ file {left : Kernel → Prop} {error middle}, Closed failed dev path file middle →
      (∀ after, Closed failed dev path file after → left after) →
      wp (do
          kfreeCow kernel.fresh
          setDev dev fun device => { device with sdCow := none })
        (fun _ => OnError left (.errno error)) (OnError left) middle := by
    intro file left error middle quiet holds
    have keeps : Maintains (Closed failed dev path file) (do
        kfreeCow kernel.fresh
        setDev dev fun device => { device with sdCow := none }) := by
      apply Maintains.bind (.update fun _ quiet => ⟨quiet.side, quiet.device⟩)
      exact fun _ => Quiet.sets fun _ idle => { idle with sdCow := ⟨rfl, idle.sdCow.2⟩ }
    apply wp_mono (keeps middle quiet)
    · exact fun _ after quiet _ _ => holds after quiet
    · exact fun _ after quiet _ _ => holds after quiet
  unfold cowInit
  rw [wp_newCow]
  change wp _ _ _ begun
  rw [wp_bind, wp_unwinding, wp_opening]
  split
  · rename_i busy
    have never : ¬ kernel.Creates path := fun creates =>
      absurd (busy.symm.trans creates.1) (by decide)
    rw [wp_runCow stored]
    apply wp_mono refusedCow_spec
    · exact fun _ _ => False.elim
    · intro reason after ⟨same, _⟩
      cases reason with
      | oops => exact OnError.oops _
      | crash => exact OnError.crash _
      | errno error =>
          apply cleans after.file (closed after)
          intro last quiet
          refine ⟨.inl busy, fun creates => absurd creates never, ?_⟩
          rw [Kernel.unwound, if_neg never]
          rw [same] at quiet
          exact quiet
  · rename_i unused
    have free : kernel.immutable path = false := Bool.eq_false_iff.mpr unused
    have creates : kernel.Creates path ↔ Granted 2 kernel.outcomes :=
      ⟨And.right, fun all => ⟨free, all⟩⟩
    rw [wp_runCow stored]
    apply wp_mono (Cow.cowInit_unwinds _ _ _ _ _ _)
    · intro _ after ⟨same, all, created⟩
      have reply : kernel.creation path size cacheSize fileMax uuid seqid = (.ok (), after) := same
      have held : (begun.putCow kernel.fresh ⟨CowManager.zero, path⟩ after).devices dev =
        some device := found
      rw [wp_setDev held, reply]
      have made : Made kernel.mounted path kernel.fresh after
          (begun.putCow kernel.fresh ⟨CowManager.zero, path⟩ after).side :=
        ⟨Function.update_self _ _ _, Function.update_self _ _ _, rfl, rfl⟩
      exact ⟨creates.mpr all, rfl, created, made, _, Kernel.setDev_same _ _ _,
        { idle with sdCow := ⟨rfl, idle.sdCow.2⟩ }⟩
    · intro reason after unwinds
      cases reason with
      | oops => exact OnError.oops _
      | crash => exact OnError.crash _
      | errno error =>
          obtain ⟨left, same, unlinked, created⟩ := unwinds error rfl
          have reply : kernel.creation path size cacheSize fileMax uuid seqid =
            (.error (.errno error), left) := same
          apply cleans after.file (closed after)
          intro last quiet
          rw [reply]
          refine ⟨.inr (by simp), fun yes => created (creates.mp yes), ?_⟩
          rw [unlinked] at quiet
          rw [kernel.unwound_of_free free]
          exact quiet

/-- The COW file can be created, and lies on the block device. -/
structure Kernel.Hosts (kernel : Kernel) (bdev : Nat) (path : CowPath)
    (reply : Except Stop Unit × CowState) : Prop where
  free : kernel.immutable path = false
  ok : reply.1 = .ok ()
  mounted : kernel.mounted bdev ≠ .unmounted
  here : path.bdev = bdev

/-- `__tracer_setup_cow` gives up. -/
structure GivesUp (failed : Option Errno) (kernel : Kernel) (dev : Address) (bdev : Nat)
    (path : CowPath) (reply : Except Stop Unit × CowState) (after : Kernel) : Prop where
  why : ¬ kernel.Hosts bdev path reply
  created : kernel.Creates path → Created reply.2
  closed : Closed failed dev path (kernel.unwound path reply.2) after

theorem tracerSetupCow_creates (found : kernel.devices dev = some device)
    (idle : Idle false (Holding failed none) device) (fallocatedSpace : Nat) :
    wp (tracerSetupCow machine dev bdev path (.new size fallocatedSpace cacheSize uuid seqid))
      (fun _ after =>
        let reply := kernel.creation path size (machine.cacheSize cacheSize)
          (machine.maxFileSize size fallocatedSpace) uuid seqid
        kernel.Hosts bdev path reply ∧ Opened failed kernel dev path reply kernel.fresh after)
      (OnError (GivesUp failed kernel dev bdev path
        (kernel.creation path size (machine.cacheSize cacheSize)
          (machine.maxFileSize size fallocatedSpace) uuid seqid))) kernel := by
  let started := kernel.setDev dev
    { device with
      sdCacheSize := machine.cacheSize cacheSize
      sdFallocSize := if fallocatedSpace = 0 then
        machine.maxFileSize size fallocatedSpace / megabyte else fallocatedSpace }
  have creates := @cowInit_creates started dev _ path size (machine.cacheSize cacheSize)
    (machine.maxFileSize size fallocatedSpace) seqid uuid failed (Kernel.setDev_same _ _ _)
    { idle with }
  have same : started.creation path size (machine.cacheSize cacheSize)
      (machine.maxFileSize size fallocatedSpace) uuid seqid =
    kernel.creation path size (machine.cacheSize cacheSize)
      (machine.maxFileSize size fallocatedSpace) uuid seqid := rfl
  rw [same] at creates
  generalize kernel.creation path size (machine.cacheSize cacheSize)
    (machine.maxFileSize size fallocatedSpace) uuid seqid = reply at creates ⊢
  -- The error path frees what is left.
  have cleans : ∀ {error : Errno} {middle : Kernel}, ¬ kernel.Hosts bdev path reply →
      (kernel.Creates path → Created reply.2) →
      Closed failed dev path (kernel.unwound path reply.2) middle →
      wp (tracerDestroyCow dev .free)
        (fun _ => OnError (GivesUp failed kernel dev bdev path reply) (.errno error))
        (OnError (GivesUp failed kernel dev bdev path reply)) middle := by
    intro error middle why created closed
    apply wp_mono (Quiet.tracerDestroyCow middle closed)
    · exact fun _ _ closed _ _ => ⟨why, created, closed⟩
    · exact fun _ _ closed _ _ => ⟨why, created, closed⟩
  unfold tracerSetupCow openCow
  rw [wp_unwinding]
  dsimp only
  rw [wp_bind, wp_bind, wp_setDev found]
  apply wp_mono creates
  · intro _ middle opened
    have mounted : middle.mounted = kernel.mounted := opened.quiet.side.mounted
    have opened' : Opened failed kernel dev path reply kernel.fresh middle :=
      ⟨opened.creates, opened.ok, opened.created, opened.quiet⟩
    unfold fileIsOnBdev
    rw [wp_bind, wp_bind, wp_read, wp_pure, wp_when, mounted]
    by_cases here : kernel.mounted bdev ≠ .unmounted ∧ path.bdev = bdev
    · rw [if_neg (by simp [here.1, here.2])]
      exact ⟨⟨opened.creates.1, opened.ok, here.1, here.2⟩, opened'⟩
    · rw [not_and_or] at here
      rw [if_pos (by simpa using here), wp_stop]
      dsimp only
      have why : ¬ kernel.Hosts bdev path reply := fun hosts =>
        here.elim (absurd hosts.mounted) (absurd hosts.here)
      have unwound : kernel.unwound path reply.2 =
          if Denied reply.2.outcomes then reply.2.file else none := if_pos opened.creates
      apply wp_mono (tracerDestroyCow_unlinks opened.created opened'.quiet)
      · intro _ after closed _ _
        rw [← unwound] at closed
        exact ⟨why, fun _ => opened.created, closed⟩
      · exact fun _ _ never error same => (never error same).elim
  · intro reason middle failed
    cases reason with
    | oops => exact OnError.oops _
    | crash => exact OnError.crash _
    | errno error =>
        obtain ⟨why, created, closed⟩ := failed error rfl
        apply cleans _ created closed
        intro hosts
        rcases why with busy | bad
        · exact absurd (hosts.free.symm.trans busy) (by decide)
        · exact bad hosts.ok

end file

section steps

/-- None of these calls fails. -/
def Kernel.Fine (kernel : Kernel) (steps : List Step) : Prop :=
  ∀ step ∈ steps, kernel.faults step = none

/-- A program that returns an error code exactly where one of these calls fails. -/
def Tries (steps : List Step) (program : KernelM α) : Prop :=
  ∀ kernel : Kernel, wp program (fun _ after => after.faults = kernel.faults ∧ kernel.Fine steps)
    (OnError fun _ => ¬ kernel.Fine steps) kernel

theorem Tries.pure (value : α) : Tries [] (Pure.pure value : KernelM α) :=
  fun _ => ⟨rfl, fun _ member => absurd member List.not_mem_nil⟩

theorem Tries.bind {steps more : List Step} {program : KernelM α} {next : α → KernelM β}
    (first : Tries steps program) (second : ∀ value, Tries more (next value)) :
    Tries (steps ++ more) (program >>= next) := by
  intro kernel
  rw [wp_bind]
  apply wp_mono (first kernel)
  · intro value middle ⟨faults, fine⟩
    have same : ∀ steps, middle.Fine steps ↔ kernel.Fine steps := by
      intro steps
      unfold Kernel.Fine
      rw [faults]
    apply wp_mono (second value middle)
    · intro _ after ⟨faults', fine'⟩
      refine ⟨faults'.trans faults, ?_⟩
      intro step member
      rcases List.mem_append.mp member with here | there
      · exact fine step here
      · exact (same more).mp fine' step there
    · intro reason _ failed error stop all
      apply failed error stop
      rw [same]
      exact fun step member => all step (List.mem_append_right _ member)
  · intro reason _ failed error stop all
    exact failed error stop fun step member => all step (List.mem_append_left _ member)

theorem Tries.attempt (step : Step) : Tries [step] (Driver.attempt step) := by
  intro kernel
  rw [wp_attempt]
  cases fault : kernel.faults step with
  | none =>
      refine ⟨rfl, ?_⟩
      intro other member
      rw [List.mem_singleton.mp member]
      exact fault
  | some error =>
      intro _ _ fine
      have none := fine step List.mem_cons_self
      rw [fault] at none
      contradiction

theorem Tries.read : Tries [] (Program.read : KernelM Kernel) :=
  fun _ => ⟨rfl, fun _ member => absurd member List.not_mem_nil⟩

theorem Tries.oops : Tries [] (Program.stop .oops : KernelM α) := by
  intro kernel
  rw [wp_stop]
  exact OnError.oops _

theorem Tries.deref (pointer : Option α) : Tries [] (Driver.deref pointer) := by
  cases pointer with
  | none => exact .oops
  | some value => exact .pure value

theorem Tries.getDev (dev : Address) : Tries [] (Driver.getDev dev) := by
  apply Tries.bind .read
  intro kernel
  cases kernel.devices dev with
  | none => exact .oops
  | some device => exact .pure device

theorem Tries.setDev (dev : Address) (change : SnapDevice → SnapDevice) :
    Tries [] (Driver.setDev dev change) := by
  apply Tries.bind (getDev dev)
  intro device
  exact fun _ => ⟨rfl, fun _ member => absurd member List.not_mem_nil⟩

theorem Tries.unwinding {steps : List Step} {program : KernelM α} {cleanup : Errno → KernelM Unit}
    (inner : Tries steps program) : Tries steps (Driver.unwinding program cleanup) := by
  intro kernel
  rw [wp_unwinding]
  apply wp_mono (inner kernel)
  · exact fun _ _ => id
  · intro reason middle failed
    cases reason with
    | oops => exact OnError.oops _
    | crash => exact OnError.crash _
    | errno error =>
        apply wp_mono (wp_true _ _)
        · exact fun _ _ _ _ _ => failed error rfl
        · exact fun _ _ _ _ _ => failed error rfl

/-- `tracer_active_inc_to_snap` between the manager of the new device and its tracing. -/
def prepareSnap (dev : Address) (orig : Option RequestFn) : KernelM Unit := do
  tracerSetupCowPath dev
  tracerSetupSnap dev
  tracerSetupCowThread .cowThread dev
  setDev dev fun device => { device with sdOrigRequestFn := orig }

/-- The calls it makes. -/
def snapSteps : List Step :=
  [.cowPath, .bioset, .allocDisk, .allocQueue, .mrfThread, .addDisk, .cowThread]

theorem prepareSnap_tries (orig : Option RequestFn) : Tries snapSteps (prepareSnap dev orig) := by
  have path : Tries [.cowPath] (tracerSetupCowPath dev) := by
    apply @Tries.bind _ _ [] _ _ _ .read
    intro kernel
    apply @Tries.bind _ _ [] _ _ _ (.getDev dev)
    intro device
    apply @Tries.bind _ _ [] _ _ _ (.deref _)
    intro cow
    apply @Tries.bind _ _ [] _ _ _ (.deref _)
    intro object
    exact @Tries.bind _ _ [.cowPath] [] _ _ (.unwinding (.attempt _)) fun _ => .setDev dev _
  have snap : Tries [.bioset, .allocDisk, .allocQueue, .mrfThread, .addDisk]
      (tracerSetupSnap dev) := by
    apply Tries.unwinding
    apply @Tries.bind _ _ [.bioset] _ _ _ (.attempt _)
    intro _
    apply @Tries.bind _ _ [.allocDisk] _ _ _ (.attempt _)
    intro _
    apply @Tries.bind _ _ [] _ _ _ (.setDev dev _)
    intro _
    apply @Tries.bind _ _ [.allocQueue] _ _ _ (.attempt _)
    intro _
    apply @Tries.bind _ _ [.mrfThread] _ _ _ (.attempt _)
    intro _
    exact @Tries.bind _ _ [] _ _ _ (.setDev dev _) fun _ => .attempt _
  apply @Tries.bind _ _ [.cowPath] _ _ _ path
  intro _
  apply @Tries.bind _ _ [.bioset, .allocDisk, .allocQueue, .mrfThread, .addDisk] _ _ _ snap
  intro _
  apply @Tries.bind _ _ [.cowThread] [] _ _
  · exact @Tries.bind _ _ [.cowThread] [] _ _ (.attempt _) fun _ => .setDev dev _
  · exact fun _ => .setDev dev _

theorem prepareSnap_concerns (orig : Option RequestFn) :
    Concerns dev paths device (prepareSnap dev orig)
      (fun _ after => after.sdBaseDev = device.sdBaseDev ∧
        after.sdTracingOps = device.sdTracingOps) (fun _ _ => True) := by
  apply Concerns.bind (tracerSetupCowPath_concerns.mono (fun _ _ => id) fun _ _ _ => trivial)
  intro _ middle named
  obtain ⟨relPath, same⟩ := named
  subst middle
  apply Concerns.bind (tracerSetupSnap_concerns.mono (fun _ _ => id) fun _ _ _ => trivial)
  intro _ middle same
  subst middle
  apply Concerns.bind
    ((tracerSetupCowThread_concerns .cowThread).mono (fun _ _ => id) fun _ _ _ => trivial)
  intro _ middle same
  subst middle
  exact .setDev (.inl rfl) ⟨rfl, rfl⟩

theorem prepareSnap_quiet {side : Side → Prop} {unverified : Bool}
    {cows : Option Address → Option Errno → Prop} (orig : Option RequestFn) :
    Quiet.Kept dev side unverified cows (prepareSnap dev orig) := by
  apply Maintains.bind Quiet.stable.tracerSetupCowPath
  intro _
  apply Maintains.bind Quiet.stable.tracerSetupSnap
  intro _
  exact .bind (Quiet.stable.tracerSetupCowThread _) fun _ => Quiet.stable.sets (by simp)

end steps

section frame

/-- A manager whose file is in use changes nothing but its device. -/
theorem newCow_refused (busy : kernel.immutable path = true)
    (found : kernel.devices dev = some device) (owner : Option Address) (opened : Cow.CowM Unit) :
    wp (newCow dev path owner refusedCow opened) (fun _ _ => False)
      (OnError (Local dev paths kernel fun after => after = device.withoutCow)) kernel := by
  let begun := kernel.withCow path owner
  have stored : begun.cows kernel.fresh = some ⟨CowManager.zero, path⟩ :=
    kernel.withCow_stored path owner
  have busy' : begun.immutable path = true := busy
  rw [wp_newCow]
  change wp _ _ _ begun
  rw [wp_bind, wp_unwinding, wp_opening, if_pos busy', wp_runCow stored]
  apply wp_mono refusedCow_spec
  · exact fun _ _ => False.elim
  · intro reason after ⟨same, closed⟩
    cases reason with
    | oops => exact OnError.oops _
    | crash => exact OnError.crash _
    | errno error =>
        let ran := begun.putCow kernel.fresh ⟨CowManager.zero, path⟩ after
        let freed : Kernel := { ran with cows := Function.update ran.cows kernel.fresh none }
        have away : ∀ other, other ≠ kernel.fresh → freed.cows other = kernel.cows other := by
          intro other differs
          exact (Function.update_of_ne differs _ _).trans
            ((Function.update_of_ne differs _ _).trans (Function.update_of_ne differs _ _))
        have elsewhere : Elsewhere dev paths kernel freed :=
          { Elsewhere.refl dev paths kernel with
            fresh := Nat.le_succ _
            cows := fun other object below kept _ => (away other (Nat.ne_of_lt below)).trans kept
            objects := by
              intro other object kept
              by_cases new : other = kernel.fresh
              · subst new
                exact absurd ((Function.update_self _ _ _).symm.trans kept) (by simp)
              · exact .inr ((away other new).symm.trans kept)
            cowDev := fun other below => Function.update_of_ne (Nat.ne_of_lt below) _ _
            files := by
              intro other _
              change Function.update kernel.files path after.file other = _
              rw [same]
              change Function.update kernel.files path (kernel.files path) other = _
              rw [Function.update_eq_self]
            immutable := by
              intro other _
              change Function.update kernel.immutable path
                (decide (after.cm.dfilp = .opened) || (kernel.immutable path && true)) other = _
              have flag : (decide (after.cm.dfilp = .opened) || (kernel.immutable path && true)) =
                  kernel.immutable path := by simp [closed error rfl]
              rw [flag, Function.update_eq_self] }
        have held : freed.devices dev = some device := found
        unfold kfreeCow
        dsimp only
        rw [wp_bind, wp_update]
        change wp (setDev dev _) _ _ freed
        rw [wp_setDev held]
        intro _ _
        apply Local.mk (elsewhere.trans (.setDev dev paths _ _))
        refine ⟨_, Kernel.setDev_same _ _ _, ?_, rfl⟩
        intro cow object has _
        cases has

/-- Only the device, its new manager and the new file are concerned, and without a new file no
file is. -/
theorem tracerSetupCow_local (guarded : kernel.immutable path = false → paths path)
    (found : kernel.devices dev = some device) (owns : Owns paths kernel device)
    (size fallocatedSpace cacheSize seqid : Nat) (uuid : BitVec 128) :
    wp (tracerSetupCow machine dev bdev path (.new size fallocatedSpace cacheSize uuid seqid))
      (fun _ => Local dev paths kernel (OnlyCow device))
      (OnError (Local dev paths kernel (OnlyCow device))) kernel := by
  cases busy : kernel.immutable path with
  | false =>
      apply wp_mono (tracerSetupCow_concerns (guarded busy) bdev _ kernel found owns)
      · exact fun _ _ here => here.weaken fun _ => OpenMethod.Opened.onlyCow
      · exact fun _ _ here _ _ => here
  | true =>
      let sized : SnapDevice :=
        { device with
          sdCacheSize := machine.cacheSize cacheSize
          sdFallocSize := if fallocatedSpace = 0 then
            machine.maxFileSize size fallocatedSpace / megabyte else fallocatedSpace }
      have begun : Local dev paths kernel (fun after => after = sized) (kernel.setDev dev sized) :=
        .setDev owns (.inl rfl) rfl
      have refused := @newCow_refused (kernel.setDev dev sized) dev sized path paths busy
        (Kernel.setDev_same _ _ _) (some dev) (Cow.cowInit (size / sectorsPerBlock)
          Cow.cowSectionSize (machine.cacheSize cacheSize)
          (machine.maxFileSize size fallocatedSpace) uuid seqid)
      unfold tracerSetupCow openCow cowInit
      rw [wp_unwinding]
      dsimp only
      rw [wp_bind, wp_bind, wp_setDev found]
      apply wp_mono refused
      · exact fun _ _ => False.elim
      · intro reason middle failed
        cases reason with
        | oops => exact OnError.oops _
        | crash => exact OnError.crash _
        | errno error =>
            have here := failed error rfl
            have elsewhere := begun.elsewhere.trans here.elsewhere
            obtain ⟨_, found', owns', same⟩ := here.device
            subst same
            dsimp only
            apply wp_mono (tracerDestroyCow_concerns .free middle found' owns')
            · intro _ after there _ _
              refine ⟨elsewhere.trans there.elsewhere, ?_⟩
              obtain ⟨last, held, owned, same⟩ := there.device
              subst same
              exact ⟨_, held, owned, _, _, _, rfl⟩
            · intro _ after there _ _
              refine ⟨elsewhere.trans there.elsewhere, ?_⟩
              obtain ⟨last, held, owned, sdCow, same⟩ := there.device
              subst same
              exact ⟨_, held, owned, _, _, _, rfl⟩

/-- The error path of `tracer_active_inc_to_snap`. -/
def unwindSnap (dev : Address) : KernelM Unit := do
  tracerDestroyCowThread dev
  tracerDestroySnap dev
  tracerDestroyCowPath dev
  tracerDestroyCow dev .free
  kfreeDev dev

/-- Nothing but a device, the managers and files of these paths, and copies of operations. -/
structure Backed (dev : Address) (paths : CowPath → Prop) (before after : Kernel) : Prop where
  apart : Apart dev paths before after
  table : after.snapDevices = before.snapDevices
  lowest : after.lowestMinor = before.lowestMinor
  highest : after.highestMinor = before.highestMinor

theorem Elsewhere.backed {before after : Kernel} (elsewhere : Elsewhere dev paths before after) :
    Backed dev paths before after :=
  ⟨elsewhere.toApart, elsewhere.table, elsewhere.lowest, elsewhere.highest⟩

theorem Backed.trans {before middle after : Kernel} (left : Backed dev paths before middle)
    (right : Backed dev paths middle after) : Backed dev paths before after :=
  ⟨left.apart.trans right.apart, right.table.trans left.table, right.lowest.trans left.lowest,
    right.highest.trans left.highest⟩

theorem unwindSnap_backed (found : kernel.devices dev = some device)
    (owns : Owns paths kernel device) :
    wp (unwindSnap dev)
      (fun _ after => Backed dev paths kernel after ∧ after.tracingOps = kernel.tracingOps)
      (fun _ after => Backed dev paths kernel after ∧ after.tracingOps = kernel.tracingOps)
      kernel := by
  have tears : Concerns dev paths device (do
      tracerDestroyCowThread dev
      tracerDestroySnap dev
      tracerDestroyCowPath dev
      tracerDestroyCow dev .free) (fun _ _ => True) (fun _ _ => True) := by
    apply Concerns.bind (tracerDestroyCowThread_concerns.mono (fun _ _ => id) fun _ _ _ => trivial)
    intro _ middle _
    apply Concerns.setThen (.inl rfl)
    apply Concerns.setThen (.inl rfl)
    exact (tracerDestroyCow_concerns .free).mono (fun _ _ _ => trivial) fun _ _ _ => trivial
  have parts : unwindSnap dev = (do
      tracerDestroyCowThread dev
      tracerDestroySnap dev
      tracerDestroyCowPath dev
      tracerDestroyCow dev .free) >>= fun _ => kfreeDev dev := by
    simp only [unwindSnap, bind_assoc]
  rw [parts, wp_bind]
  apply wp_mono (tears kernel found owns)
  · intro _ middle here
    let freed : Kernel := { middle with devices := Function.update middle.devices dev none }
    have frees : Elsewhere dev paths middle freed :=
      { Elsewhere.refl dev paths middle with
        devices := fun other away => Function.update_of_ne away _ _ }
    have elsewhere : Elsewhere dev paths kernel freed := here.elsewhere.trans frees
    exact ⟨elsewhere.backed, elsewhere.tracingOps⟩
  · exact fun _ _ here => ⟨here.elsewhere.backed, here.elsewhere.tracingOps⟩

theorem unwindSnap_silent : Silent (unwindSnap dev) := by
  apply Silent.bind tracerDestroyCowThread_silent
  intro _
  apply Silent.bind (.setDev _ _)
  intro _
  apply Silent.bind (.setDev _ _)
  intro _
  exact .bind tracerDestroyCow_silent fun _ => .update _

/-- The file of a device that was set up is unlinked with it. -/
theorem unwindSnap_unlinks {mounted : Nat → Mounted} {made : CowState} (created : Created made)
    (quiet : Quiet dev (Made mounted path cow made) false (Holding none (some cow)) kernel) :
    wp (unwindSnap dev)
      (fun _ after => after.files path = if Denied made.outcomes then made.file else none)
      (fun _ _ => True) kernel := by
  have tears : Quiet.Kept dev (Made mounted path cow made) false (Holding none (some cow)) (do
      tracerDestroyCowThread dev
      tracerDestroySnap dev
      tracerDestroyCowPath dev) := by
    apply Maintains.bind Quiet.finishes
    intro _
    exact .bind (Quiet.stable.sets (by simp)) fun _ => Quiet.stable.sets (by simp)
  have parts : unwindSnap dev = (do
      tracerDestroyCowThread dev
      tracerDestroySnap dev
      tracerDestroyCowPath dev) >>= fun _ =>
        tracerDestroyCow dev .free >>= fun _ => kfreeDev dev := by
    simp only [unwindSnap, bind_assoc]
  rw [parts, wp_bind]
  apply wp_mono (tears kernel quiet) _ fun _ _ _ => trivial
  intro _ middle quiet
  rw [wp_bind]
  apply wp_mono (tracerDestroyCow_unlinks created quiet) _ fun _ _ _ => trivial
  exact fun _ _ closed => closed.side

/-- One that was not set up has no file. -/
theorem unwindSnap_closed {file : Option CowFile} (closed : Closed none dev path file kernel) :
    wp (unwindSnap dev) (fun _ after => after.files path = file) (fun _ _ => True) kernel := by
  have tears : Maintains (Closed none dev path file) (do
      tracerDestroyCowThread dev
      tracerDestroySnap dev
      tracerDestroyCowPath dev
      tracerDestroyCow dev .free) := by
    apply Maintains.bind Quiet.finishes
    intro _
    apply Maintains.bind (Quiet.stable.sets (by simp))
    intro _
    exact .bind (Quiet.stable.sets (by simp)) fun _ => Quiet.tracerDestroyCow
  have parts : unwindSnap dev = (do
      tracerDestroyCowThread dev
      tracerDestroySnap dev
      tracerDestroyCowPath dev
      tracerDestroyCow dev .free) >>= fun _ => kfreeDev dev := by
    simp only [unwindSnap, bind_assoc]
  rw [parts, wp_bind]
  apply wp_mono (tears kernel closed) _ fun _ _ _ => trivial
  exact fun _ _ closed => closed.side

end frame

end Moocbt.Driver
