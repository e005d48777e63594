import Moocbt.Device.Tracing

/-! When the thread of a snapshot ends: what is left in its queue, and what the index has
when it changes hands. -/

namespace Moocbt.Device

open Cow Program WriteOnce

variable {wiring : Wiring} {device device' next : SnapDevice} {front after : Front}
  {elements : Nat} {content : Nat → Option (Nat → Nat)} {site : Site} {event : SiteEvent}

/-- What holds of the counters and of the loop test of the thread in every run. -/
structure Draining (site : Site) (device : SnapDevice) : Prop where
  submitted : device.submitted = site.front.submitted
  received : device.received = site.front.received
  counted : site.front.received + site.front.weight ≤ site.front.submitted
  stops : device.pc.Stopping → device.worker.shouldStop = true
  window : device.pc.Window → device.received = device.submitted → device.bios = []
  reads : ∀ {submitted}, device.pc = .testReceived submitted → submitted = device.submitted
  exited : device.Well → device.pc = .exited → site.front.weight = 0 ∧
    ∀ bio, .write bio ∉ device.bios

/-- What the tracing side tells the device in an event. -/
def SiteEvent.told (wiring : Wiring) (site : Site) (event : SiteEvent) : Option SnapEvent :=
  (event.inner site).bind (site.front.told wiring)

def SiteEvent.submits (wiring : Wiring) (site : Site) (event : SiteEvent) : Bool :=
  match event.told wiring site with
  | some .submit => true
  | _ => false

def SiteEvent.receives (wiring : Wiring) (site : Site) (event : SiteEvent) : Bool :=
  match event.told wiring site with
  | some .receive => true
  | _ => false

def SiteEvent.isRead : SiteEvent → Bool
  | .read _ => true
  | _ => false

/-- Nothing failed, and no clone is submitted once the thread was told to stop. -/
def SiteEvent.Calm (wiring : Wiring) (site : Site) (event : SiteEvent) : Prop :=
  match site.tracer with
  | .inc _ => True
  | .snap device => device.worker.failCode = none ∧
      (event.submits wiring site = true → device.worker.shouldStop = false)

/-- Between its look at the queue and its look at the second counter the thread is not
overtaken: the last clone is not counted then while the queue holds something, and no read
of the snapshot arrives while no clone is missing. -/
def SiteEvent.Fenced (wiring : Wiring) (site : Site) (event : SiteEvent) : Prop :=
  match site.tracer with
  | .inc _ => True
  | .snap device =>
      match device.pc with
      | .testSubmitted | .testReceived _ =>
          (event.receives wiring site = true → device.received + 1 = device.submitted →
            device.bios.isEmpty = true) ∧
          (event.isRead = true → device.received ≠ device.submitted)
      | _ => True
theorem calm_snap (snapshot : site.tracer = .snap device) (calm : event.Calm wiring site) :
    device.worker.failCode = none ∧
      (event.submits wiring site = true → device.worker.shouldStop = false) := by
  unfold SiteEvent.Calm at calm
  rw [snapshot] at calm
  exact calm

theorem fenced_snap (snapshot : site.tracer = .snap device) (fenced : event.Fenced wiring site)
    (window : device.pc.Window) :
    (event.receives wiring site = true → device.received + 1 = device.submitted →
      device.bios = []) ∧ (event.isRead = true → device.received ≠ device.submitted) := by
  unfold SiteEvent.Fenced at fenced
  rw [snapshot] at fenced
  simp only at fenced
  split at fenced
  · exact ⟨fun receives last => List.isEmpty_iff.mp (fenced.1 receives last), fenced.2⟩
  · exact ⟨fun receives last => List.isEmpty_iff.mp (fenced.1 receives last), fenced.2⟩
  · rename_i first second
    cases here : device.pc with
    | testSubmitted => exact absurd here first
    | testReceived submitted => exact absurd here (second submitted)
    | _ =>
        rw [here] at window
        contradiction

theorem told_of_inner {inner : FrontEvent} {told : SnapEvent}
    (chosen : event.inner site = some inner) (tells : site.front.told wiring inner = some told) :
    event.told wiring site = some told := by
  unfold SiteEvent.told
  rw [chosen]
  exact tells

theorem Draining.advance (inv : Draining site device) (advances : Advances device device')
    {tracer : Tracer} : Draining { site with tracer } device' where
  submitted := advances.submitted.trans inv.submitted
  received := advances.received.trans inv.received
  counted := inv.counted
  stops := advances.stops inv.stops
  window := by
    intro inside equal
    rw [advances.received, advances.submitted] at equal
    rcases advances.window inside with ⟨before, same⟩ | empty
    · exact same.trans (inv.window before equal)
    · exact empty
  reads := fun here => by
    rw [advances.submitted]
    exact (advances.reads here).elim inv.reads id
  exited := by
    intro well here
    rcases advances.exits (advances.well well) here with ⟨exited, same⟩ | ⟨tested, same⟩
    · rw [same]
      exact inv.exited (advances.well well) exited
    · have same : device'.bios = device.bios := by rw [same]
      rw [same]
      have equal := inv.reads tested
      have empty := inv.window (by rw [tested]; trivial) equal
      have counted := inv.counted
      rw [← inv.received, ← inv.submitted] at counted
      refine ⟨?_, fun bio member => ?_⟩
      · change site.front.weight = 0
        omega
      · rw [empty] at member
        contradiction

/-- The tracing side makes a step that it does not tell the device of. -/
theorem Draining.silent {inner : FrontEvent} (inv : Draining site device)
    (stepped : site.front.Stepped wiring inner after)
    (untold : site.front.told wiring inner = none) :
    Draining { site with front := after } device := by
  have told := stepped.told
  have balanced := stepped.balanced.clones
  have counted := inv.counted
  rw [untold] at told
  cases told with
  | nothing submitted received =>
      exact { inv with
        submitted := inv.submitted.trans submitted.symm
        received := inv.received.trans received.symm
        counted := by
          change after.received + after.weight ≤ after.submitted
          omega
        exited := by
          intro well here
          have light := inv.exited well here
          refine ⟨?_, light.2⟩
          change after.weight = 0
          omega }

/-- The tracing side tells the device something. -/
theorem Draining.tells {inner : FrontEvent} {told : SnapEvent} (inv : Draining site device)
    (snapshot : site.tracer = .snap device) (calm : event.Calm wiring site)
    (fenced : event.Fenced wiring site) (chosen : event.inner site = some inner)
    (stepped : site.front.Stepped wiring inner after)
    (tells : site.front.told wiring inner = some told) (taken : device.step told = some device') :
    Draining { site with front := after, tracer := .snap device' } device' := by
  have running := step_told taken
  have balanced := stepped.balanced.clones
  have counted := inv.counted
  have chosen := told_of_inner chosen tells
  have moved := stepped.told
  rw [tells] at moved
  simp only [SnapDevice.step, running, Bool.false_eq_true, if_false] at taken
  cases moved with
  | submit submitted received =>
      have running' : device.worker.shouldStop = false := by
        refine (calm_snap snapshot calm).2 ?_
        unfold SiteEvent.submits
        rw [chosen]
      have free : ¬ device.pc.Stopping := fun stopping => by
        rw [inv.stops stopping] at running'
        contradiction
      cases taken
      exact {
        submitted := (congrArg (· + 1) inv.submitted).trans submitted.symm
        received := inv.received.trans received.symm
        counted := by
          change after.received + after.weight ≤ after.submitted
          omega
        stops := inv.stops
        window := fun inside => absurd (SnapPc.Window.stopping inside) free
        reads := fun here => by
          have here : device.pc = _ := here
          rw [here] at free
          exact absurd trivial free
        exited := fun _ here => by
          have here : device.pc = .exited := here
          rw [here] at free
          exact absurd trivial free }
  | receive submitted received =>
      cases taken
      exact {
        submitted := inv.submitted.trans submitted.symm
        received := (congrArg (· + 1) inv.received).trans received.symm
        counted := by
          change after.received + after.weight ≤ after.submitted
          omega
        stops := inv.stops
        window := fun inside last => by
          refine (fenced_snap snapshot fenced inside).1 ?_ last
          unfold SiteEvent.receives
          rw [chosen]
        reads := inv.reads
        exited := fun well here => by
          have light := (inv.exited well here).1
          omega }
  | fail submitted received =>
      cases taken
      exact {
        submitted := inv.submitted.trans submitted.symm
        received := inv.received.trans received.symm
        counted := by
          change after.received + after.weight ≤ after.submitted
          omega
        stops := inv.stops
        window := inv.window
        reads := inv.reads
        exited := fun well => (Worker.setFailState_none well.2).elim }
  | add submitted received =>
      have heavy := stepped.add_weight tells
      cases taken
      exact {
        submitted := inv.submitted.trans submitted.symm
        received := inv.received.trans received.symm
        counted := by
          change after.received + after.weight ≤ after.submitted
          omega
        stops := inv.stops
        window := fun inside equal => by
          have equal : device.received = device.submitted := equal
          rw [inv.received, inv.submitted] at equal
          omega
        reads := inv.reads
        exited := fun well here => by
          have light := (inv.exited well here).1
          omega }

/-- A read of the snapshot arrives. -/
theorem Draining.reads_arrive {bio : ReadBio} (inv : Draining site device)
    (snapshot : site.tracer = .snap device) (fenced : (SiteEvent.read bio).Fenced wiring site)
    (taken : device.step (.addBio (.read bio)) = some device') :
    Draining { site with tracer := .snap device' } device' := by
  have running := step_told taken
  simp only [SnapDevice.step, running, Bool.false_eq_true, if_false, Option.some.injEq] at taken
  subst taken
  exact { inv with
    window := fun inside equal =>
      absurd equal ((fenced_snap snapshot fenced inside).2 rfl)
    exited := by
      intro well here
      obtain ⟨light, none⟩ := inv.exited well here
      refine ⟨light, fun other member => ?_⟩
      rcases List.mem_append.mp member with before | last
      · exact none other before
      · cases List.mem_singleton.mp last }

theorem Draining.step {next : Site} (inv : Draining site device)
    (tracing : Tracing elements content wiring site device)
    (snapshot : site.tracer = .snap device) (calm : event.Calm wiring site)
    (fenced : event.Fenced wiring site) (stepped : site.Stepped wiring device event next)
    (still : next.tracer = .snap device') : Draining next device' := by
  cases stepped with
  | silent chosen honest stepped untold =>
      cases snapshot.symm.trans still
      exact inv.silent stepped untold
  | tells chosen honest stepped tells ran =>
      cases still
      exact inv.tells snapshot calm fenced chosen stepped tells ran
  | applies found handed =>
      cases snapshot.symm.trans still
      exact { inv with }
  | answers ran =>
      cases still
      exact inv.advance (serve_advances ran)
  | reads ran =>
      cases still
      exact inv.reads_arrive snapshot fenced ran
  | steps own ran =>
      cases still
      exact inv.advance (tracing.own_advances (calm_snap snapshot calm).1 own ran).2
  | leaves running active replaced exited => cases still

theorem Draining.start {cow : CowState} {base : Nat → Nat} :
    Draining (.start cow base) (.start cow) where
  submitted := rfl
  received := rfl
  counted := Nat.le_refl 0
  stops := False.elim
  window := fun inside => inside.elim
  reads := nofun
  exited := fun _ => nofun

/-- What is left when the thread has returned. -/
theorem Draining.handled (inv : Draining site device)
    (tracing : Tracing elements content wiring site device) (well : device.Well)
    (exited : device.pc = .exited) {life : Life} (member : life ∈ site.front.lives)
    {clone : ReadBio} (sent : clone ∈ life.sent) : ∃ data, clone.fill data ∈ device.handled := by
  obtain ⟨light, drained⟩ := inv.exited well exited
  have passed := tracing.passed well
  rw [exited] at passed
  have bound := le_sum_of_mem member
  unfold Front.weight at light
  obtain ⟨flight, put⟩ := @Life.light life (by omega)
  rcases tracing.accounted well life member clone sent with flies | ⟨handler, inside, carries⟩ |
    ⟨data, queued | taken⟩
  · rw [flight] at flies
    contradiction
  · have done := put handler inside
    cases handler with
    | put => exact carries.elim
    | _ => contradiction
  · exact absurd queued (drained _)
  · refine ⟨data, ?_⟩
    rw [passed] at taken
    exact (List.append_nil device.handled) ▸ taken

/-- What the thread of a running device handled is in the index. -/
theorem Tracing.mapped (tracing : Tracing elements content wiring site device)
    (well : device.Well) (active : device.worker.phase = .active) {bio : WriteBio}
    (handled : bio ∈ device.handled) {block : Nat} (inside : block ∈ bio.blocks) :
    Covered elements block ∧ device.worker.cow.lookup block ≠ 0 := by
  obtain ⟨live, stores, covered⟩ := tracing.stored well active
  have known : block ∈ device.handled.flatMap WriteBio.blocks :=
    List.mem_flatMap.mpr ⟨bio, handled, inside⟩
  have inside := covered block known
  exact ⟨inside, (Stores.mapped_iff live stores inside).mpr (WriteBio.isSome_of_mem known)⟩

/-- What the thread captured is in the index. -/
theorem Draining.marked (inv : Draining site device)
    (tracing : Tracing elements content wiring site device) (well : device.Well)
    (exited : device.pc = .exited) (active : device.worker.phase = .active) {life : Life}
    (member : life ∈ site.front.lives) (traced : life.pc = .returned true) :
    Marked elements (life.blocks wiring.sectOff) device.worker.cow := by
  refine ⟨(tracing.stored well active).1, fun block inside => ?_⟩
  have covers := tracing.covers well life member
  unfold Life.Covers at covers
  rw [traced] at covers
  have range := List.mem_range'_1.mp inside
  obtain ⟨clone, sent, captures⟩ := covers block range.1 range.2
  obtain ⟨data, handled⟩ := inv.handled tracing well exited member sent
  exact tracing.mapped well active handled (captures data)

theorem Draining.of_reaches {cow : CowState} {base : Nat → Nat}
    (begins : Tracer.Begins elements content (.snap (.start cow)))
    (reached : Transition.Reaches (Site.step wiring)
      (fun site event => event.Calm wiring site ∧ event.Fenced wiring site) (.start cow base) site)
    (snapshot : site.tracer = .snap device) :
    Tracing elements content wiring site device ∧ Draining site device := by
  induction reached generalizing device with
  | refl =>
      cases snapshot
      exact ⟨.start begins, .start⟩
  | next _ allowed taken ih =>
      obtain ⟨before, snapshot'⟩ := Site.step_snap taken snapshot
      obtain ⟨tracing, draining⟩ := ih snapshot'
      have stepped := Site.stepped snapshot' taken
      exact ⟨tracing.step (calm_snap snapshot' allowed.1).1 snapshot' stepped snapshot,
        draining.step tracing snapshot' allowed.1 allowed.2 stepped snapshot⟩

/-- A step in which the thread returns is its look at the second counter. -/
theorem Tracing.returns {next : Site} (inv : Tracing elements content wiring site device)
    (snapshot : site.tracer = .snap device) (calm : event.Calm wiring site)
    (stepped : site.Stepped wiring device event next) (still : next.tracer = .snap device')
    (running : device.pc ≠ .exited) (exited : device'.pc = .exited) :
    device.Well ∧ device.pc = .testReceived device.received ∧
      device' = { device with pc := .exited } := by
  have advanced : device.worker.crashed = false → Advances device device' →
      device.Well ∧ device.pc = .testReceived device.received ∧
        device' = { device with pc := .exited } := by
    intro sound advances
    have well : device.Well := ⟨sound, (calm_snap snapshot calm).1⟩
    exact ⟨well, (advances.exits well exited).resolve_left fun before => running before.1⟩
  cases stepped with
  | silent chosen honest stepped untold =>
      cases snapshot.symm.trans still
      contradiction
  | applies found handed =>
      cases snapshot.symm.trans still
      contradiction
  | tells chosen honest stepped tells ran =>
      cases still
      have moved := stepped.told
      have sound := step_told ran
      rw [tells] at moved
      simp only [SnapDevice.step, sound, Bool.false_eq_true, if_false] at ran
      cases moved <;> cases ran <;> contradiction
  | answers ran =>
      cases still
      exact advanced (step_told ran) (serve_advances ran)
  | reads ran =>
      cases still
      simp only [SnapDevice.step, step_told ran, Bool.false_eq_true, if_false] at ran
      cases ran
      contradiction
  | steps own ran =>
      cases still
      exact advanced (step_told ran) (inv.own_advances (calm_snap snapshot calm).1 own ran).2
  | leaves running active replaced exited => cases still

/-- When the thread of a snapshot returns its queue is empty and every clone was handled, and
the manager it leaves behind marks what was traced, unless it is overtaken while it looks at
its counters. -/
theorem snap_thread_drains {cow : CowState} {base : Nat → Nat} {next : Site}
    (begins : Tracer.Begins elements content (.snap (.start cow)))
    (reached : Transition.Reaches (Site.step wiring)
      (fun site event => event.Calm wiring site ∧ event.Fenced wiring site) (.start cow base) site)
    (calm : event.Calm wiring site) (fenced : event.Fenced wiring site)
    (taken : site.step wiring event = some next) (snapshot : site.tracer = .snap device) :
    (∀ after, next.tracer = .snap after → device.pc ≠ .exited → after.pc = .exited →
      after.bios = [] ∧ ∀ life ∈ next.front.lives, ∀ clone ∈ life.sent,
        ∃ data, clone.fill data ∈ after.handled) ∧
    ∀ after, next.tracer = .inc after → ∀ life ∈ next.front.lives, life.pc = .returned true →
      Marked elements (life.blocks wiring.sectOff) after.worker.cow := by
  obtain ⟨tracing, inv⟩ := Draining.of_reaches begins reached snapshot
  have stepped := Site.stepped snapshot taken
  constructor
  · intro after still running exited
    have tracing' := tracing.step (calm_snap snapshot calm).1 snapshot stepped still
    have inv' := inv.step tracing snapshot calm fenced stepped still
    obtain ⟨well, tested, same⟩ := tracing.returns snapshot calm stepped still running exited
    have empty := inv.window (by rw [tested]; trivial) (inv.reads tested)
    subst same
    exact ⟨empty, fun life member clone sent => inv'.handled tracing' well exited member sent⟩
  · intro after left life member traced
    cases stepped with
    | leaves running active replaced exited =>
        cases left
        have well : device.Well := ⟨running, (calm_snap snapshot calm).1⟩
        exact inv.marked tracing well exited active member traced
    | silent chosen honest stepped untold => cases snapshot.symm.trans left
    | applies found handed => cases snapshot.symm.trans left
    | _ => cases left

instance (wiring : Wiring) (site : Site) (event : SiteEvent) : Decidable (event.Calm wiring site) := by
  unfold SiteEvent.Calm
  cases site.tracer <;> infer_instance

instance (pc : SnapPc) : Decidable pc.Window :=
  match pc with
  | .testSubmitted | .testReceived _ => .isTrue trivial
  | .testStop | .testQueue | .waitEvent | .readFail | .testEmpty | .dequeue | .handleWrite _
  | .readMode _ | .readBase _ _ | .readOverlay _ _ _ | .exited => .isFalse id

theorem fenced_iff (snapshot : site.tracer = .snap device) : event.Fenced wiring site ↔
    (device.pc.Window →
      (event.receives wiring site = true → device.received + 1 = device.submitted →
        device.bios.isEmpty = true) ∧
      (event.isRead = true → device.received ≠ device.submitted)) := by
  unfold SiteEvent.Fenced
  rw [snapshot]
  simp only
  cases device.pc <;> simp [SnapPc.Window]

instance (wiring : Wiring) (site : Site) (event : SiteEvent) :
    Decidable (event.Fenced wiring site) :=
  match traced : site.tracer with
  | .inc _ => .isTrue (by simp [SiteEvent.Fenced, traced])
  | .snap _ => decidable_of_iff _ (fenced_iff traced).symm

/-- A write is traced with one clone, which the base device answers, and the thread is told
to stop. -/
def answeredOne : List SiteEvent :=
  .front (.start (fun _ => false) twoBlocks) :: List.replicate 7 (.front (.trace 0 false 2)) ++
    [.answer 0 0 none, .device (.snap .swap), .device (.snap .stopOld)]

def threadSteps (count : Nat) : List SiteEvent := List.replicate count (.device (.snap (.thread [])))

def SnapPc.isExited : SnapPc → Bool
  | .exited => true
  | _ => false

theorem SnapPc.isExited_iff {pc : SnapPc} : pc.isExited = true ↔ pc = .exited := by
  cases pc <;> simp [isExited]

def Site.snapTest (test : SnapDevice → Bool) (site : Site) : Bool :=
  match site.tracer with
  | .snap device => test device
  | .inc _ => false

theorem Site.of_snapTest {test : SnapDevice → Bool} (holds : site.snapTest test = true) :
    ∃ device, site.tracer = .snap device ∧ test device = true := by
  unfold snapTest at holds
  split at holds
  · exact ⟨_, by assumption, holds⟩
  · contradiction

theorem newManager_begins :
    Tracer.Begins (sectorToBlock 4096) (fun _ => none) (.snap (.start (newManager 4096))) :=
  .snap (newManager_live (by decide +kernel)) (newManager_stores (by decide +kernel))
    (newManager_dirty (by decide +kernel))

/-- The clone is queued and counted before the thread looks at its queue. -/
theorem snap_thread_drains_counted :
    ∃ (site next : Site) (device after : SnapDevice),
      site.step (.alone .hook) (.device (.snap (.thread []))) = some next ∧
      site.tracer = .snap device ∧ next.tracer = .snap after ∧ device.pc ≠ .exited ∧
      after.pc = .exited ∧ after.bios = [] ∧
      ∀ life ∈ next.front.lives, ∀ clone ∈ life.sent, ∃ data, clone.fill data ∈ after.handled := by
  have ran : (Transition.run (Transition.checked (Site.step (.alone .hook))
      fun site event => event.Calm (.alone .hook) site ∧ event.Fenced (.alone .hook) site)
      (.start (newManager 4096) fun _ => 0)
      (answeredOne ++ [.front (.complete 0 0), .front (.complete 0 0)] ++ threadSteps 10)).any
      (fun site => decide (SiteEvent.Calm (.alone .hook) site (.device (.snap (.thread []))) ∧
          SiteEvent.Fenced (.alone .hook) site (.device (.snap (.thread [])))) &&
        (site.snapTest fun device => !device.pc.isExited) &&
        (site.step (.alone .hook) (.device (.snap (.thread [])))).any
          (Site.snapTest fun device => device.pc.isExited)) = true := by
    decide +kernel
  obtain ⟨site, reached, ended⟩ := Transition.Reaches.of_evaluated ran
  obtain ⟨before, stepped⟩ := (Bool.and_eq_true _ _).mp ended
  obtain ⟨allowed, running⟩ := (Bool.and_eq_true _ _).mp before
  obtain ⟨calm, fenced⟩ := of_decide_eq_true allowed
  obtain ⟨device, snapshot, running⟩ := Site.of_snapTest running
  obtain ⟨next, taken, exited⟩ := (Option.any_eq_true _ _).mp stepped
  obtain ⟨after, still, exited⟩ := Site.of_snapTest exited
  have running : device.pc ≠ .exited := by
    intro same
    rw [same] at running
    exact Bool.false_ne_true running
  have exited : after.pc = .exited := SnapPc.isExited_iff.mp exited
  have drained := (snap_thread_drains newManager_begins reached calm fenced taken snapshot).1 after
    still running exited
  exact ⟨site, next, device, after, taken, snapshot, still, running, exited, drained⟩

/-- The clone is queued and counted while the thread looks at its counters: it returns with
the clone in its queue, and the index never has the block of the write. -/
theorem snap_thread_drains_overtaken :
    ∃ (site next : Site) (life : Life),
      Transition.Reaches (Site.step (.alone .hook)) (fun site event => event.Calm (.alone .hook) site)
        (.start (newManager 4096) fun _ => 0) site ∧
      (∃ device, site.tracer = .snap device ∧ device.pc = .exited ∧ device.bios ≠ [] ∧
        device.handled = []) ∧
      site.step (.alone .hook) (.device (.toInc 0)) = some next ∧
      next.front.lives[0]? = some life ∧ life.pc = .returned true ∧
      ¬ Marked (sectorToBlock 4096) (life.blocks 0) next.tracer.worker.cow := by
  have ran : (Transition.run (Transition.checked (Site.step (.alone .hook))
      fun site event => event.Calm (.alone .hook) site)
      (.start (newManager 4096) fun _ => 0)
      (answeredOne ++ threadSteps 2 ++ [.front (.complete 0 0), .front (.complete 0 0)] ++
        threadSteps 2)).any
      (fun site =>
        (site.snapTest fun device =>
          device.pc.isExited && !device.bios.isEmpty && device.handled.isEmpty) &&
        (site.step (.alone .hook) (.device (.toInc 0))).any fun next =>
          next.front.lives[0]?.any fun life => life.pc = .returned true ∧
            1 ∈ life.blocks 0 ∧ next.tracer.worker.cow.lookup 1 = 0) = true := by
    decide +kernel
  obtain ⟨site, reached, ended⟩ := Transition.Reaches.of_evaluated ran
  obtain ⟨before, stepped⟩ := (Bool.and_eq_true _ _).mp ended
  obtain ⟨device, snapshot, left⟩ := Site.of_snapTest before
  simp only [Bool.and_eq_true, SnapPc.isExited_iff, Bool.not_eq_true', List.isEmpty_iff,
    List.isEmpty_eq_false_iff] at left
  obtain ⟨⟨exited, queued⟩, unhandled⟩ := left
  obtain ⟨next, taken, alive⟩ := (Option.any_eq_true _ _).mp stepped
  obtain ⟨life, found, lost⟩ := (Option.any_eq_true _ _).mp alive
  obtain ⟨traced, inside, unmapped⟩ := of_decide_eq_true lost
  exact ⟨site, next, life, reached, ⟨device, snapshot, exited, queued, unhandled⟩, taken, found,
    traced, fun marked => (marked.2 1 inside).2 unmapped⟩

end Moocbt.Device
