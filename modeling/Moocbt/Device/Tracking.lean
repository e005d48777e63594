import Moocbt.Data.ChangeTracking
import Moocbt.Device.Recording

/-! What a clean COW file records: every block of the base device that traced writes changed
since the first snapshot began. -/

namespace Moocbt.Device

open Cow Program ChangeTracking

variable {wiring : Wiring} {elements sectOff : Nat} {origin base : Nat → Nat}
  {volume next : Volume} {device : IncDevice} {write : TracedWrite} {data : Nat → Nat}
  {marking : Marking} {block word : Nat}

section volumes

/-- The blocks that were captured, or come in a sector set that was queued. -/
def Volume.recorded (wiring : Wiring) (volume : Volume) : List Nat :=
  match volume.site.tracer with
  | .snap snap => snap.captured ++
      volume.early.flatMap fun call => (call.1.relative wiring.sectOff).blocks
  | .inc device => device.inherited ++ device.queued.flatMap SectorSet.blocks

/-- No write brings anything to the block that is not to be recorded. -/
def Volume.Guards (wiring : Wiring) (volume : Volume) (block : Nat) : Prop :=
  volume.site.front.Guards wiring block ∧
    ∀ marking ∈ volume.markings, marking.write.Watches wiring.sectOff block

def Volume.Well (volume : Volume) : Prop :=
  volume.site.tracer.worker.crashed = false ∧ volume.site.tracer.worker.failCode = none ∧
    ∀ call ∈ volume.early, call.2.isSome = true

theorem Volume.recorded_snap {snap : SnapDevice} (snapshot : volume.site.tracer = .snap snap) :
    volume.recorded wiring = snap.captured ++
      volume.early.flatMap fun call => (call.1.relative wiring.sectOff).blocks := by
  unfold recorded
  rw [snapshot]

theorem Volume.recorded_inc (incremental : volume.site.tracer = .inc device) :
    volume.recorded wiring = device.inherited ++ device.queued.flatMap SectorSet.blocks := by
  unfold recorded
  rw [incremental]

/-- No sector set is taken off the queue of a dormant device to flush it. -/
def SiteEvent.Spared (site : Site) : SiteEvent → Prop
  | .device (.inc inner) =>
      match site.tracer with
      | .inc device => inner.Spared device
      | .snap _ => True
  | _ => True

/-- The conditions of the steps: those under which the thread of a snapshot leaves nothing
behind, with no write in the tracing function when it is replaced; writes are recordable and
are traced; the device was well and had an empty queue when it is set up again; and the queue of
a dormant device is not flushed. -/
def VolumeEvent.Kept (wiring : Wiring) (volume : Volume) : VolumeEvent → Prop
  | .site event => event.Calm wiring volume.site ∧ event.Fenced wiring volume.site ∧
      event.Spared volume.site
  | .begin write _ => write.Recordable wiring.sectOff
  | .mark _ _ | .store _ | .finish _ => True
  | .pass _ _ => False
  | .toInc => ∀ life ∈ volume.site.front.lives, life.Returned
  | .reload _ _ =>
      match volume.site.tracer with
      | .snap _ => False
      | .inc device => device.worker.failCode = none ∧ device.ssets.values = []

/-- The base device differs from what it was in the beginning only where blocks are recorded. -/
structure Volume.Tracks (origin : Nat → Nat) (wiring : Wiring) (volume : Volume) : Prop where
  confined : Confined origin volume.site.base fun word =>
    word / blockWords ∈ volume.recorded wiring ∨ ¬ volume.Guards wiring (word / blockWords)
  markings : ∀ marking ∈ volume.markings,
    marking.Sound wiring.sectOff (volume.recorded wiring)
  placed : volume.site.front.Placed wiring

theorem Volume.Tracks.advance (tracks : volume.Tracks origin wiring)
    (more : ∀ block ∈ volume.recorded wiring, block ∈ next.recorded wiring)
    (guards : ∀ block, next.Guards wiring block → volume.Guards wiring block)
    (kept : ∀ word, word / blockWords ∉ volume.recorded wiring →
      volume.Guards wiring (word / blockWords) → next.site.base word = volume.site.base word)
    (markings : ∀ marking ∈ next.markings, marking.Sound wiring.sectOff (next.recorded wiring))
    (placed : next.site.front.Placed wiring) : next.Tracks origin wiring where
  confined := by
    refine (tracks.confined.weaken fun word marked => ?_).write fun word unmarked => ?_
    · rcases marked with recorded | exposed
      · exact .inl (more _ recorded)
      · exact .inr fun guarded => exposed (guards _ guarded)
    · refine kept word (fun recorded => unmarked (.inl (more _ recorded))) (guards _ ?_)
      exact Classical.not_not.mp fun exposed => unmarked (.inr exposed)
  markings := markings
  placed := placed

/-- What holds of a device in incremental mode that is well, with the writes of the snapshot
it replaced. -/
structure IncTracks (elements : Nat) (wiring : Wiring) (volume : Volume) (device : IncDevice) :
    Prop where
  recording : device.Recording elements wiring.sectOff
  captured : ∀ life ∈ volume.site.front.lives, life.bio.needsCow = true →
    ∀ block ∈ life.blocks wiring.sectOff, block ∈ device.inherited
  early : volume.early = []

structure Volume.Sound (elements : Nat) (origin : Nat → Nat) (wiring : Wiring)
    (volume : Volume) : Prop where
  tracks : volume.Tracks origin wiring
  snap : ∀ {snap}, volume.site.tracer = .snap snap → SnapTracks elements wiring volume.site snap
  inc : ∀ {device}, volume.site.tracer = .inc device → IncTracks elements wiring volume device

theorem Volume.well_snap {snap : SnapDevice} (well : volume.Well)
    (snapshot : volume.site.tracer = .snap snap) : snap.Well := by
  obtain ⟨running, unfailed, _⟩ := well
  rw [snapshot] at running unfailed
  exact ⟨running, unfailed⟩

theorem Volume.well_inc (well : volume.Well) (incremental : volume.site.tracer = .inc device) :
    device.Well := by
  obtain ⟨running, unfailed, _⟩ := well
  rw [incremental] at running unfailed
  exact ⟨running, unfailed⟩

/-- The writes that are traced stay the same when one of them goes on. -/
theorem Volume.guards_set {id : Nat} {marking' : Marking} (guarded : next.Guards wiring block)
    (found : volume.markings[id]? = some marking)
    (markings : next.markings = volume.markings.set id marking')
    (same : marking'.write = marking.write) (front : next.site.front = volume.site.front) :
    volume.Guards wiring block := by
  obtain ⟨first, watched⟩ := guarded
  rw [front] at first
  refine ⟨first, fun other member => ?_⟩
  obtain ⟨place, here⟩ := List.getElem?_of_mem member
  obtain ⟨bound, _⟩ := List.getElem?_eq_some_iff.mp found
  by_cases equal : id = place
  · subst equal
    cases found.symm.trans here
    rw [← same]
    refine watched marking' ?_
    rw [markings]
    exact List.mem_of_getElem? (List.getElem?_set_self bound)
  · refine watched other ?_
    rw [markings]
    exact List.mem_of_getElem? ((List.getElem?_set_ne equal).trans here)

section stepping

variable {act : SiteEvent} {after : Site} {snap : SnapDevice}

/-- What a step of the site is once the device is in incremental mode. -/
theorem Site.stepped_inc {site : Site} (incremental : site.tracer = .inc device)
    (taken : site.step wiring act = some after) :
    (∃ place life, act = .apply place ∧ site.front.lives[place]? = some life ∧
      after = { site with
        base := life.bio.write wiring.sectOff site.base
        applied := site.applied ++ [place] }) ∨
    ∃ inner device', act = .device (.inc inner) ∧ device.step inner = some device' ∧
      after = { site with tracer := .inc device' } := by
  have unfronted : ∀ {inner : FrontEvent}, site.frontStep wiring inner = some after → False := by
    intro inner ran
    unfold frontStep at ran
    rw [incremental] at ran
    contradiction
  have unsnapped : ∀ {inner : SnapEvent}, site.snapStep inner = some after → False := by
    intro inner ran
    unfold snapStep at ran
    rw [incremental] at ran
    contradiction
  cases act with
  | front inner =>
      simp only [step] at taken
      split at taken
      · contradiction
      · exact (unfronted taken).elim
  | answer place index error => exact (unfronted taken).elim
  | base error => exact (unsnapped taken).elim
  | read bio => exact (unsnapped taken).elim
  | apply place =>
      obtain ⟨life, found, served⟩ := Option.bind_eq_some_iff.mp taken
      split at served
      · cases served
        exact .inl ⟨place, life, rfl, found, rfl⟩
      · contradiction
  | device inner =>
      simp only [step] at taken
      split at taken
      · obtain ⟨tracer, ran, same⟩ := Option.map_eq_some_iff.mp taken
        subst same
        rw [incremental] at ran
        cases inner with
        | inc event =>
            obtain ⟨device', stepped, same⟩ := Option.map_eq_some_iff.mp ran
            subst same
            exact .inr ⟨event, device', rfl, stepped, rfl⟩
        | snap event => contradiction
        | toInc sectOff => contradiction
      · contradiction

theorem Site.Stepped.stays {site : Site} (stepped : site.Stepped wiring snap act after)
    (snapshot : site.tracer = .snap snap) (plain : act.isPlain = true) :
    ∃ snap', after.tracer = .snap snap' := by
  cases stepped with
  | silent => exact ⟨snap, snapshot⟩
  | applies => exact ⟨snap, snapshot⟩
  | tells => exact ⟨_, rfl⟩
  | answers => exact ⟨_, rfl⟩
  | reads => exact ⟨_, rfl⟩
  | steps => exact ⟨_, rfl⟩
  | leaves => contradiction

namespace Volume.Sound

theorem site (inv : volume.Well → volume.Sound elements origin wiring)
    (isSnapshot : wiring.snapshot = true)
    (plain : act.isPlain = true) (calm : act.Calm wiring volume.site)
    (fenced : act.Fenced wiring volume.site) (spared : act.Spared volume.site)
    (taken : volume.site.step wiring act = some after)
    (well : Volume.Well { volume with site := after }) :
    Volume.Sound elements origin wiring { volume with site := after } := by
  cases here : volume.site.tracer with
  | snap snap =>
      have stepped := Site.stepped here taken
      obtain ⟨snap', still⟩ := stepped.stays here plain
      have well' := Volume.well_snap well still
      have before := stepped.well here still well'
      have sound := inv ⟨by rw [here]; exact before.1, by rw [here]; exact before.2, well.2.2⟩
      obtain ⟨tracks, confines, more⟩ :=
        (sound.snap here).step isSnapshot sound.tracks.placed stepped here still well' calm
          fenced
      have more : ∀ block ∈ volume.recorded wiring,
          block ∈ Volume.recorded wiring { volume with site := after } := by
        intro block inside
        rw [recorded_snap here] at inside
        rw [recorded_snap still]
        rcases List.mem_append.mp inside with captured | called
        · exact List.mem_append_left _ (more block captured)
        · exact List.mem_append_right _ called
      exact {
        tracks := sound.tracks.advance more
          (fun block guarded => ⟨confines.guards block guarded.1, guarded.2⟩)
          (fun word absent guarded => confines.kept word (fun captured => absent (by
            rw [recorded_snap here]
            exact List.mem_append_left _ captured)) guarded.1)
          (fun marking member => (sound.tracks.markings marking member).weaken more)
          confines.placed
        snap := fun snapshot => by
          cases still.symm.trans snapshot
          exact tracks
        inc := fun incremental => by cases still.symm.trans incremental }
  | inc device =>
      rcases Site.stepped_inc here taken with applies | steps
      · obtain ⟨place, life, _, found, same⟩ := applies
        subst same
        have sound := inv well
        have inc := sound.inc here
        have confines := @Site.Confines.applies wiring volume.site life device.inherited place
          (volume.site.applied ++ [place]) sound.tracks.placed found
          (inc.captured life (List.mem_of_getElem? found))
        exact {
          tracks := sound.tracks.advance (fun _ => id) (fun _ => id)
            (fun word absent guarded => confines.kept word (fun captured => absent (by
              rw [recorded_inc here]
              exact List.mem_append_left _ captured)) guarded.1)
            sound.tracks.markings sound.tracks.placed
          snap := fun snapshot => by cases here.symm.trans snapshot
          inc := fun incremental => by
            cases here.symm.trans incremental
            exact ⟨inc.recording, inc.captured, inc.early⟩ }
      · obtain ⟨inner, device', same, ran, result⟩ := steps
        subst same result
        have plain : ∀ sect len addr, inner ≠ .makeSset sect len addr := by
          intro sect len addr same
          subst same
          contradiction
        have keeps := IncDevice.Keeps.step plain ran
        have well' : device'.Well := Volume.well_inc well rfl
        have before := (keeps.well well').1
        have sound := inv ⟨by rw [here]; exact before.1, by rw [here]; exact before.2, well.2.2⟩
        have inc := sound.inc here
        have same : Volume.recorded wiring
            { volume with site := { volume.site with tracer := .inc device' } } =
            volume.recorded wiring := by
          rw [recorded_inc here]
          change device'.inherited ++ device'.queued.flatMap SectorSet.blocks = _
          rw [keeps.inherited, keeps.queued]
        exact {
          tracks := sound.tracks.advance (fun block inside => same ▸ inside) (fun _ => id)
            (fun _ _ _ => rfl)
            (fun marking member => same ▸ sound.tracks.markings marking member)
            sound.tracks.placed
          snap := fun snapshot => by cases snapshot
          inc := fun incremental => by
            cases incremental
            have spared : inner.Spared device := by
              simpa only [SiteEvent.Spared, here] using spared
            refine ⟨inc.recording.step plain spared ran well', ?_, inc.early⟩
            rw [keeps.inherited]
            exact inc.captured }

/-- A write enters `inc_trace_bio`. -/
theorem begin (inv : volume.Well → volume.Sound elements origin wiring)
    (recordable : write.Recordable wiring.sectOff)
    (taken : volume.begin wiring write data = some next) (well : next.Well) :
    next.Sound elements origin wiring := by
  unfold Volume.begin at taken
  split at taken
  · cases taken
    have sound := inv well
    exact {
      tracks := sound.tracks.advance (fun _ => id)
        (fun block guarded => ⟨guarded.1, fun marking member =>
          guarded.2 marking (List.mem_append_left _ member)⟩)
        (fun _ _ _ => rfl)
        (fun marking member => by
          rcases List.mem_append.mp member with before | last
          · exact sound.tracks.markings marking before
          · rw [List.mem_singleton.mp last]
            exact .begin recordable)
        sound.tracks.placed
      snap := sound.snap
      inc := fun incremental =>
        have inc := sound.inc incremental
        ⟨inc.recording, inc.captured, inc.early⟩ }
  · contradiction

/-- A write makes its next call. -/
theorem mark {place : Nat} {addr : Option Nat}
    (inv : volume.Well → volume.Sound elements origin wiring)
    (taken : volume.mark place addr = some next) (well : next.Well) :
    next.Sound elements origin wiring := by
  obtain ⟨marking, found, taken⟩ := Option.bind_eq_some_iff.mp taken
  split at taken
  · contradiction
  rename_i call rest calls
  -- The markings after a call that got memory, when its set is recorded.
  have goes : volume.Sound elements origin wiring → addr.isSome = true →
      next.markings = volume.markings.set place
        { marking with calls := if addr.isSome then rest else [] } →
      next.site.front = volume.site.front → next.site.base = volume.site.base →
      next.recorded wiring = volume.recorded wiring ++ (call.relative wiring.sectOff).blocks →
      next.Tracks origin wiring := by
    intro sound served markings front base recorded
    rw [if_pos served] at markings
    have more : ∀ block ∈ volume.recorded wiring, block ∈ next.recorded wiring := by
      intro block inside
      rw [recorded]
      exact List.mem_append_left _ inside
    have made : ∀ block ∈ (call.relative wiring.sectOff).blocks, block ∈ next.recorded wiring := by
      intro block inside
      rw [recorded]
      exact List.mem_append_right _ inside
    refine sound.tracks.advance more
      (fun block guarded => guards_set guarded found markings rfl front)
      (fun _ _ _ => by rw [base]) (fun other member => ?_) ?_
    · rw [markings] at member
      rcases List.mem_or_eq_of_mem_set member with before | same
      · exact (sound.tracks.markings other before).weaken more
      · rw [same]
        exact (sound.tracks.markings marking (List.mem_of_getElem? found)).mark calls more made
    · rw [front]
      exact sound.tracks.placed
  cases here : volume.site.tracer with
  | snap snap =>
      rw [here] at taken
      cases taken
      have served := well.2.2 (call, addr) (List.mem_append_right _ (List.mem_singleton_self _))
      have before : volume.Well := ⟨well.1, well.2.1, fun other member =>
        well.2.2 other (List.mem_append_left _ member)⟩
      have sound := inv before
      refine ⟨goes sound served rfl rfl rfl ?_, sound.snap, fun incremental => ?_⟩
      · simp only [Volume.recorded, here, List.flatMap_append, List.flatMap_singleton,
          List.append_assoc]
      · cases here.symm.trans incremental
  | inc device =>
      rw [here] at taken
      simp only at taken
      split at taken
      · contradiction
      obtain ⟨device', made, same⟩ := Option.map_eq_some_iff.mp taken
      subst same
      have well' : device'.Well := Volume.well_inc well rfl
      obtain ⟨before, served⟩ := IncDevice.makeSset_well made well'
      have sound := inv ⟨by rw [here]; exact before.1, by rw [here]; exact before.2, well.2.2⟩
      have inc := sound.inc here
      obtain ⟨recording, inherited, queued⟩ := inc.recording.makes made well'
      refine ⟨goes sound served rfl rfl rfl ?_, (fun snapshot => by cases snapshot), ?_⟩
      · rw [recorded_inc here]
        change device'.inherited ++ device'.queued.flatMap SectorSet.blocks = _
        rw [inherited, queued, List.flatMap_append, List.flatMap_singleton, List.append_assoc]
      · intro device'' incremental
        cases incremental
        refine ⟨recording, ?_, inc.early⟩
        rw [inherited]
        exact inc.captured

/-- The base device serves a write whose sets are queued. -/
theorem store {place : Nat} (inv : volume.Well → volume.Sound elements origin wiring)
    (taken : volume.store wiring place = some next) (well : next.Well) :
    next.Sound elements origin wiring := by
  obtain ⟨marking, found, taken⟩ := Option.bind_eq_some_iff.mp taken
  split at taken
  · rename_i ready
    cases taken
    have sound := inv well
    have member := List.mem_of_getElem? found
    have marked := sound.tracks.markings marking member
    exact {
      tracks := sound.tracks.advance (fun _ => id)
        (fun block guarded => guards_set guarded found rfl rfl rfl)
        (fun word absent guarded => by
          refine marked.recordable.orig_apart (guarded.2 marking member) fun sset made inside => ?_
          rcases marked.recorded sset made with recorded | waits
          · exact absent (recorded _ inside)
          · obtain ⟨call, waiting, _⟩ := waits
            rw [List.isEmpty_iff.mp ready.1] at waiting
            exact absurd waiting List.not_mem_nil)
        (fun other inside => by
          rcases List.mem_or_eq_of_mem_set inside with before | same
          · exact sound.tracks.markings other before
          · rw [same]
            exact ⟨marked.recordable, marked.recorded⟩)
        sound.tracks.placed
      snap := fun snapshot =>
        have inv := sound.snap snapshot
        ⟨{ inv.tracing with }, inv.sound, { inv.draining with }, inv.withheld⟩
      inc := fun incremental =>
        have inc := sound.inc incremental
        ⟨inc.recording, inc.captured, inc.early⟩ }
  · contradiction

/-- The tracing side of the snapshot goes on. -/
theorem finish {inner : FrontEvent} (inv : volume.Well → volume.Sound elements origin wiring)
    (taken : volume.finish wiring inner = some next) (well : next.Well) :
    next.Sound elements origin wiring := by
  unfold Volume.finish at taken
  split at taken
  · contradiction
  rename_i device here
  split at taken
  · contradiction
  rename_i plain
  obtain ⟨front, ran, same⟩ := Option.map_eq_some_iff.mp taken
  subst same
  have stepped := Front.stepped ran
  have sound := inv well
  have inc := sound.inc here
  exact {
    tracks := sound.tracks.advance (fun _ => id)
      (fun block guarded => ⟨PointInTime.guards stepped guarded.1, guarded.2⟩)
      (fun _ _ _ => rfl) sound.tracks.markings (stepped.placed sound.tracks.placed)
    snap := fun snapshot => by cases here.symm.trans snapshot
    inc := fun incremental => by
      cases here.symm.trans incremental
      refine ⟨inc.recording, fun life' member copied => ?_, inc.early⟩
      rcases stepped.came member with moved | started
      · obtain ⟨place, life, found, moves⟩ := moved
        rw [Life.blocks_of_bio moves.bio]
        exact inc.captured life (List.mem_of_getElem? found) (moves.bio ▸ copied)
      · obtain ⟨failed, bio, same, _⟩ := started
        subst same
        exact absurd (.inl rfl) plain }

/-- The device goes over to incremental mode. -/
theorem toInc (inv : volume.Well → volume.Sound elements origin wiring)
    (returned : ∀ life ∈ volume.site.front.lives, life.Returned)
    (taken : volume.toInc wiring = some next) (well : next.Well) :
    next.Sound elements origin wiring := by
  obtain ⟨after, ran, taken⟩ := Option.bind_eq_some_iff.mp taken
  split at taken
  · contradiction
  rename_i device there
  obtain ⟨device', delivered, same⟩ := Option.map_eq_some_iff.mp taken
  subst same
  cases here : volume.site.tracer with
  | inc other =>
      rcases Site.stepped_inc here ran with applies | steps
      · obtain ⟨_, _, same, _⟩ := applies
        cases same
      · obtain ⟨_, _, same, _⟩ := steps
        cases same
  | snap snap =>
      cases Site.stepped here ran with
      | silent chosen => cases chosen
      | tells chosen => cases chosen
      | leaves running active replaced exited =>
          cases there
          have well' : device'.Well := Volume.well_inc well rfl
          obtain ⟨before, served⟩ := IncDevice.deliver_well delivered well'
          have wellSnap : snap.Well := ⟨running, before.2⟩
          have sound := inv ⟨by rw [here]; exact running, by rw [here]; exact before.2, served⟩
          have tracks := sound.snap here
          have stays : ¬ snap.worker.Leaving := by
            unfold Worker.Leaving
            simp [active]
          obtain ⟨done, guard⟩ := tracks.tracing.guard stays
          obtain ⟨recording, inherited, queued⟩ :=
            (IncDevice.Recording.takesOver guard running exited active).delivers delivered well'
          obtain ⟨handled, captured⟩ := tracks.leaves wellSnap exited returned
          have more : ∀ block ∈ volume.recorded wiring, block ∈
              device'.inherited ++ device'.queued.flatMap SectorSet.blocks := by
            intro block inside
            rw [recorded_snap here] at inside
            rw [inherited, queued]
            rcases List.mem_append.mp inside with first | called
            · exact List.mem_append_left _ (handled block first)
            · obtain ⟨call, member, inside⟩ := List.mem_flatMap.mp called
              refine List.mem_append_right _ (List.mem_flatMap.mpr ⟨_, ?_, inside⟩)
              exact List.mem_append_right _ (List.mem_map_of_mem member)
          exact {
            tracks := sound.tracks.advance more (fun _ => id) (fun _ _ _ => rfl)
              (fun marking member => (sound.tracks.markings marking member).weaken more)
              sound.tracks.placed
            snap := fun snapshot => by cases snapshot
            inc := fun incremental => by
              cases incremental
              refine ⟨recording, ?_, rfl⟩
              rw [inherited]
              exact captured }

/-- The device is set up again from its file. -/
theorem reload {cacheSize : Nat} {outcomes : List Outcome}
    (inv : volume.Well → volume.Sound elements origin wiring)
    (kept : (VolumeEvent.reload cacheSize outcomes).Kept wiring volume)
    (taken : volume.reload elements cacheSize outcomes = some next) (well : next.Well) :
    next.Sound elements origin wiring := by
  unfold Volume.reload at taken
  cases here : volume.site.tracer with
  | snap snap =>
      rw [here] at taken
      contradiction
  | inc device =>
      unfold VolumeEvent.Kept at kept
      rw [here] at taken kept
      obtain ⟨unfailed, empty⟩ := kept
      simp only at taken
      split at taken
      · rename_i allowed
        split at taken
        · rename_i cow ran
          cases taken
          have sound := inv ⟨by rw [here]; exact allowed.1, by rw [here]; exact unfailed, well.2.2⟩
          have inc := sound.inc here
          have recording := inc.recording.reloads allowed.1 allowed.2.1 ran
          have more : ∀ block ∈ volume.recorded wiring, block ∈
              (device.reloaded cow).inherited ++
                (device.reloaded cow).queued.flatMap SectorSet.blocks := by
            intro block inside
            rw [recorded_inc here, inc.recording.order, empty, List.append_nil] at inside
            exact List.mem_append_left _ inside
          exact {
            tracks := sound.tracks.advance more (fun _ => id) (fun _ _ _ => rfl)
              (fun marking member => (sound.tracks.markings marking member).weaken more)
              sound.tracks.placed
            snap := fun snapshot => by cases snapshot
            inc := fun incremental => by
              cases incremental
              refine ⟨recording, fun life member copied block inside => ?_, inc.early⟩
              exact List.mem_append_left _ (inc.captured life member copied block inside) }
        · contradiction
      · contradiction

theorem step {event : VolumeEvent} (inv : volume.Well → volume.Sound elements origin wiring)
    (isSnapshot : wiring.snapshot = true)
    (kept : event.Kept wiring volume) (taken : volume.step wiring elements event = some next)
    (well : next.Well) : next.Sound elements origin wiring := by
  cases event with
  | site act =>
      simp only [Volume.step] at taken
      split at taken
      · rename_i plain
        obtain ⟨after, ran, same⟩ := Option.map_eq_some_iff.mp taken
        subst same
        exact .site inv isSnapshot plain kept.1 kept.2.1 kept.2.2 ran well
      · contradiction
  | begin write data => exact .begin inv kept taken well
  | mark id addr => exact .mark inv taken well
  | store id => exact .store inv taken well
  | pass write data => exact kept.elim
  | finish inner => exact .finish inv taken well
  | toInc => exact .toInc inv kept taken well
  | reload cacheSize outcomes => exact .reload inv kept taken well

theorem start {cow : CowState}
    (begins : Tracer.Begins elements (fun _ => none) (.snap (.start cow))) :
    (Volume.start cow base).Sound elements base wiring where
  tracks := ⟨Confined.start, fun marking member => absurd member List.not_mem_nil,
    fun life member => absurd member List.not_mem_nil⟩
  snap snapshot := by
    cases snapshot
    exact ⟨.start begins, .fresh, .start, fun life member => absurd member List.not_mem_nil⟩
  inc incremental := by cases incremental

end Volume.Sound

end stepping

/-- A block that is to be recorded is in the index, or will be. -/
theorem IncTracks.indexed {block : Nat} (inv : IncTracks elements wiring volume device)
    (incremental : volume.site.tracer = .inc device) (running : device.worker.crashed = false)
    (settled : device.worker.Settled) (recorded : block ∈ volume.recorded wiring) :
    (Covered elements block ∧ device.worker.cow.lookup block ≠ 0) ∨
      ∃ sset ∈ device.pc.inHand ++ device.ssets.values, block ∈ sset.blocks := by
  obtain ⟨done, guard⟩ := inv.recording.guard
  have marked := (guard.guarded.settled running settled).2.2
  rw [Volume.recorded_inc incremental, inv.recording.order, guard.order, List.append_assoc,
    List.flatMap_append, ← List.append_assoc] at recorded
  rcases List.mem_append.mp recorded with required | waits
  · exact .inl (marked block required)
  · exact .inr (List.mem_flatMap.mp waits)

end volumes

section running

instance (write : TracedWrite) (sectOff : Nat) : Decidable (write.Recordable sectOff) :=
  decidable_of_iff (sectOff ≤ write.bio.iter.sector ∧ sectorSize ∣ write.bio.iter.size ∧
      (write.op ≠ .writeZeroes → vecBytes write.bio.segments = write.bio.iter.size) ∧
      write.WholeSectors)
    ⟨fun all => ⟨all.1, all.2.1, all.2.2.1, all.2.2.2⟩,
      fun all => ⟨all.placed, all.sectors, all.pages, all.whole⟩⟩

theorem kept_reload_iff {cacheSize : Nat} {outcomes : List Outcome}
    (incremental : volume.site.tracer = .inc device) :
    (VolumeEvent.reload cacheSize outcomes).Kept wiring volume ↔
      device.worker.failCode = none ∧ device.ssets.values = [] := by
  unfold VolumeEvent.Kept
  rw [incremental]

instance (device : IncDevice) (event : IncEvent) : Decidable (event.Spared device) :=
  match event with
  | .thread _ => inferInstanceAs (Decidable (_ → _ → _ ∨ _))
  | .makeSset _ _ _ | .reconfigure _ | .truncate _ | .swap | .stopOld | .umount | .flush _
  | .destroy | .close _ | .reopen _ _ => .isTrue trivial

theorem spared_iff {site : Site} {inner : IncEvent} (incremental : site.tracer = .inc device) :
    (SiteEvent.device (.inc inner)).Spared site ↔ inner.Spared device := by
  unfold SiteEvent.Spared
  rw [incremental]

instance (site : Site) (event : SiteEvent) : Decidable (event.Spared site) :=
  match event with
  | .device (.inc _) =>
      match traced : site.tracer with
      | .inc _ => decidable_of_iff _ (spared_iff traced).symm
      | .snap _ => .isTrue (by simp [SiteEvent.Spared, traced])
  | .device (.snap _) | .device (.toInc _) | .front _ | .answer _ _ _ | .apply _ | .base _
  | .read _ => .isTrue trivial

instance (wiring : Wiring) (volume : Volume) (event : VolumeEvent) :
    Decidable (event.Kept wiring volume) :=
  match event with
  | .site event =>
      inferInstanceAs (Decidable (event.Calm wiring volume.site ∧
        event.Fenced wiring volume.site ∧ event.Spared volume.site))
  | .begin write _ => inferInstanceAs (Decidable (write.Recordable wiring.sectOff))
  | .mark _ _ | .store _ | .finish _ => .isTrue trivial
  | .pass _ _ => .isFalse id
  | .toInc => inferInstanceAs (Decidable (∀ life ∈ volume.site.front.lives, life.Returned))
  | .reload _ _ =>
      match traced : volume.site.tracer with
      | .snap _ => .isFalse (by simp [VolumeEvent.Kept, traced])
      | .inc _ => decidable_of_iff _ (kept_reload_iff traced).symm

instance (volume : Volume) : Decidable volume.Well := inferInstanceAs (Decidable (_ ∧ _ ∧ _))

/-- A write that has no page of the COW file. -/
def TracedWrite.Foreign (write : TracedWrite) : Prop :=
  ∀ bvec ∈ write.bio.segments, write.foreign bvec = true

instance (write : TracedWrite) : Decidable write.Foreign :=
  inferInstanceAs (Decidable (∀ bvec ∈ write.bio.segments, _))

/-- A write of one sector of zeros. -/
def zeroSector (sector : Nat) : TracedWrite :=
  ⟨.writeZeroes, ⟨⟨sector, 512, 0, 0⟩, 0, []⟩, fun _ => none, 7⟩

/-- A write in `inc_trace_bio`, up to its submission. -/
def markedWrite (place sector : Nat) : List VolumeEvent :=
  [.begin (zeroSector sector) fun _ => 0, .mark place (some place), .store place]

def incSteps (count : Nat) : List VolumeEvent :=
  List.replicate count (.site (.device (.inc (.thread []))))

/-- A write while the snapshot is active, one while it is being replaced, one in incremental
mode, and an umount. -/
def threeWrites : List VolumeEvent :=
  (tracedWrite 0 8 1).map .site ++ [.site (.apply 0)] ++ (threadSteps 6).map .site ++
    [.site (.device (.snap .swap))] ++ markedWrite 0 16 ++ [.site (.device (.snap .stopOld))] ++
    (threadSteps 4).map .site ++ [.toInc] ++ incSteps 6 ++
    [.site (.device (.inc (.truncate [])))] ++ markedWrite 1 24 ++
    [.site (.device (.inc .umount))] ++ incSteps 9 ++ [.site (.device (.inc (.close [])))]

/-- The end of a run from a device full of sevens. -/
def RecordsIn (ok : Volume → VolumeEvent → Prop) (holds : Volume → IncDevice → Prop) : Prop :=
  ∃ (volume : Volume) (device : IncDevice),
    Transition.Reaches (Volume.step (.alone .hook) (sectorToBlock 4096)) ok
      (.start (newManager 4096) fun _ => 7) volume ∧
    volume.site.tracer = .inc device ∧ volume.Well ∧ holds volume device

def Volume.incTest (test : IncDevice → Bool) (volume : Volume) : Bool :=
  match volume.site.tracer with
  | .inc device => test device
  | .snap _ => false

theorem Volume.of_incTest {test : IncDevice → Bool} (holds : volume.incTest test = true) :
    ∃ device, volume.site.tracer = .inc device ∧ test device = true := by
  unfold incTest at holds
  split at holds
  · exact ⟨_, by assumption, holds⟩
  · contradiction

theorem RecordsIn.of_ran {ok : Volume → VolumeEvent → Prop}
    [∀ volume event, Decidable (ok volume event)] {holds : Volume → IncDevice → Prop}
    [∀ volume device, Decidable (holds volume device)] (events : List VolumeEvent)
    (ran : (Transition.run
        (Transition.checked (Volume.step (.alone .hook) (sectorToBlock 4096)) ok)
        (.start (newManager 4096) fun _ => 7) events).any
      (fun volume => volume.incTest fun device => decide (volume.Well ∧ holds volume device)) =
      true) : RecordsIn ok holds := by
  obtain ⟨volume, reached, ended⟩ := Transition.Reaches.of_evaluated ran
  obtain ⟨device, incremental, ended⟩ := Volume.of_incTest ended
  obtain ⟨well, held⟩ := of_decide_eq_true ended
  exact ⟨volume, device, reached, incremental, well, held⟩

/-- A discard is not traced: its blocks are lost. -/
theorem changed_block_passed : RecordsIn (fun _ _ => True) fun volume device =>
    (device.worker.cow.file.any fun file => decide (Clean file)) = true ∧
      volume.site.front.Guards (.alone .hook) 4 ∧
      (∀ marking ∈ volume.markings, marking.write.Foreign) ∧
      volume.site.base (4 * blockWords) = 0 ∧
      fileWord device.worker.cow.file (headerWords + 4) = 0 :=
  RecordsIn.of_ran (threeWrites ++
    [.pass { zeroSector 32 with op := .discard } fun _ => 0]) (by decide +kernel)

end running

end Moocbt.Device
