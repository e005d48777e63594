import Moocbt.Device.Admission
import Moocbt.Device.Draining

/-! A write that changes the base device of a snapshot is withheld from it until the blocks
it changes are captured. -/

namespace Moocbt.Device

open Cow Program WriteOnce

variable {wiring : Wiring} {front after : Front} {life life' : Life} {turn : Turn} {place : Nat}
  {inner : FrontEvent} {device device' : SnapDevice} {site next origin : Site}
  {event : SiteEvent} {elements : Nat} {content : Nat → Option (Nat → Nat)}
  {seen seen' : (Nat → Nat) → Prop} {passed passed' : WriteBio → Prop}

/-- What a step of the tracing side makes of one of the writes. -/
inductive Front.Moves (wiring : Wiring) (front : Front) (place : Nat) (life : Life) :
    FrontEvent → Life → Prop
  | stays {inner : FrontEvent} : Moves wiring front place life inner life
  | hands {failed : Entry → Bool} {handed : Handed} :
      Moves wiring front place life (.mrf failed) (life.hand handed)
  | traces {failing : Bool} {fits : Nat} {turn : Turn} :
      life.trace wiring failing fits = some turn →
      Moves wiring front place life (.trace place failing fits) turn.life
  | serves {index : Nat} {result : Except Errno (Nat → Nat)} {turn : Turn} :
      life.serve index result = some turn →
      Moves wiring front place life (.serve place index result) turn.life
  | completes {index : Nat} {turn : Turn} : life.complete index = some turn →
      Moves wiring front place life (.complete place index) turn.life

theorem Front.settle_lives {other : Nat} {life : Life} (found : front.lives[place]? = some life)
    (apart : other ≠ place) : (front.settle other turn).lives[place]? = some life := by
  change (front.lives.set other turn.life)[place]? = some life
  rw [List.getElem?_set_ne apart]
  exact found

theorem Front.settle_life {life : Life} (found : front.lives[place]? = some life) :
    (front.settle place turn).lives[place]? = some turn.life := by
  obtain ⟨bound, _⟩ := List.getElem?_eq_some_iff.mp found
  exact List.getElem?_set_self bound

theorem Front.mrfStep_moves {failed : Entry → Bool} (found : front.lives[place]? = some life)
    (ran : front.mrfStep wiring failed = some after) :
    ∃ life', after.lives[place]? = some life' ∧ front.Moves wiring place life (.mrf failed) life' := by
  unfold Front.mrfStep at ran
  split at ran
  · cases ran
    exact ⟨life, found, .stays⟩
  · cases ran
    exact ⟨life, found, .stays⟩
  · split at ran
    · cases ran
      exact ⟨life, found, .stays⟩
    · contradiction
  · cases ran
    exact ⟨life, found, .stays⟩
  · split at ran
    · contradiction
    · cases ran
      exact ⟨life, found, .stays⟩
  · rename_i other _
    obtain ⟨submitted, here, same⟩ := Option.map_eq_some_iff.mp ran
    subst same
    by_cases equal : other = place
    · subst equal
      cases found.symm.trans here
      obtain ⟨bound, _⟩ := List.getElem?_eq_some_iff.mp found
      exact ⟨_, List.getElem?_set_self bound, .hands⟩
    · exact ⟨life, (List.getElem?_set_ne equal).trans found, .stays⟩
  · contradiction

theorem Front.Stepped.moves (stepped : front.Stepped wiring inner after)
    (found : front.lives[place]? = some life) :
    ∃ life', after.lives[place]? = some life' ∧ front.Moves wiring place life inner life' := by
  obtain ⟨bound, _⟩ := List.getElem?_eq_some_iff.mp found
  cases stepped with
  | start accepted =>
      refine ⟨life, ?_, .stays⟩
      exact (List.getElem?_append_left bound).trans found
  | @trace other _ _ _ _ here ran =>
      by_cases equal : other = place
      · subst equal
        cases found.symm.trans here
        exact ⟨_, Front.settle_life found, .traces ran⟩
      · exact ⟨life, Front.settle_lives found equal, .stays⟩
  | @serve other _ _ _ _ here ran =>
      by_cases equal : other = place
      · subst equal
        cases found.symm.trans here
        exact ⟨_, Front.settle_life found, .serves ran⟩
      · exact ⟨life, Front.settle_lives found equal, .stays⟩
  | @complete other _ _ _ here ran =>
      by_cases equal : other = place
      · subst equal
        cases found.symm.trans here
        exact ⟨_, Front.settle_life found, .completes ran⟩
      · exact ⟨life, Front.settle_lives found equal, .stays⟩
  | mrf ran => exact Front.mrfStep_moves found ran

theorem Front.Moves.bio (moves : front.Moves wiring place life inner life') : life'.bio = life.bio := by
  cases moves with
  | stays => rfl
  | hands => rfl
  | traces ran =>
      cases Life.traced ran <;> rfl
  | serves ran =>
      obtain ⟨clone, _, same⟩ := Option.map_eq_some_iff.mp ran
      subst same
      rfl
  | completes ran =>
      obtain ⟨handler, _, same⟩ := Option.map_eq_some_iff.mp ran
      subst same
      cases handler <;> rfl

/-- A clone reads whole blocks. -/
def ReadBio.Aligned (clone : ReadBio) : Prop :=
  ∃ block fits, clone = ⟨block * sectorsPerBlock, List.replicate fits pageSize⟩

/-- What holds of a write that has to be copied while nothing fails. -/
structure Life.Withheld (wiring : Wiring) (seen : (Nat → Nat) → Prop) (passed : WriteBio → Prop)
    (life : Life) : Prop where
  brings : life.Brings seen passed
  covers : life.Covers wiring.sectOff
  aligned : ∀ clone ∈ life.sent, clone.Aligned
  copied : life.bio.needsCow = true
  unmarked : life.pc ≠ .mark
  deferred : life.pc ≠ .returned false

theorem Life.Withheld.weaken (withheld : life.Withheld wiring seen passed)
    (more : ∀ data, seen data → seen' data) (kept : ∀ bio, passed bio → passed' bio) :
    life.Withheld wiring seen' passed' :=
  { withheld with brings := withheld.brings.weaken more kept }

theorem Life.Withheld.trace {failing : Bool} {fits : Nat}
    (withheld : life.Withheld wiring seen passed) (well : life.pc = .check → failing = false)
    (sound : ∀ error, turn.told ≠ some (.fail error))
    (taken : life.trace wiring failing fits = some turn) :
    turn.life.Withheld wiring seen passed := by
  have brings := withheld.brings.trace taken
  have covers := withheld.covers.trace taken sound
  -- A turn that sends no clone and goes on inside `snap_trace_bio`.
  have goes : turn.life.sent = life.sent → turn.life.bio = life.bio → turn.life.pc ≠ .mark →
      turn.life.pc ≠ .returned false → turn.life.Withheld wiring seen passed := by
    intro sent bio unmarked deferred
    exact ⟨brings, covers, by rw [sent]; exact withheld.aligned, by rw [bio]; exact withheld.copied,
      unmarked, deferred⟩
  cases Life.traced taken with
  | marked here => exact absurd here withheld.unmarked
  | passed here stops =>
      rcases stops with spared | failing
      · exact absurd (spared.symm.trans withheld.copied) (by decide)
      · exact absurd (failing.symm.trans (well here)) (by decide)
  | sends here =>
      have before := withheld.covers
      unfold Life.Covers at before
      rw [here] at before
      obtain ⟨count, fits, same, _⟩ := before
      refine ⟨brings, covers, ?_, withheld.copied, ?_, ?_⟩
      · intro other member
        rcases List.mem_append.mp member with sent | last
        · exact withheld.aligned other sent
        · exact ⟨_, fits, (List.mem_singleton.mp last).trans same⟩
      · split <;> nofun
      · split <;> nofun
  | unallocated => exact absurd rfl (sound _)
  | lost => exact absurd rfl (sound _)
  | _ => exact goes rfl rfl nofun nofun

/-- A step that reports no failure. -/
theorem Life.Withheld.moves (withheld : life.Withheld wiring seen passed)
    (found : front.lives[place]? = some life) (moves : front.Moves wiring place life inner life')
    (reads : front.Reads false inner)
    (sound : ∀ error, front.told wiring inner ≠ some (.fail error))
    (more : ∀ bio, passed bio → passed' bio)
    (adds : ∀ bio, front.told wiring inner = some (.addBio (.write bio)) → passed' bio)
    (read : ∀ index data, inner = .serve place index (.ok data) → seen data) :
    life'.Withheld wiring seen passed' := by
  cases moves with
  | stays => exact withheld.weaken (fun _ => id) more
  | hands =>
      exact { withheld with
        brings := (withheld.brings.of_same rfl rfl rfl).weaken (fun _ => id) more
        covers := withheld.covers }
  | traces ran =>
      rw [Front.told_trace found ran] at sound
      exact (withheld.trace (reads life found) sound ran).weaken (fun _ => id) more
  | serves ran =>
      have brings := withheld.brings.serve (fun data same => read _ data (by rw [same])) ran
      obtain ⟨clone, _, same⟩ := Option.map_eq_some_iff.mp ran
      subst same
      exact { withheld with
        brings := brings.weaken (fun _ => id) more
        covers := withheld.covers }
  | completes ran =>
      rw [Front.told_complete found ran] at sound adds
      have brings := withheld.brings.complete ran sound more adds
      obtain ⟨handler, _, same⟩ := Option.map_eq_some_iff.mp ran
      subst same
      cases handler <;> exact { withheld with brings, covers := withheld.covers }

/-- Without a report of a failure no write is lost. -/
theorem Front.keeps_of_sound (sound : ∀ error, front.told wiring inner ≠ some (.fail error)) :
    inner.Keeps wiring front := by
  cases inner with
  | trace place failing fits =>
      intro life found loses
      obtain ⟨build, here, failing⟩ := loses
      subst failing
      refine sound .enomem ?_
      simp [Front.told, Front.turn, found, Life.trace, here, build]
  | _ => trivial

/-- A device that has failed or crashed stays so. -/
theorem own_well {inner : SnapEvent} (own : TracerEvent.own (.snap inner) = true)
    (ran : device.step inner = some device') (well : device'.Well) : device.Well := by
  have running := step_told ran
  refine ⟨running, ?_⟩
  by_contra failed
  refine failed ?_
  simp only [SnapDevice.step, running, Bool.false_eq_true, if_false] at ran
  cases inner with
  | thread outcomes =>
      simp only at ran
      split at ran
      · exact ((thread_advances running (fun _ => failed) ran).well well).2
      · contradiction
  | reconfigure cacheSize =>
      simp only at ran
      split at ran
      · cases ran
        exact well.2
      · contradiction
  | swap =>
      simp only at ran
      split at ran
      · cases ran
        exact well.2
      · contradiction
  | stopOld =>
      simp only at ran
      split at ran
      · cases ran
        exact well.2
      · contradiction
  | umount =>
      simp only at ran
      split at ran
      · cases ran
        exact well.2
      · contradiction
  | flush noThread =>
      simp only at ran
      split at ran
      · cases ran
        exact (device.worker.flush_sticky noThread).1.symm.trans well.2
      · contradiction
  | destroy =>
      simp only at ran
      split at ran
      · cases ran
        exact well.2
      · contradiction
  | close outcomes =>
      simp only at ran
      split at ran
      · split at ran
        · cases ran
          exact (device.worker.close_sticky _ outcomes).1 well.2
        · cases ran
          exact (device.worker.close_sticky _ outcomes).1 well.2
        · contradiction
      · contradiction
  | reopen outcomes noThread =>
      simp only at ran
      split at ran
      · cases ran
        refine (device.worker.reopen_sticky outcomes noThread).1 ?_
        have unfailed := well.2
        unfold SnapDevice.reopen at unfailed
        exact unfailed
      · contradiction
  | _ => contradiction

theorem Site.Stepped.well (stepped : site.Stepped wiring device event next)
    (snapshot : site.tracer = .snap device) (still : next.tracer = .snap device')
    (well : device'.Well) : device.Well := by
  cases stepped with
  | silent chosen honest stepped untold =>
      cases snapshot.symm.trans still
      exact well
  | tells chosen honest stepped tells ran =>
      cases still
      have moved := stepped.told
      rw [tells] at moved
      exact ((hears (@Told.heard device _ _ _ moved).1 ran).well well).1
  | applies found handed =>
      cases snapshot.symm.trans still
      exact well
  | answers ran =>
      cases still
      exact (serve_advances ran).well well
  | reads ran =>
      cases still
      exact ((hears rfl ran).well well).1
  | steps own ran =>
      cases still
      exact own_well own ran well
  | leaves running active replaced exited => cases still

/-- Nothing of what the tracing side tells a device that is well after it is a failure. -/
theorem sound_of_well {told : SnapEvent} (stepped : front.Stepped wiring inner after)
    (tells : front.told wiring inner = some told) (ran : device.step told = some device')
    (well : device'.Well) : ∀ error, front.told wiring inner ≠ some (.fail error) := by
  intro error fails
  have moved := stepped.told
  rw [tells] at moved fails
  exact ((hears (@Told.heard device _ _ _ moved).1 ran).well well).2 error (Option.some.inj fails)

theorem Front.Sound.stepsSite (sound : site.front.Sound wiring)
    (stepped : site.Stepped wiring device event next) (still : next.tracer = .snap device')
    (well : device'.Well) : next.front.Sound wiring := by
  cases stepped with
  | silent chosen honest stepped untold =>
      exact sound.stepped (Front.keeps_of_sound (by rw [untold]; exact fun _ => nofun)) stepped
  | tells chosen honest stepped tells ran =>
      cases still
      exact sound.stepped (Front.keeps_of_sound (sound_of_well stepped tells ran well)) stepped
  | applies found handed => exact sound
  | answers ran => exact sound
  | reads ran => exact sound
  | steps own ran => exact sound
  | leaves running active replaced exited => exact sound

/-- The base device had this data at a point of the run at which the write was not handed
to it. -/
def Site.Seen (wiring : Wiring) (origin : Site) (place : Nat) (site : Site) (data : Nat → Nat) :
    Prop :=
  ∃ (middle : Site) (life : Life), Transition.Reachable (Site.step wiring) origin middle ∧
    Transition.Reachable (Site.step wiring) middle site ∧
    middle.front.lives[place]? = some life ∧ life.handed = [] ∧ data = middle.base

theorem Site.Seen.later {data : Nat → Nat} (seen : origin.Seen wiring place site data)
    (taken : site.step wiring event = some next) : origin.Seen wiring place next data := by
  obtain ⟨middle, life, before, between, found⟩ := seen
  exact ⟨middle, life, before, .next between trivial taken, found⟩

/-- What a step of a device that stays well makes of a write. -/
theorem Site.Stepped.withheld (stepped : site.Stepped wiring device event next)
    (tracing : Tracing elements content wiring site device) (sound : site.front.Sound wiring)
    (reached : Transition.Reachable (Site.step wiring) origin site)
    (taken : site.step wiring event = some next) (snapshot : site.tracer = .snap device)
    (still : next.tracer = .snap device') (well : device'.Well)
    (found : site.front.lives[place]? = some life)
    (withheld : life.Withheld wiring (origin.Seen wiring place site) device.Holds) :
    ∃ life', next.front.lives[place]? = some life' ∧ life'.bio = life.bio ∧
      life'.Withheld wiring (origin.Seen wiring place next) device'.Holds := by
  have before := stepped.well snapshot still well
  have running : device.worker.failCode.isSome = false := by rw [before.2]; rfl
  -- A step of the tracing side, which may have told the device something.
  have moves : ∀ {inner : FrontEvent} {front : Front} {passed : WriteBio → Prop},
      event.inner site = some inner → site.front.Reads device.worker.failCode.isSome inner →
      site.front.Stepped wiring inner front →
      (∀ error, site.front.told wiring inner ≠ some (.fail error)) →
      (∀ bio, device.Holds bio → passed bio) →
      (∀ bio, site.front.told wiring inner = some (.addBio (.write bio)) → passed bio) →
      ∃ life', front.lives[place]? = some life' ∧ life'.bio = life.bio ∧
        life'.Withheld wiring (origin.Seen wiring place next) passed := by
    intro inner front passed chosen honest stepped untold kept adds
    obtain ⟨life', found', moves⟩ := stepped.moves found
    rw [running] at honest
    refine ⟨life', found', moves.bio, ?_⟩
    have later := withheld.weaken (fun _ seen => seen.later taken) (fun _ => id)
    refine later.moves found moves honest untold kept adds ?_
    intro index data answer
    subst answer
    -- The data is the base device's, as it is before this step.
    have base : data = site.base := by
      cases event with
      | front other =>
          simp only [SiteEvent.inner] at chosen
          split at chosen
          · contradiction
          · rename_i unserved
            cases chosen
            exact absurd rfl unserved
      | answer other position error =>
          cases error with
          | none =>
              cases chosen
              rfl
          | some error => cases chosen
      | _ => contradiction
    have unhanded : life.handed = [] := by
      cases stepped with
      | @serve _ _ _ other turn here ran =>
          cases found.symm.trans here
          by_contra handed
          have done := (sound.lives found).complete_of_handed handed
          simp [Life.serve, done.1] at ran
    exact ⟨site, life, reached, .next .refl trivial taken, found, unhanded, base⟩
  have stays : next.front = site.front → (∀ bio, device.Holds bio → device'.Holds bio) →
      ∃ life', next.front.lives[place]? = some life' ∧ life'.bio = life.bio ∧
        life'.Withheld wiring (origin.Seen wiring place next) device'.Holds := by
    intro same kept
    rw [same]
    exact ⟨life, found, rfl, withheld.weaken (fun _ seen => seen.later taken) kept⟩
  cases stepped with
  | silent chosen honest stepped untold =>
      cases snapshot.symm.trans still
      exact moves chosen honest stepped (by simp [untold]) (fun _ => id) (by simp [untold])
  | tells chosen honest stepped tells ran =>
      cases still
      have moved := stepped.told
      rw [tells] at moved
      have hears := hears (@Told.heard device _ _ _ moved).1 ran
      refine moves chosen honest stepped (sound_of_well stepped tells ran well)
        (fun bio holds => hears.holds.mpr (.inl holds)) ?_
      intro bio added
      rw [tells] at added
      cases added
      exact hears.holds.mpr (.inr (List.mem_singleton_self bio))
  | applies handed _ =>
      cases snapshot.symm.trans still
      exact stays rfl fun _ => id
  | answers ran =>
      cases still
      exact stays rfl (serve_advances ran).kept
  | reads ran =>
      cases still
      exact stays rfl fun bio holds => (hears rfl ran).holds.mpr (.inl holds)
  | steps own ran =>
      cases still
      exact stays rfl (tracing.own_advances before.2 own ran).2.kept
  | leaves running active replaced exited => cases still

theorem fillVecs_captures (data : Nat → Nat) (block fits : Nat) :
    vecCaptures block (fillVecs data (block * sectorsPerBlock) (List.replicate fits pageSize)) =
      (List.range' block fits).map fun block =>
        (block, fun word => data (block * sectorsPerBlock * sectorWords + word)) := by
  induction fits generalizing block with
  | zero => rfl
  | succ fits ih =>
      have later := ih (block + 1)
      rw [Nat.succ_mul] at later
      simp only [List.replicate_succ, fillVecs, vecCaptures, List.range'_succ, List.map_cons]
      rw [← later]
      rfl

/-- What a clone captures of one of its blocks. -/
theorem ReadBio.Aligned.captures {clone : ReadBio} (aligned : clone.Aligned) {data : Nat → Nat}
    {block : Nat} (inside : block ∈ (clone.fill data).blocks) :
    (block, fun word => data (block * sectorsPerBlock * sectorWords + word)) ∈
      (clone.fill data).captures := by
  obtain ⟨first, fits, same⟩ := aligned
  subst same
  have whole : first * sectorsPerBlock / sectorsPerBlock = first :=
    Nat.mul_div_cancel first (by decide)
  have captures : (ReadBio.fill ⟨first * sectorsPerBlock, List.replicate fits pageSize⟩
      data).captures = (List.range' first fits).map fun block =>
        (block, fun word => data (block * sectorsPerBlock * sectorWords + word)) := by
    change vecCaptures (first * sectorsPerBlock / sectorsPerBlock) _ = _
    rw [whole]
    exact fillVecs_captures data first fits
  unfold WriteBio.blocks at inside
  rw [captures] at inside ⊢
  obtain ⟨pair, member, same⟩ := List.mem_map.mp inside
  obtain ⟨other, within, equal⟩ := List.mem_map.mp member
  subst equal
  have same : other = block := same
  subst same
  exact List.mem_map_of_mem within

/-- The block is captured with data that was seen: it waits for the thread, the thread has
it, or is done with it, and the index of a running device has the block then. -/
def SnapDevice.Captures (device : SnapDevice) (seen : (Nat → Nat) → Prop) (block : Nat) : Prop :=
  ∃ (bio : WriteBio) (data : Nat → Nat), seen data ∧
    (block, fun word => data (block * sectorsPerBlock * sectorWords + word)) ∈ bio.captures ∧
    (.write bio ∈ device.bios ∨ bio ∈ device.pc.inHand ∨ bio ∈ device.handled ∧
      (device.worker.phase = .active → device.worker.cow.lookup block ≠ 0))

theorem Tracing.captures (tracing : Tracing elements content wiring site device)
    (well : device.Well) {bio : WriteBio} (holds : device.Holds bio) {data : Nat → Nat}
    (read : seen data) {block : Nat}
    (captured : (block, fun word => data (block * sectorsPerBlock * sectorWords + word)) ∈
      bio.captures) : device.Captures seen block := by
  refine ⟨bio, data, read, captured, ?_⟩
  rcases holds with queued | taken
  · exact .inl queued
  · rw [tracing.passed well] at taken
    rcases List.mem_append.mp taken with handled | held
    · have inside : block ∈ bio.blocks := List.mem_map_of_mem captured
      exact .inr (.inr ⟨handled, fun active => (tracing.mapped well active handled inside).2⟩)
    · exact .inr (.inl held)

/-- A write that was handed over has its blocks captured. -/
theorem Life.Withheld.captured (withheld : life.Withheld wiring seen device.Holds)
    (tracing : Tracing elements content wiring site device) (sound : site.front.Sound wiring)
    (well : device.Well) (found : site.front.lives[place]? = some life) (handed : life.handed ≠ [])
    {block : Nat} (inside : block ∈ life.blocks wiring.sectOff) : device.Captures seen block := by
  have sound := sound.lives found
  obtain ⟨flight, handlers⟩ := sound.complete_of_handed handed
  have out : life.out = true := by
    have placed := sound.placed
    have some : 0 < life.handed.length := List.length_pos_iff.mpr handed
    by_contra kept
    simp only [kept, if_false] at placed
    omega
  have returned : life.pc = .returned true := by
    have deferred := withheld.deferred
    unfold Life.out at out
    split at out
    · rename_i done here
      cases done with
      | true => exact here
      | false => exact absurd here deferred
    · contradiction
  have covers := withheld.covers
  unfold Life.Covers at covers
  rw [returned] at covers
  have range := List.mem_range'_1.mp inside
  obtain ⟨clone, sent, blocks⟩ := covers block range.1 range.2
  rcases withheld.brings clone sent with flies | ⟨handler, busy, _⟩ | ⟨data, read, holds⟩
  · rw [flight] at flies
    contradiction
  · rw [handlers] at busy
    contradiction
  · exact tracing.captures well holds read ((withheld.aligned clone sent).captures (blocks data))

/-- The blocks of a write cover its sectors. -/
theorem Life.mem_blocks {sectOff sector : Nat} (after : sectOff ≤ life.bio.sector)
    (lower : life.bio.sector ≤ sector) (upper : sector < life.bio.sector + life.bio.count) :
    (sector - sectOff) / sectorsPerBlock ∈ life.blocks sectOff := by
  unfold Life.blocks Life.range
  dsimp only
  rw [Nat.mul_div_cancel _ (by decide), List.mem_range'_1]
  unfold numSegments sectorsPerBlock blockLogSectors
  omega

end Moocbt.Device
