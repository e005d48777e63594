import Moocbt.Device.PointInTime
import Moocbt.Device.Teardown
import Moocbt.Device.Volume

/-! What is recorded of a write: in incremental mode by the sector sets of `inc_trace_bio`, in
snapshot mode by what is captured before the base device serves it. -/

namespace Moocbt.Device

open Cow Program

variable {wiring : Wiring} {elements sectOff : Nat} {base : Nat → Nat}
  {device device' : IncDevice} {write : TracedWrite} {data : Nat → Nat} {marking : Marking}
  {word : Nat}

section writes

/-- The write brings no bytes of the COW file to the block. -/
def TracedWrite.Watches (write : TracedWrite) (sectOff block : Nat) : Prop :=
  ∀ byte, write.foreignBytes[byte]? = some false →
    (write.bio.iter.sector - sectOff + byte / sectorSize) / sectorsPerBlock ≠ block

/-- The bytes of the write are whole sectors of the device, in its pages, and each segment up
to the last with foreign bytes is made of whole sectors. -/
structure TracedWrite.Recordable (write : TracedWrite) (sectOff : Nat) : Prop where
  placed : sectOff ≤ write.bio.iter.sector
  sectors : sectorSize ∣ write.bio.iter.size
  pages : write.op ≠ .writeZeroes → vecBytes write.bio.segments = write.bio.iter.size
  whole : write.WholeSectors

theorem marks_length {α : Type} (marked : α → Bool) (size : α → Nat) (items : List α) :
    (Runs.marks marked size items).length = (items.map size).sum := by
  induction items with
  | nil => rfl
  | cons item rest ih =>
      rw [Runs.marks_cons, List.length_append, List.length_replicate, ih, List.map_cons,
        List.sum_cons]

theorem TracedWrite.Recordable.bytes (recordable : write.Recordable sectOff) :
    write.foreignBytes.length = write.bio.iter.size := by
  unfold foreignBytes
  split
  · exact List.length_replicate
  · rename_i pages
    rw [marks_length]
    exact recordable.pages pages

theorem TracedWrite.Recordable.covers (recordable : write.Recordable sectOff) {byte : Nat}
    (foreign : write.foreignBytes[byte]? = some true) :
    ∃ sset ∈ write.ssets sectOff,
      sset.Has (write.bio.iter.sector - sectOff + byte / sectorSize) := by
  by_cases zeroes : write.op = .writeZeroes
  · exact (records_zeroes zeroes recordable.sectors).covers byte foreign
  · rcases recordable.whole with zeroes' | aligned
    · exact absurd zeroes' zeroes
    · exact (covers_iff zeroes recordable.placed).mpr aligned byte foreign

theorem SectorSet.mem_blocks_of_has {sset : SectorSet} {sector : Nat} (has : sset.Has sector) :
    sector / sectorsPerBlock ∈ sset.blocks := by
  obtain ⟨lower, upper⟩ := has
  exact (mem_blocks_iff (by omega)).mpr ⟨sector, lower, upper, rfl⟩

/-- What a write changes of a watched block is recorded. -/
theorem TracedWrite.Recordable.orig_apart (recordable : write.Recordable sectOff)
    (watched : write.Watches sectOff (word / blockWords))
    (apart : ∀ sset ∈ write.ssets sectOff, word / blockWords ∉ sset.blocks) :
    (write.orig data).write sectOff base word = base word := by
  unfold OrigBio.write TracedWrite.orig
  refine if_neg fun inside => ?_
  dsimp only at inside
  obtain ⟨lower, upper⟩ := inside
  obtain ⟨count, size⟩ := recordable.sectors
  rw [size, Nat.mul_div_cancel_left _ (by decide)] at upper
  generalize first : write.bio.iter.sector - sectOff = start at lower upper
  have after : start ≤ word / sectorWords := (Nat.le_div_iff_mul_le (by decide)).mpr lower
  have before : word / sectorWords < start + count := Nat.div_lt_of_lt_mul (by
    rw [Nat.mul_comm]
    exact upper)
  have byte : (word / sectorWords - start) * sectorSize / sectorSize = word / sectorWords - start :=
    Nat.mul_div_cancel _ (by decide)
  have sector : start + (word / sectorWords - start) * sectorSize / sectorSize =
      word / sectorWords := by
    rw [byte]
    omega
  have here : word / sectorWords / sectorsPerBlock = word / blockWords := by
    rw [Nat.div_div_eq_div_mul]
    rfl
  have bound : (word / sectorWords - start) * sectorSize < write.foreignBytes.length := by
    rw [recordable.bytes, size]
    unfold sectorSize
    omega
  cases found : write.foreignBytes.get ⟨(word / sectorWords - start) * sectorSize, bound⟩ with
  | false =>
      refine watched _ ((List.getElem?_eq_getElem bound).trans (congrArg some found)) ?_
      rw [first, sector, here]
  | true =>
      obtain ⟨sset, member, has⟩ :=
        recordable.covers ((List.getElem?_eq_getElem bound).trans (congrArg some found))
      rw [first, sector] at has
      exact apart sset member (here ▸ SectorSet.mem_blocks_of_has has)

/-- The sets of a write are recorded, or still to be. -/
structure Marking.Sound (sectOff : Nat) (recorded : List Nat) (marking : Marking) : Prop where
  recordable : marking.write.Recordable sectOff
  recorded : ∀ sset ∈ marking.write.ssets sectOff,
    (∀ block ∈ sset.blocks, block ∈ recorded) ∨
      ∃ call ∈ marking.calls, call.relative sectOff = sset

variable {recorded recorded' : List Nat}

theorem Marking.Sound.weaken (sound : marking.Sound sectOff recorded)
    (more : ∀ block ∈ recorded, block ∈ recorded') : marking.Sound sectOff recorded' where
  recordable := sound.recordable
  recorded sset member := by
    rcases sound.recorded sset member with done | waits
    · exact .inl fun block inside => more block (done block inside)
    · exact .inr waits

theorem Marking.Sound.begin (recordable : write.Recordable sectOff) :
    (Marking.mk write data write.incTraceBio false).Sound sectOff recorded where
  recordable := recordable
  recorded sset member := by
    obtain ⟨call, made, same⟩ := List.mem_map.mp member
    exact .inr ⟨call, made, same⟩

/-- The next call is made. -/
theorem Marking.Sound.mark {call : SectorSet} {rest : List SectorSet}
    (sound : marking.Sound sectOff recorded) (calls : marking.calls = call :: rest)
    (more : ∀ block ∈ recorded, block ∈ recorded')
    (made : ∀ block ∈ (call.relative sectOff).blocks, block ∈ recorded') :
    Marking.Sound sectOff recorded' { marking with calls := rest } where
  recordable := sound.recordable
  recorded sset member := by
    rcases sound.recorded sset member with done | waits
    · exact .inl fun block inside => more block (done block inside)
    · obtain ⟨other, waiting, same⟩ := waits
      rw [calls] at waiting
      rcases List.mem_cons.mp waiting with first | later
      · subst first same
        exact .inl made
      · exact .inr ⟨other, later, same⟩

end writes

section incremental

def IncDevice.Well (device : IncDevice) : Prop :=
  device.worker.crashed = false ∧ device.worker.failCode = none

/-- What a step that queues no sector set leaves of what a device recorded. A device that is
well after it was so before, and dropped nothing. -/
structure IncDevice.Keeps (device next : IncDevice) : Prop where
  inherited : next.inherited = device.inherited
  sectOff : next.sectOff = device.sectOff
  queued : next.queued = device.queued
  order : device.queued = device.taken ++ device.ssets.values →
    next.queued = next.taken ++ next.ssets.values
  well : next.Well → device.Well ∧ (device.dropped = [] → next.dropped = [])

/-- A step that leaves the queues and the histories alone. -/
theorem IncDevice.Keeps.works (running : device.worker.crashed = false) {worker : Worker}
    {pc : IncPc} {tracing truncating : Bool}
    (sticky : worker.failCode = none → device.worker.failCode = none) :
    device.Keeps { device with worker, pc, tracing, truncating } :=
  ⟨rfl, rfl, rfl, id, fun well => ⟨⟨running, sticky well.2⟩, id⟩⟩

theorem IncDevice.Keeps.free (keeps : device.Keeps device') (addr : Nat) :
    device.Keeps (device'.freeSset addr) := by
  unfold freeSset
  split
  · exact ⟨keeps.inherited, keeps.sectOff, keeps.queued, keeps.order, keeps.well⟩
  · exact ⟨keeps.inherited, keeps.sectOff, keeps.queued, keeps.order,
      fun well => absurd well.1 (by simp)⟩

theorem IncDevice.Keeps.thread {outcomes : List Outcome} (running : device.worker.crashed = false)
    (taken : device.threadStep outcomes = some device') : device.Keeps device' := by
  cases here : device.pc with
  | testStop | testQueue | testEmpty =>
      simp only [threadStep, here] at taken
      cases taken
      exact .works running id
  | waitEvent =>
      simp only [threadStep, here] at taken
      split at taken
      · cases taken
        exact .works running id
      · contradiction
  | readFail =>
      simp only [threadStep, here] at taken
      cases taken
      exact .works running (Worker.noticeFailure_failCode device.worker outcomes).symm.trans
  | dequeue =>
      simp only [threadStep, here] at taken
      split at taken
      · cases taken
        exact .works running id
      · rename_i popped
        cases taken
        refine ⟨rfl, rfl, rfl, fun order => ?_, fun well => ⟨well, id⟩⟩
        rw [LinkedQueue.values_of_pop popped] at order
        simpa using order
  | handle addr sset =>
      simp only [threadStep, here] at taken
      split at taken
      · cases taken
        exact (IncDevice.Keeps.works running id).free addr
      · cases taken
        refine IncDevice.Keeps.free ?_ addr
        have ran := @Worker.run_well Unit device.worker (incHandleSset sset) outcomes
        refine ⟨rfl, rfl, rfl, id, fun well => ⟨⟨running, ran.1 well.2⟩, fun none => ?_⟩⟩
        dsimp only
        rw [if_pos (ran.2 well.1 well.2)]
        exact none
  | exited =>
      simp only [threadStep, here] at taken
      contradiction

theorem IncDevice.Keeps.truncates (running : device.worker.crashed = false)
    (outcomes : List Outcome) : device.Keeps (device.truncate outcomes) := by
  unfold truncate
  split <;> exact .works running id

theorem IncDevice.Keeps.step {inner : IncEvent}
    (plain : ∀ sect len addr, inner ≠ .makeSset sect len addr)
    (taken : device.step inner = some device') : device.Keeps device' := by
  unfold IncDevice.step at taken
  split at taken
  · contradiction
  rename_i running
  have running : device.worker.crashed = false := by simpa using running
  cases inner with
  | makeSset sect len addr => exact absurd rfl (plain sect len addr)
  | thread outcomes =>
      simp only at taken
      split at taken
      · exact .thread running taken
      · contradiction
  | truncate outcomes =>
      simp only at taken
      split at taken
      · cases taken
        exact .truncates running outcomes
      · contradiction
  | close outcomes =>
      simp only at taken
      split at taken
      · obtain ⟨ending, _, same⟩ := Option.map_eq_some_iff.mp taken
        subst same
        exact .works running (device.worker.close_sticky ending outcomes).1
      · contradiction
  | reopen outcomes noThread =>
      simp only at taken
      split at taken
      · cases taken
        exact .works running (device.worker.reopen_sticky outcomes noThread).1
      · contradiction
  | flush noThread =>
      simp only at taken
      split at taken
      · cases taken
        exact .works running (device.worker.flush_sticky noThread).1.symm.trans
      · contradiction
  | reconfigure | swap | stopOld | umount | destroy =>
      simp only at taken
      split at taken
      · cases taken
        exact .works running id
      · contradiction

/-- What holds of a device in incremental mode that is well. -/
structure IncDevice.Recording (elements sectOff : Nat) (device : IncDevice) : Prop where
  guard : ∃ done, IncGuard elements done device
  dropped : device.dropped = []
  sectOff : device.sectOff = sectOff
  order : device.queued = device.taken ++ device.ssets.values

theorem IncDevice.Recording.step {inner : IncEvent} (inv : device.Recording elements sectOff)
    (plain : ∀ sect len addr, inner ≠ .makeSset sect len addr) (spared : inner.Spared device)
    (taken : device.step inner = some device') (well : device'.Well) :
    device'.Recording elements sectOff := by
  have keeps := IncDevice.Keeps.step plain taken
  obtain ⟨done, guard⟩ := inv.guard
  have noticed : inner.Noticed device := by
    cases inner with
    | close outcomes => exact .inr (.inr inv.dropped)
    | thread outcomes => exact spared
    | _ => trivial
  exact {
    guard := incStep_guard guard noticed taken
    dropped := (keeps.well well).2 inv.dropped
    sectOff := keeps.sectOff.trans inv.sectOff
    order := keeps.order inv.order }

/-- A device is well after a call of `inc_make_sset` that got memory. -/
theorem IncDevice.makeSset_well {sect len : Nat} {addr : Option Nat}
    (made : device.makeSset sect len addr = some device') (well : device'.Well) :
    device.Well ∧ addr.isSome = true := by
  cases addr with
  | none =>
      cases made
      exact (Worker.setFailState_none well.2).elim
  | some addr =>
      unfold makeSset at made
      simp only at made
      split at made
      · cases made
        exact ⟨well, rfl⟩
      · contradiction

theorem IncDevice.deliver_well {calls : List (SectorSet × Option Nat)}
    (made : device.deliver calls = some device') (well : device'.Well) :
    device.Well ∧ ∀ call ∈ calls, call.2.isSome = true := by
  induction calls generalizing device with
  | nil =>
      cases made
      exact ⟨well, fun call member => absurd member List.not_mem_nil⟩
  | cons call rest ih =>
      obtain ⟨later, first, made⟩ := Option.bind_eq_some_iff.mp made
      obtain ⟨well', others⟩ := ih made
      obtain ⟨before, served⟩ := makeSset_well first well'
      exact ⟨before, List.forall_mem_cons.mpr ⟨served, others⟩⟩

theorem IncDevice.Recording.makes {sect len : Nat} {addr : Option Nat}
    (inv : device.Recording elements sectOff)
    (made : device.makeSset sect len addr = some device') (well : device'.Well) :
    device'.Recording elements sectOff ∧ device'.inherited = device.inherited ∧
      device'.queued = device.queued ++ [SectorSet.relative sectOff ⟨sect, len⟩] := by
  obtain ⟨before, served⟩ := makeSset_well made well
  obtain ⟨addr, rfl⟩ := Option.isSome_iff_exists.mp served
  obtain ⟨queued, offset⟩ := makeSset_queued made
  rw [inv.sectOff] at queued
  unfold makeSset at made
  simp only at made
  split at made
  · cases made
    obtain ⟨done, guard⟩ := inv.guard
    refine ⟨⟨⟨done, guard.guarded, guard.order, guard.placed, guard.truncating⟩, inv.dropped,
      inv.sectOff, ?_⟩, rfl, queued⟩
    rw [LinkedQueue.add_values, ← List.append_assoc, ← inv.order]
  · contradiction

/-- The calls that were made before the thread runs. -/
theorem IncDevice.Recording.delivers {calls : List (SectorSet × Option Nat)}
    (inv : device.Recording elements sectOff) (made : device.deliver calls = some device')
    (well : device'.Well) :
    device'.Recording elements sectOff ∧ device'.inherited = device.inherited ∧
      device'.queued = device.queued ++ calls.map fun call => call.1.relative sectOff := by
  induction calls generalizing device with
  | nil =>
      cases made
      exact ⟨inv, rfl, (List.append_nil _).symm⟩
  | cons call rest ih =>
      obtain ⟨later, first, made⟩ := Option.bind_eq_some_iff.mp made
      obtain ⟨inv', inherited, queued⟩ := inv.makes first (deliver_well made well).1
      obtain ⟨last, inherited', queued'⟩ := ih inv' made
      refine ⟨last, inherited'.trans inherited, ?_⟩
      rw [queued', queued, List.append_assoc]
      rfl

/-- A device that took over from a snapshot whose thread has returned. -/
theorem IncDevice.Recording.takesOver {snap : SnapDevice} {content : Nat → Option (Nat → Nat)}
    {done : List WriteBio} (guard : SnapGuard elements content done snap)
    (running : snap.worker.crashed = false) (exited : snap.pc = .exited)
    (active : snap.worker.phase = .active) :
    (snap.toInc sectOff).Recording elements sectOff where
  guard := ⟨[], toInc_guard sectOff guard running exited active⟩
  dropped := rfl
  sectOff := rfl
  order := rfl

/-- A device that goes on with the file after an umount finds in the index what the device
before it handled. -/
theorem IncDevice.Recording.reloads {cacheSize : Nat} {outcomes : List Outcome} {cow : CowState}
    (inv : device.Recording elements sectOff) (running : device.worker.crashed = false)
    (dormant : device.worker.phase = .dormant)
    (ran : cowReload elements cowSectionSize cacheSize true { device.worker.cow with outcomes } =
      (.ok (), cow)) : (device.reloaded cow).Recording elements sectOff := by
  obtain ⟨done, guard⟩ := inv.guard
  have exited := guard.placed.ended (by simp [dormant]) (by simp [dormant])
  have order := guard.order
  rw [exited] at order
  have taken : device.taken = done := order.trans (List.append_nil done)
  obtain ⟨map, rests, entries⟩ := guard.guarded.resting running dormant
  have spec := wp_and (reload_simulates cacheSize true (Rests.of_outcomes rests outcomes))
    (reload_creates elements cacheSize true)
  obtain ⟨⟨live, agrees⟩, _, managed⟩ := wp_done spec ran
  have marked := Marked.of_agrees live agrees entries
  have required : (device.reloaded cow).required [] = device.required done := by
    unfold IncDevice.required reloaded
    rw [taken]
    exact List.append_nil _
  refine ⟨⟨[], ?_, rfl, .of_active rfl, fun truncating => ?_⟩, rfl, inv.sectOff, rfl⟩
  · rw [required]
    exact Guarded.fresh marked (managed.dirty live.opened) none
  · cases truncating

end incremental

section sites

variable {site after : Site} {snap snap' : SnapDevice} {life : Life} {recorded : List Nat}
  {act : SiteEvent}

/-- The writes of the tracing side begin in the device. -/
def Front.Placed (wiring : Wiring) (front : Front) : Prop :=
  ∀ life ∈ front.lives, wiring.sectOff ≤ life.bio.sector

/-- A step guards no more blocks, and changes the base device at most where blocks are
recorded. -/
structure Site.Confines (wiring : Wiring) (recorded : List Nat) (site next : Site) : Prop where
  guards : ∀ block, next.front.Guards wiring block → site.front.Guards wiring block
  placed : next.front.Placed wiring
  kept : ∀ word, word / blockWords ∉ recorded → site.front.Guards wiring (word / blockWords) →
    next.base word = site.base word

/-- A step in which nothing is written. -/
theorem Site.Confines.of_stepped {front : Front} {inner : FrontEvent} {tracer : Tracer}
    (placed : site.front.Placed wiring) (stepped : site.front.Stepped wiring inner front) :
    Site.Confines wiring recorded site { site with front, tracer } where
  guards _ := PointInTime.guards stepped
  placed := stepped.placed placed
  kept _ _ _ := rfl

theorem Site.Confines.of_same {tracer : Tracer} (placed : site.front.Placed wiring) :
    Site.Confines wiring recorded site { site with tracer } :=
  ⟨fun _ => id, placed, fun _ _ _ => rfl⟩

/-- A write reaches the base device. -/
theorem Site.Confines.applies {place : Nat} {applied : List Nat} (placed : site.front.Placed wiring)
    (found : site.front.lives[place]? = some life)
    (captured : life.bio.needsCow = true → ∀ block ∈ life.blocks wiring.sectOff,
      block ∈ recorded) :
    Site.Confines wiring recorded site
      { site with base := life.bio.write wiring.sectOff site.base, applied } where
  guards _ := id
  placed := placed
  kept word absent guarded := by
    have member := List.mem_of_getElem? found
    have apart : word / blockWords ∉ life.blocks wiring.sectOff := by
      intro touched
      cases copied : life.bio.needsCow with
      | false => exact guarded life member copied touched
      | true => exact absent (captured copied _ touched)
    have same := PointInTime.write_apart (placed life member) apart
      (Nat.mod_lt word (by decide)) site.base
    rw [blockOf_apply, blockOf_apply, Nat.div_add_mod'] at same
    exact same

/-- What holds of a snapshot in which nothing has failed. -/
structure SnapTracks (elements : Nat) (wiring : Wiring) (site : Site) (snap : SnapDevice) :
    Prop where
  tracing : Tracing elements (fun _ => none) wiring site snap
  sound : site.front.Sound wiring
  draining : Draining site snap
  withheld : ∀ life ∈ site.front.lives, life.bio.needsCow = true →
    life.Withheld wiring (fun _ => True) snap.Holds

/-- The blocks of the bios that were captured. -/
def SnapDevice.captured (snap : SnapDevice) : List Nat := snap.sequence.flatMap WriteBio.blocks

theorem SnapDevice.mem_captured {block : Nat} :
    block ∈ snap.captured ↔ ∃ bio, snap.Holds bio ∧ block ∈ bio.blocks := by
  simp only [captured, List.mem_flatMap, holds_iff]

theorem SnapDevice.captured_of_holds (kept : ∀ bio, snap.Holds bio → snap'.Holds bio) :
    ∀ block ∈ snap.captured, block ∈ snap'.captured := by
  intro block inside
  obtain ⟨bio, holds, inside⟩ := mem_captured.mp inside
  exact mem_captured.mpr ⟨bio, kept bio holds, inside⟩

/-- A write that was handed to the base device is captured. -/
theorem SnapTracks.captures {place : Nat} (inv : SnapTracks elements wiring site snap)
    (well : snap.Well) (found : site.front.lives[place]? = some life) (handed : life.handed ≠ [])
    (copied : life.bio.needsCow = true) : ∀ block ∈ life.blocks wiring.sectOff,
      block ∈ snap.captured := by
  intro block inside
  have captures := (inv.withheld life (List.mem_of_getElem? found) copied).captured inv.tracing
    inv.sound well found handed inside
  obtain ⟨bio, held, inside⟩ :=
    recorded_isSome.mp (PointInTime.captures_recorded well inv.tracing captures)
  exact List.mem_flatMap.mpr ⟨bio, held, inside⟩

theorem SnapTracks.step (inv : SnapTracks elements wiring site snap)
    (isSnapshot : wiring.snapshot = true)
    (placed : site.front.Placed wiring) (stepped : site.Stepped wiring snap act after)
    (snapshot : site.tracer = .snap snap) (still : after.tracer = .snap snap') (well : snap'.Well)
    (calm : act.Calm wiring site) (fenced : act.Fenced wiring site) :
    SnapTracks elements wiring after snap' ∧ site.Confines wiring snap.captured after ∧
      ∀ block ∈ snap.captured, block ∈ snap'.captured := by
  have before := stepped.well snapshot still well
  have running : snap.worker.failCode.isSome = false := by
    rw [before.2]
    rfl
  have tracing := inv.tracing.step before.2 snapshot stepped still
  have sound := inv.sound.stepsSite stepped still well
  have draining := inv.draining.step inv.tracing snapshot calm fenced stepped still
  have keeps : (∀ bio, snap.Holds bio → snap'.Holds bio) → after.front = site.front →
      SnapTracks elements wiring after snap' := by
    intro kept same
    refine ⟨tracing, sound, draining, ?_⟩
    rw [same]
    exact fun life member copied =>
      (inv.withheld life member copied).weaken (fun _ => id) kept
  cases stepped with
  | silent chosen honest stepped untold =>
      cases snapshot.symm.trans still
      rw [running] at honest
      refine ⟨⟨tracing, sound, draining, ?_⟩, .of_stepped placed stepped, fun _ => id⟩
      exact stepped.withholds isSnapshot honest (by simp [untold]) (fun _ => id) (by simp [untold])
        inv.withheld
  | @tells _ _ told _ _ chosen honest stepped tells ran =>
      cases still
      have moved := stepped.told
      rw [tells] at moved
      have hears := hears (@Told.heard snap _ _ _ moved).1 ran
      rw [running] at honest
      have kept : ∀ bio, snap.Holds bio → snap'.Holds bio :=
        fun bio holds => hears.holds.mpr (.inl holds)
      refine ⟨⟨tracing, sound, draining, ?_⟩, .of_stepped placed stepped,
        SnapDevice.captured_of_holds kept⟩
      refine stepped.withholds isSnapshot honest (sound_of_well stepped tells ran well) kept ?_
        inv.withheld
      intro bio added
      cases tells.symm.trans added
      exact hears.holds.mpr (.inr (List.mem_singleton_self bio))
  | applies found handed =>
      cases snapshot.symm.trans still
      refine ⟨keeps (fun _ => id) rfl, .applies placed found ?_, fun _ => id⟩
      refine inv.captures before found fun none => ?_
      rw [none] at handed
      exact absurd handed (Nat.not_lt_zero _)
  | answers ran =>
      cases still
      have kept := (serve_advances ran).kept
      exact ⟨keeps kept rfl, .of_same placed, SnapDevice.captured_of_holds kept⟩
  | reads ran =>
      cases still
      have kept : ∀ bio, snap.Holds bio → snap'.Holds bio :=
        fun bio holds => (hears rfl ran).holds.mpr (.inl holds)
      exact ⟨keeps kept rfl, .of_same placed, SnapDevice.captured_of_holds kept⟩
  | steps own ran =>
      cases still
      have kept := (inv.tracing.own_advances before.2 own ran).2.kept
      exact ⟨keeps kept rfl, .of_same placed, SnapDevice.captured_of_holds kept⟩
  | leaves running active replaced exited => cases still

/-- The snapshot is replaced while no write is in the tracing function: all its blocks were
handled. -/
theorem SnapTracks.leaves (inv : SnapTracks elements wiring site snap) (well : snap.Well)
    (exited : snap.pc = .exited) (returned : ∀ life ∈ site.front.lives, life.Returned) :
    (∀ block ∈ snap.captured, block ∈ snap.taken.flatMap WriteBio.blocks) ∧
      ∀ life ∈ site.front.lives, life.bio.needsCow = true →
        ∀ block ∈ life.blocks wiring.sectOff, block ∈ snap.taken.flatMap WriteBio.blocks := by
  have drained := (inv.draining.exited well exited).2
  constructor
  · intro block inside
    obtain ⟨bio, holds, inside⟩ := SnapDevice.mem_captured.mp inside
    rcases holds with waits | taken
    · exact absurd waits (drained bio)
    · exact List.mem_flatMap.mpr ⟨bio, taken, inside⟩
  · intro life member copied block inside
    have withheld := inv.withheld life member copied
    obtain ⟨deferred, here⟩ := returned life member
    have traced : life.pc = .returned true := by
      cases deferred with
      | true => exact here
      | false => exact absurd here withheld.deferred
    have covers := withheld.covers
    unfold Life.Covers at covers
    rw [traced] at covers
    have range := List.mem_range'_1.mp inside
    obtain ⟨clone, sent, captures⟩ := covers block range.1 range.2
    obtain ⟨data, handled⟩ := inv.draining.handled inv.tracing well exited member sent
    refine List.mem_flatMap.mpr ⟨clone.fill data, ?_, captures data⟩
    rw [inv.tracing.passed well]
    exact List.mem_append_left _ handled

end sites

end Moocbt.Device
