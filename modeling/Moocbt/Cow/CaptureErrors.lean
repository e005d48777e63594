import Moocbt.Cow.DataArea

/-! `cow_write_current` when it fails. It maps the block before it writes the data and
moves the head, so that a failure after the change of the entry leaves the block mapped
to a position without its data, and the next block is given the same position. -/

namespace Moocbt.Cow

open Program WriteOnce

variable {elements block : Nat} {state after last : CowState} {buf : Nat → Nat}
  {content : Nat → Option (Nat → Nat)}

/-- `cow_write_current` up to the change of the entry: nothing for a block that has a
mapping, else the position for it and the slot of its entry. -/
def cowReadyCapture (block : Nat) : CowM (Option (Nat × Slot)) := do
  let blockMapping ← cowReadMapping block
  if blockMapping ≠ 0 then pure none
  else do
    let cm ← getCm
    let slot ← cowPrepareMapping block
    pure (some (cm.currPos, slot))

/-- What follows the change of the entry. -/
def cowFinishCapture (buf : Nat → Nat) : CowM Unit := do
  cowEvict
  cowWriteData buf

def cowStoreCapture (buf : Nat → Nat) : Option (Nat × Slot) → CowM Unit
  | none => pure ()
  | some (val, slot) => do
      cowStoreMapping slot val
      cowFinishCapture buf

theorem cowWriteCurrent_eq (block : Nat) (buf : Nat → Nat) :
    cowWriteCurrent block buf = cowReadyCapture block >>= cowStoreCapture buf := by
  unfold cowWriteCurrent cowReadyCapture
  rw [bind_assoc]
  congr 1
  funext blockMapping
  by_cases mapped : blockMapping ≠ 0
  · rw [if_pos mapped, if_pos mapped]
    rfl
  · rw [if_neg mapped, if_neg mapped]
    simp only [cowWriteMapping_eq, bind_assoc]
    rfl

/-- The call returns an error after it has changed the entry: from the eviction that
follows, for the size limit, or from the write of the data. -/
def FailsLate (state : CowState) (block : Nat) (buf : Nat → Nat) : Prop :=
  ∃ val slot middle stored error after,
    cowReadyCapture block state = (.ok (some (val, slot)), middle) ∧
      cowStoreMapping slot val middle = (.ok (), stored) ∧
      cowFinishCapture buf stored = (.error (.errno error), after)

/-- What an error is to leave as it was. -/
structure Untouched (before after : CowState) : Prop where
  mappings : ∀ pos, before.cm.InRange pos → after.lookup pos = before.lookup pos
  changed : after.cm.nrChangedBlocks = before.cm.nrChangedBlocks
  head : after.cm.currPos = before.cm.currPos

theorem Kept.untouched (kept : Kept state after) : Untouched state after := by
  obtain ⟨_, _, same⟩ := kept.traffic.manager
  exact ⟨kept.same, by rw [same]; rfl, kept.traffic.currPos⟩

/-- What the first part makes of a block. -/
def Readied (before : CowState) (block : Nat) (after : CowState) : Option (Nat × Slot) → Prop
  | none => Kept before after
  | some (val, slot) => before.lookup block = 0 ∧ val = before.cm.currPos ∧
      Prepares before block slot after

theorem Prepares.after_kept {pos : Nat} {slot : Slot} {middle : CowState}
    (kept : Kept state middle) (ready : Prepares middle pos slot after) :
    Prepares state pos slot after :=
  ⟨kept.trans ready.kept, ready.sectIdx, ready.sectPos, ready.cached⟩

theorem cowReadyCapture_spec (block : Nat) (inv : CowInv state.cm state.file) :
    wp (cowReadyCapture block)
      (fun ready after => state.cm.InRange block ∧ Readied state block after ready)
      (fun reason after => ∀ error, reason = .errno error → Kept state after) state := by
  unfold cowReadyCapture
  rw [wp_bind]
  rcases access_cases state block with ⟨sects, found, inside⟩ | invalid
  · refine wp_mono (cowReadMapping_spec inv found inside) ?_ (fun _ _ stop => stop.kept)
    intro value middle read
    obtain ⟨kept, same⟩ := read
    subst same
    by_cases absent : state.lookup block = 0
    · rw [if_neg (not_not_intro absent), wp_bind, wp_getCm, wp_bind]
      obtain ⟨sects', found'⟩ := kept.withFound found
      have inside' := (kept.traffic.inRange block).mpr inside
      refine wp_mono (cowPrepareMapping_spec kept.inv found' inside') ?_ ?_
      · intro slot ready prepares
        exact ⟨inside, absent, kept.traffic.currPos, prepares.after_kept kept⟩
      · intro reason after stop error same
        exact kept.trans (stop.kept error same)
    · rw [if_pos absent]
      exact ⟨inside, kept⟩
  · exact wp_readMapping_invalid invalid fun _ same => by contradiction

/-- The second part leaves the map, also where it fails. -/
theorem cowFinishCapture_spec (inv : CowInv state.cm state.file) (head : HeadPastIndex state.cm)
    {sects : Nat → CowSection} (found : state.cm.sects = some sects) :
    wp (cowFinishCapture buf) (fun _ _ => True)
      (fun reason after => ∀ error, reason = .errno error →
        ∀ pos, state.cm.InRange pos → after.lookup pos = state.lookup pos) state := by
  unfold cowFinishCapture
  rw [wp_bind]
  refine wp_mono (cowEvict_spec inv found) ?_ ?_
  · intro _ middle kept
    refine wp_mono (cowWriteData_spec buf) (fun _ _ _ => trivial) ?_
    intro reason after stop error _ pos inside
    have inside' := (kept.traffic.inRange pos).mpr inside
    have head' : HeadPastIndex middle.cm := by
      unfold HeadPastIndex at head ⊢
      rw [kept.traffic.dataOffset, kept.traffic.currPos]
      exact head
    rw [← kept.same pos inside]
    rcases stop.2 with ⟨rest, _, same⟩ | ⟨_, count, rest, _, same⟩
    · subst same
      rfl
    · subst same
      exact lookup_of_data kept.inv head' count buf middle.cm.currPos rest inside'
  · intro reason after stop error same pos inside
    exact (stop.kept error same).same pos inside

theorem cowWriteCurrent_of_late {val : Nat} {slot : Slot} {middle stored : CowState}
    {error : Errno} (ready : cowReadyCapture block state = (.ok (some (val, slot)), middle))
    (wrote : cowStoreMapping slot val middle = (.ok (), stored))
    (failed : cowFinishCapture buf stored = (.error (.errno error), after)) :
    cowWriteCurrent block buf state = (.error (.errno error), after) := by
  rw [cowWriteCurrent_eq]
  simp only [bind, ready, cowStoreCapture, wrote, failed]

/-- An error before the entry was changed leaves everything as it was. -/
theorem kept_of_early {error : Errno} (inv : CowInv state.cm state.file)
    (ran : cowWriteCurrent block buf state = (.error (.errno error), after))
    (early : ¬ FailsLate state block buf) : Kept state after := by
  have spec := cowReadyCapture_spec block inv
  rw [cowWriteCurrent_eq] at ran
  rcases ready : cowReadyCapture block state with ⟨reason | value, middle⟩
  · simp only [bind, ready, Prod.mk.injEq, Except.error.injEq] at ran
    obtain ⟨same, left⟩ := ran
    subst left
    exact wp_stopped spec ready error same
  · simp only [bind, ready] at ran
    cases value with
    | none => cases ran
    | some capture =>
        obtain ⟨val, slot⟩ := capture
        obtain ⟨inside, _, _, prepares⟩ := wp_done spec ready
        have storing := cowStoreMapping_spec val prepares inside
        rcases wrote : cowStoreMapping slot val middle with ⟨reason | _, stored⟩
        · exact (wp_stopped storing wrote).elim
        · simp only [cowStoreCapture, bind, wrote] at ran
          exact absurd ⟨val, slot, middle, stored, error, after, ready, wrote, ran⟩ early

/-- A call that failed late has mapped its block to the write head. -/
theorem FailsLate.mapped (late : FailsLate state block buf) (inv : CowInv state.cm state.file)
    (head : HeadPastIndex state.cm) :
    ∃ error after, cowWriteCurrent block buf state = (.error (.errno error), after) ∧
      state.cm.InRange block ∧ state.lookup block = 0 ∧ after.lookup block = state.cm.currPos := by
  obtain ⟨val, slot, middle, stored, error, after, ready, wrote, failed⟩ := late
  obtain ⟨inside, absent, same, prepares⟩ := wp_done (cowReadyCapture_spec block inv) ready
  obtain ⟨assigned, sects, found⟩ :=
    wp_done (cowStoreMapping_spec val prepares inside) wrote
  have inside' := (prepares.kept.traffic.inRange block).mpr inside
  have inside'' := (assigned.traffic.inRange block).mpr inside'
  have head' : HeadPastIndex stored.cm := by
    have offset : stored.cm.dataOffset = state.cm.dataOffset :=
      assigned.traffic.dataOffset.trans prepares.kept.traffic.dataOffset
    have pos : stored.cm.currPos = state.cm.currPos :=
      assigned.traffic.currPos.trans prepares.kept.traffic.currPos
    unfold HeadPastIndex at head ⊢
    rw [offset, pos]
    exact head
  have left := wp_stopped (cowFinishCapture_spec assigned.inv head' found) failed error rfl
  refine ⟨error, after, cowWriteCurrent_of_late ready wrote failed, inside, absent, ?_⟩
  rw [left block inside'', assigned.map block inside', Function.update_self, same]

theorem untouched_iff_early (inv : CowInv state.cm state.file) (head : HeadPastIndex state.cm) :
    (∀ error after, cowWriteCurrent block buf state = (.error (.errno error), after) →
      Untouched state after) ↔ ¬ FailsLate state block buf := by
  constructor
  · intro atomic late
    obtain ⟨error, after, ran, inside, absent, mapped⟩ := late.mapped inv head
    have same := (atomic error after ran).mappings block inside
    rw [mapped, absent] at same
    unfold HeadPastIndex at head
    rw [same, inv.offset, cowHeaderSize] at head
    omega
  · intro early error after ran
    exact (kept_of_early inv ran early).untouched

/-- A run of captures and reads with the captures that returned. An error ends a call,
not the run; a capture that fails is one that fails early. -/
inductive CaptureRun : CowState → List (Nat × (Nat → Nat)) → CowState → Prop
  | done {state : CowState} : CaptureRun state [] state
  | captured {first second third : CowState} {block : Nat} {buf : Nat → Nat}
      {rest : List (Nat × (Nat → Nat))} :
      cowWriteCurrent block buf first = (.ok (), second) → CaptureRun second rest third →
      CaptureRun first ((block, buf) :: rest) third
  | refused {first second third : CowState} {block : Nat} {buf : Nat → Nat} {error : Errno}
      {rest : List (Nat × (Nat → Nat))} :
      cowWriteCurrent block buf first = (.error (.errno error), second) →
      ¬ FailsLate first block buf → CaptureRun second rest third → CaptureRun first rest third
  | read {first second third : CowState} {pos value : Nat} {rest : List (Nat × (Nat → Nat))} :
      cowReadMapping pos first = (.ok value, second) → CaptureRun second rest third →
      CaptureRun first rest third
  | unread {first second third : CowState} {pos : Nat} {error : Errno}
      {rest : List (Nat × (Nat → Nat))} :
      cowReadMapping pos first = (.error (.errno error), second) → CaptureRun second rest third →
      CaptureRun first rest third

theorem readMapping_keeps (pos : Nat) (inv : CowInv state.cm state.file) :
    wp (cowReadMapping pos) (fun _ after => Kept state after)
      (fun reason after => ∀ error, reason = .errno error → Kept state after) state := by
  rcases access_cases state pos with ⟨sects, found, inside⟩ | invalid
  · exact wp_mono (cowReadMapping_spec inv found inside) (fun _ _ read => read.1)
      fun _ _ stop => stop.kept
  · exact wp_readMapping_invalid invalid fun _ same => by contradiction

theorem CaptureRun.fills {writes : List (Nat × (Nat → Nat))} (run : CaptureRun state writes last)
    (filled : Filled elements content state) :
    Filled elements (recordAll content writes) last := by
  induction run generalizing content with
  | done => exact filled
  | @captured first second third block buf rest ran _ ih =>
      exact ih (wp_done ((StoreOp.capture block buf).fills filled) ran).1
  | refused ran early _ ih => exact ih (filled.of_kept (kept_of_early filled.live.inv ran early))
  | @read first second third pos value rest ran _ ih =>
      have kept := wp_done (readMapping_keeps pos filled.live.inv) ran
      exact ih (filled.of_kept kept)
  | @unread first second third pos error rest ran _ ih =>
      have kept := wp_stopped (readMapping_keeps pos filled.live.inv) ran error rfl
      exact ih (filled.of_kept kept)

/-- An error of `cow_write_current` leaves every mapping, the counter and the head as they
were exactly when it comes before the change of the entry; and where every failing call
does, each mapped block has its own position, with the data captured for it. -/
theorem capture_atomic_iff {cacheSize fileMax : Nat} {uuid : BitVec 128} {seqid : Nat}
    {start created : CowState} {writes : List (Nat × (Nat → Nat))}
    (inv : CowInv state.cm state.file) (head : HeadPastIndex state.cm)
    (initialised : cowInit elements cowSectionSize cacheSize fileMax uuid seqid start =
      (.ok (), created))
    (run : CaptureRun created writes last) :
    ((∀ error after, cowWriteCurrent block buf state = (.error (.errno error), after) →
      Untouched state after) ↔ ¬ FailsLate state block buf) ∧
    (∀ mapped, last.cm.InRange mapped → last.lookup mapped ≠ 0 →
      ∃ data, (mapped, data) ∈ writes ∧ DataAt last.cm last.file (last.lookup mapped) data) ∧
    ∀ first second, last.cm.InRange first → last.cm.InRange second → last.lookup first ≠ 0 →
      last.lookup first = last.lookup second → first = second := by
  have empty := wp_done (cowInit_fills elements cacheSize fileMax uuid seqid) initialised
  have filled := run.fills empty
  have covers : ∀ {block}, last.cm.InRange block → Covered elements block :=
    (inRange_iff_covered filled.live).mp
  refine ⟨untouched_iff_early inv head, fun mapped inside present => ?_,
    fun first second inside inside' => filled.distinct first second (covers inside)
      (covers inside')⟩
  have covered := covers inside
  cases found : recordAll (fun _ => none) writes mapped with
  | none => exact absurd (filled.stores.absent covered found) present
  | some data =>
      refine ⟨data, ?_, filled.stores.present covered found⟩
      rw [recordAll_eq, Option.none_or] at found
      obtain ⟨write, chosen, same⟩ := Option.map_eq_some_iff.mp found
      have key : write.1 = mapped := by simpa using List.find?_some chosen
      rw [← key, ← same]
      exact List.mem_of_find?_eq_some chosen

/-- A manager whose file has room for one block after the index. -/
def cramped : CowState := (cowInit 8192 cowSectionSize 0 (18 * cowBlockSize) 0#128 1 freshState).2

/-- The section of the second block cannot be allocated. -/
theorem capture_atomic_iff_unallocated :
    let first := (cowWriteCurrent 3 (fun _ => 7) cramped).2
    let starved : CowState := { first with outcomes := [.fails .enomem 0] }
    let second := (cowWriteCurrent 5000 (fun _ => 8) starved).2
    (cowWriteCurrent 5000 (fun _ => 8) starved).1 = .error (.errno .enomem) ∧
      Untouched starved second := by
  intro first starved second
  have initialised : cowInit 8192 cowSectionSize 0 (18 * cowBlockSize) 0#128 1 freshState =
      (.ok (), cramped) := ran_of_reply (by decide +kernel)
  have captured : cowWriteCurrent 3 (fun _ => 7) cramped = (.ok (), first) :=
    ran_of_reply (by decide +kernel)
  have refused : (cowWriteCurrent 5000 (fun _ => 8) starved).1 = .error (.errno .enomem) := by
    decide +kernel
  have run : CaptureRun cramped [(3, fun _ => 7)] first := .captured captured .done
  have empty := wp_done (cowInit_fills 8192 0 (18 * cowBlockSize) 0#128 1) initialised
  have filled := run.fills empty
  have early : ¬ FailsLate starved 5000 fun _ => 8 := by
    intro late
    obtain ⟨val, slot, middle, _, _, _, ready, _⟩ := late
    have stops : (cowReadyCapture 5000 starved).1.toOption.isNone = true := by decide +kernel
    rw [ready] at stops
    contradiction
  have inv : CowInv starved.cm starved.file := filled.live.inv
  have head : HeadPastIndex starved.cm := filled.live.head
  have atomic := (capture_atomic_iff inv head initialised run).1.mpr early
  exact ⟨refused, atomic .enomem second (Prod.ext refused rfl)⟩

/-- With the file full, two blocks are mapped to the position behind its end. -/
theorem full_file_shares_position :
    let first := (cowWriteCurrent 3 (fun _ => 7) cramped).2
    let second := (cowWriteCurrent 4 (fun _ => 8) first).2
    let third := (cowWriteCurrent 5000 (fun _ => 9) second).2
    (cowWriteCurrent 4 (fun _ => 8) first).1 = .error (.errno .efbig) ∧
      ¬ Untouched first second ∧ second.cm.nrChangedBlocks = first.cm.nrChangedBlocks + 1 ∧
      third.lookup 4 = 18 ∧ third.lookup 5000 = 18 ∧ third.cm.currPos = 18 := by
  intro first second third
  refine ⟨by decide +kernel, fun same => ?_, by decide +kernel, by decide +kernel,
    by decide +kernel, by decide +kernel⟩
  have changed : second.cm.nrChangedBlocks ≠ first.cm.nrChangedBlocks := by decide +kernel
  exact changed same.changed

end Moocbt.Cow
