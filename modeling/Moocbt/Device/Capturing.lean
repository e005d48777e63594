import Moocbt.Cow.Steady
import Moocbt.Device.Snapshot

/-! The handlers of the cow thread in snapshot mode, against the write-once store. -/

namespace Moocbt.Device

open Cow Program WriteOnce

variable {elements : Nat} {state after : CowState} {content : Nat → Option (Nat → Nat)}

theorem snapWriteBlocks_steady (data : Nat → Nat) (count block : Nat) :
    Steady (snapWriteBlocks data count block) := by
  induction count generalizing block with
  | zero => exact .pure ()
  | succ count ih => exact .bind (.cowWriteCurrent block data) fun _ => ih (block + 1)

theorem snapWriteVecs_steady (block : Nat) (vecs : List BioVec) :
    Steady (snapWriteVecs block vecs) := by
  induction vecs generalizing block with
  | nil => exact .pure ()
  | cons vec rest ih => exact .bind (snapWriteBlocks_steady _ _ _) fun _ => ih _

theorem snapReadGetMode_steady (mode : Option ReadMode) (pieces : List Piece) :
    Steady (snapReadGetMode mode pieces) := by
  induction pieces generalizing mode with
  | nil => exact .pure _
  | cons piece rest ih =>
      refine .bind (.cowReadMapping _) fun mapping => ?_
      cases mode with
      | none => exact ih _
      | some mode => exact .ite _ (.pure _) (ih _)

theorem snapReadOverlay_steady (pieces : List Piece) (data : Nat → Nat) :
    Steady (snapReadOverlay pieces data) := by
  induction pieces generalizing data with
  | nil => exact .pure _
  | cons piece rest ih =>
      exact .bind (.cowReadMapping _) fun _ =>
        .ite _ (.bind (.cowReadData _ _ _) fun _ => ih _) (ih _)

/-- The block writes a captured bio stands for, in the order of the handler. -/
def vecCaptures : Nat → List BioVec → List (Nat × (Nat → Nat))
  | _, [] => []
  | block, vec :: rest =>
      (List.range' block (vec.len / cowBlockSize)).map (fun block => (block, vec.data)) ++
        vecCaptures (block + vec.len / cowBlockSize) rest

def WriteBio.captures (bio : WriteBio) : List (Nat × (Nat → Nat)) :=
  vecCaptures (bio.sector / sectorsPerBlock) bio.vecs

def WriteBio.blocks (bio : WriteBio) : List Nat := bio.captures.map Prod.fst

def captureAll : List (Nat × (Nat → Nat)) → CowM Unit
  | [] => pure ()
  | write :: rest => do
      cowWriteCurrent write.1 write.2
      captureAll rest

theorem captureAll_append (left right : List (Nat × (Nat → Nat))) :
    captureAll (left ++ right) = captureAll left >>= fun _ => captureAll right := by
  induction left with
  | nil => rfl
  | cons write rest ih =>
      simp only [List.cons_append, captureAll, bind_assoc, ih]

theorem snapWriteBlocks_eq (data : Nat → Nat) (count block : Nat) :
    snapWriteBlocks data count block =
      captureAll ((List.range' block count).map fun block => (block, data)) := by
  induction count generalizing block with
  | zero => rfl
  | succ count ih => simp only [snapWriteBlocks, List.range'_succ, List.map_cons, captureAll, ih]

theorem snapHandleWriteBio_eq (bio : WriteBio) :
    snapHandleWriteBio bio = captureAll bio.captures := by
  have vecs : ∀ block vecs, snapWriteVecs block vecs = captureAll (vecCaptures block vecs) := by
    intro block vecs
    induction vecs generalizing block with
    | nil => rfl
    | cons vec rest ih =>
        simp only [snapWriteVecs, vecCaptures, captureAll_append, snapWriteBlocks_eq, ih]
  exact vecs _ _

/-- Captures are recorded one after the other. -/
theorem captureAll_spec (writes : List (Nat × (Nat → Nat))) (live : Live elements state)
    (stores : Stores elements content state) :
    wp (captureAll writes)
      (fun _ after => (∀ write ∈ writes, Covered elements write.1) ∧
        ∃ moved, moved ≤ newBlocks content (writes.map Prod.fst) ∧
          Recorded elements (recordAll content writes) state moved after)
      (fun _ after => Abandoned state ((∀ write ∈ writes, Covered elements write.1) ∧
        Room state (newBlocks content (writes.map Prod.fst))) after) state := by
  induction writes generalizing state content with
  | nil => exact ⟨by simp, 0, Nat.zero_le _, .refl live stores⟩
  | cons write rest ih =>
      have count := newBlocks_cons content write.1 (rest.map Prod.fst)
      have fewer := newBlocks_record content write.1 write.2 (rest.map Prod.fst)
      unfold captureAll
      rw [wp_bind]
      refine wp_mono (writeCurrent_stores write.2 live stores) ?_ ?_
      · intro _ middle wrote
        obtain ⟨covered, recorded⟩ := wrote
        refine wp_mono (ih recorded.tended.live recorded.stores) ?_ ?_
        · intro _ after later
          obtain ⟨inside, moved, bound, recorded'⟩ := later
          refine ⟨?_, _, ?_, recorded.trans live recorded'⟩
          · intro other member
            rcases List.mem_cons.mp member with same | member
            · rw [same]
              exact covered
            · exact inside other member
          · rw [List.map_cons, count]
            omega
        · intro reason after abandoned
          refine abandoned.later live recorded.tended fun within => ?_
          obtain ⟨inside, room⟩ := within
          rw [List.map_cons, count] at room
          exact ⟨fun other member => inside other (List.mem_cons_of_mem _ member),
            recorded.room (room.weaken (by omega))⟩
      · intro reason after abandoned
        refine abandoned.weaken fun _ _ within => ?_
        obtain ⟨inside, room⟩ := within
        rw [List.map_cons, count] at room
        exact ⟨inside write List.mem_cons_self, room.weaken (Nat.le_add_right _ _)⟩

/-- Everything a captured bio needs: its blocks are in the index and there is room
for the new ones. -/
def Fits (elements : Nat) (content : Nat → Option (Nat → Nat)) (state : CowState)
    (bio : WriteBio) : Prop :=
  (∀ block ∈ bio.blocks, Covered elements block) ∧ Room state (newBlocks content bio.blocks)

theorem snapHandleWriteBio_spec (bio : WriteBio) (live : Live elements state)
    (stores : Stores elements content state) :
    wp (snapHandleWriteBio bio)
      (fun _ after => (∀ block ∈ bio.blocks, Covered elements block) ∧
        ∃ moved, Recorded elements (recordAll content bio.captures) state moved after)
      (fun _ after => Abandoned state (Fits elements content state bio) after) state := by
  rw [snapHandleWriteBio_eq]
  refine wp_mono (captureAll_spec bio.captures live stores) ?_ ?_
  · intro _ after captured
    obtain ⟨inside, moved, _, recorded⟩ := captured
    refine ⟨?_, moved, recorded⟩
    intro block member
    obtain ⟨write, member, same⟩ := List.mem_map.mp member
    rw [← same]
    exact inside write member
  · intro reason after abandoned
    refine abandoned.weaken fun _ _ fits => ⟨?_, fits.2⟩
    intro write member
    exact fits.1 write.1 (List.mem_map_of_mem member)

/-- The mode of a read, as what the store has of its pieces. -/
def ModeOf (content : Nat → Option (Nat → Nat)) (pieces : List Piece) : Option ReadMode → Prop
  | none => pieces = []
  | some .cowFile => ∀ piece ∈ pieces, (content piece.block).isSome = true
  | some .baseDevice => ∀ piece ∈ pieces, content piece.block = none
  | some .mixed => True

theorem Stores.mapped_iff {block : Nat} (live : Live elements state)
    (stores : Stores elements content state) (covered : Covered elements block) :
    state.lookup block ≠ 0 ↔ (content block).isSome = true := by
  cases found : content block with
  | none => simp [stores.absent covered found]
  | some buf => simp [(stores.present covered found).mapped live.inv]

/-- A mode that was chosen before is kept, or becomes mixed. -/
theorem snapReadGetMode_spec (mode : Option ReadMode) (pieces : List Piece)
    (live : Live elements state) (stores : Stores elements content state) :
    wp (snapReadGetMode mode pieces)
      (fun chosen after => Recorded elements content state 0 after ∧
        (chosen = mode ∨ mode = none ∨ chosen = some .mixed) ∧ ModeOf content pieces chosen ∧
        (chosen ≠ some .mixed → ∀ piece ∈ pieces, Covered elements piece.block))
      (Interrupted elements content state (∀ piece ∈ pieces, Covered elements piece.block))
      state := by
  induction pieces generalizing mode state with
  | nil =>
      refine ⟨.refl live stores, .inl rfl, ?_, by simp⟩
      cases mode with
      | none => rfl
      | some mode => cases mode <;> simp [ModeOf]
  | cons piece rest ih =>
      unfold snapReadGetMode
      rw [wp_bind]
      refine wp_mono (readMapping_stores live stores) ?_ ?_
      · intro mapping middle read
        obtain ⟨covered, recorded, value, _⟩ := read
        have mapped : mapping ≠ 0 ↔ (content piece.block).isSome = true := by
          rw [value]
          exact Stores.mapped_iff live stores covered
        have unmapped : mapping = 0 ↔ content piece.block = none := by
          rw [← Option.not_isSome_iff_eq_none, ← mapped, not_not]
        have last := recorded.tended.live
        have onward : ∀ mode', (mode' = some .cowFile ∧ mapping ≠ 0) ∨
            (mode' = some .baseDevice ∧ mapping = 0) ∨ mode' = some .mixed →
            (mode' = mode ∨ mode = none) →
            wp (snapReadGetMode mode' rest)
              (fun chosen after => Recorded elements content state 0 after ∧
                (chosen = mode ∨ mode = none ∨ chosen = some .mixed) ∧
                ModeOf content (piece :: rest) chosen ∧
                (chosen ≠ some .mixed → ∀ other ∈ piece :: rest, Covered elements other.block))
              (Interrupted elements content state
                (∀ other ∈ piece :: rest, Covered elements other.block)) middle := by
          intro mode' first from'
          refine wp_mono (ih mode' last recorded.stores) ?_ ?_
          · intro chosen after result
            obtain ⟨recorded', kept, holds, inside⟩ := result
            refine ⟨recorded.trans live recorded', ?_, ?_, ?_⟩
            · rcases from' with same | none
              · subst same
                rcases kept with kept | none | mixed
                · exact .inl kept
                · exact .inr (.inl none)
                · exact .inr (.inr mixed)
              · exact .inr (.inl none)
            · rcases kept with same | none | mixed
              · subst same
                rcases first with ⟨same, here⟩ | ⟨same, here⟩ | same
                · subst same
                  exact List.forall_mem_cons.mpr ⟨mapped.mp here, holds⟩
                · subst same
                  exact List.forall_mem_cons.mpr ⟨unmapped.mp here, holds⟩
                · subst same
                  trivial
              · subst none
                simp at first
              · subst mixed
                trivial
            · intro pure other member
              rcases List.mem_cons.mp member with same | member
              · rw [same]
                exact covered
              · exact inside pure other member
          · intro reason after abandoned
            exact abandoned.later live recorded fun inside other member =>
              inside other (List.mem_cons_of_mem _ member)
        cases mode with
        | none =>
            refine onward (some (if mapping ≠ 0 then .cowFile else .baseDevice)) ?_ (.inr rfl)
            by_cases here : mapping = 0
            · rw [if_neg (not_not.mpr here)]
              exact .inr (.inl ⟨rfl, here⟩)
            · rw [if_pos here]
              exact .inl ⟨rfl, here⟩
        | some mode =>
            simp only [wp_ite]
            split
            · exact ⟨recorded, .inr (.inr rfl), trivial, by simp⟩
            · rename_i agrees
              refine onward _ ?_ (.inl rfl)
              cases mode with
              | cowFile => exact .inl ⟨rfl, fun none => agrees (.inl ⟨rfl, none⟩)⟩
              | baseDevice =>
                  by_cases here : mapping = 0
                  · exact .inr (.inl ⟨rfl, here⟩)
                  · exact absurd (.inr ⟨rfl, here⟩) agrees
              | mixed => exact .inr (.inr rfl)
      · intro reason after stop
        exact stop.weaken fun inside => inside piece List.mem_cons_self

/-- A piece is not empty and ends in the block it begins in. -/
def Piece.Inside (piece : Piece) : Prop :=
  0 < piece.count ∧ piece.sector % sectorsPerBlock + piece.count ≤ sectorsPerBlock

theorem Piece.Covers.position {piece : Piece} {word : Nat} (inside : piece.Inside)
    (covers : piece.Covers word) : word / blockWords = piece.block ∧
      piece.sector % sectorsPerBlock * sectorWords + (word - piece.sector * sectorWords) =
        word % blockWords := by
  unfold Piece.Inside sectorsPerBlock at inside
  unfold Piece.Covers sectorWords at covers
  unfold Piece.block blockWords sectorsPerBlock sectorWords
  omega

/-- The data of a read once what the store has of its pieces is laid over it. -/
def overlay (content : Nat → Option (Nat → Nat)) (pieces : List Piece) (data : Nat → Nat)
    (word : Nat) : Nat :=
  if ∃ piece ∈ pieces, piece.Covers word then
    ((content (word / blockWords)).map fun buf => buf (word % blockWords)).getD (data word)
  else data word

theorem overlay_cons (piece : Piece) (rest : List Piece) (data : Nat → Nat) :
    overlay content rest (overlay content [piece] data) = overlay content (piece :: rest) data := by
  funext word
  unfold overlay
  by_cases first : piece.Covers word
  · by_cases later : ∃ piece ∈ rest, piece.Covers word
    · cases content (word / blockWords) <;> simp [first, later]
    · simp [first, later]
  · simp [first]

theorem snapReadOverlay_spec (pieces : List Piece) (data : Nat → Nat)
    (inside : ∀ piece ∈ pieces, piece.Inside) (live : Live elements state)
    (stores : Stores elements content state) :
    wp (snapReadOverlay pieces data)
      (fun words after => Recorded elements content state 0 after ∧
        words = overlay content pieces data ∧ ∀ piece ∈ pieces, Covered elements piece.block)
      (Interrupted elements content state (∀ piece ∈ pieces, Covered elements piece.block))
      state := by
  induction pieces generalizing data state with
  | nil =>
      refine ⟨.refl live stores, ?_, by simp⟩
      funext word
      simp [overlay]
  | cons piece rest ih =>
      have here := inside piece List.mem_cons_self
      have onward : ∀ {middle : CowState} {data' : Nat → Nat}, Covered elements piece.block →
          Recorded elements content state 0 middle → data' = overlay content [piece] data →
          wp (snapReadOverlay rest data')
            (fun words after => Recorded elements content state 0 after ∧
              words = overlay content (piece :: rest) data ∧
              ∀ other ∈ piece :: rest, Covered elements other.block)
            (Interrupted elements content state
              (∀ other ∈ piece :: rest, Covered elements other.block)) middle := by
        intro middle data' covered recorded same
        refine wp_mono (ih data' (fun other member => inside other (List.mem_cons_of_mem _ member))
          recorded.tended.live recorded.stores) ?_ ?_
        · intro words after result
          obtain ⟨recorded', value, others⟩ := result
          refine ⟨recorded.trans live recorded', ?_, List.forall_mem_cons.mpr ⟨covered, others⟩⟩
          rw [value, same, overlay_cons]
        · intro reason after abandoned
          exact abandoned.later live recorded fun inside other member =>
            inside other (List.mem_cons_of_mem _ member)
      unfold snapReadOverlay
      rw [wp_bind]
      refine wp_mono (readMapping_stores live stores) ?_ ?_
      · intro mapping middle read
        obtain ⟨covered, recorded, value, same⟩ := read
        have mapped := Stores.mapped_iff live stores covered
        rw [← value] at mapped
        rw [wp_ite]
        split
        · rename_i nonzero
          obtain ⟨buf, present⟩ := Option.isSome_iff_exists.mp (mapped.mp nonzero)
          rw [value, ← same, wp_bind]
          refine wp_mono (readData_stores recorded.tended.live recorded.stores covered present
            ?_ ?_) ?_ ?_
          · unfold Piece.Inside sectorsPerBlock at here
            unfold sectorsPerBlock sectorWords blockWords
            omega
          · exact Nat.mul_pos here.1 (by decide)
          · intro words after result
            obtain ⟨recorded', data'⟩ := result
            refine onward covered (recorded.trans live recorded') ?_
            funext word
            unfold overlay
            by_cases covers : piece.Covers word
            · obtain ⟨block, offset⟩ := covers.position here
              have bound := covers.2
              unfold Piece.Covers at covers
              rw [data' _ (by rw [Nat.add_mul] at bound; omega), offset]
              simp [block, present]
            · simp [covers]
          · intro reason after abandoned
            exact abandoned.later live recorded fun _ => trivial
        · rename_i zero
          refine onward covered recorded ?_
          have absent : content piece.block = none := by
            rw [← Option.not_isSome_iff_eq_none, ← mapped]
            exact zero
          funext word
          unfold overlay
          by_cases covers : piece.Covers word
          · obtain ⟨block, _⟩ := covers.position here
            simp [block, absent]
          · simp [covers]
      · intro reason after stop
        exact stop.weaken fun inside => inside piece List.mem_cons_self

theorem segmentPieces_inside (fuel sector remaining : Nat) :
    ∀ piece ∈ segmentPieces fuel sector remaining, piece.Inside := by
  induction fuel generalizing sector remaining with
  | zero => simp [segmentPieces]
  | succ fuel ih =>
      intro piece member
      unfold segmentPieces at member
      split at member
      · contradiction
      · rcases List.mem_cons.mp member with same | member
        · subst same
          unfold Piece.Inside sectorsPerBlock
          dsimp only
          omega
        · exact ih _ _ piece member

theorem ReadBio.pieces_inside (bio : ReadBio) : ∀ piece ∈ bio.pieces, piece.Inside := by
  have vecs : ∀ vecs sector, ∀ piece ∈ vecPieces sector vecs, piece.Inside := by
    intro vecs
    induction vecs with
    | nil => simp [vecPieces]
    | cons len rest ih =>
        intro sector piece member
        rcases List.mem_append.mp member with here | later
        · exact segmentPieces_inside _ _ _ piece here
        · exact ih _ piece later
  exact vecs _ _

end Moocbt.Device
