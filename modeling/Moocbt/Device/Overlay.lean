import Moocbt.Cow.DataArea
import Moocbt.Data.Scatter
import Moocbt.Device.PageVecs

/-! `snap_handle_read_bio` by bytes: what a read of the snapshot leaves in the pages of a
bio. -/

namespace Moocbt.Device

open Cow Program Scatter

/-- The bytes of memory, by page and offset. -/
abbrev Memory := Nat × Nat → Nat

def PageVec.addresses (vec : PageVec) : List (Nat × Nat) :=
  (List.range' vec.offset vec.len).map fun offset => (vec.page, offset)

def Slice.addresses (slice : Slice) : List (Nat × Nat) :=
  (List.range' slice.offset slice.len).map fun offset => (slice.page, offset)

/-- The bytes of a read in memory, in the order of the device. -/
def Bio.addresses (bio : Bio) : List (Nat × Nat) := bio.segments.flatMap PageVec.addresses

/-- How the base device answers a read: an error code or none, its content by bytes, and
where the iterator is afterwards. -/
structure BaseAnswer where
  failure : Option Errno
  bytes : Nat → Nat
  left : BvecIter

/-- The loops of `snap_read_bio_get_mode`; `none` is the mode before the first part. -/
def readGetMode : Option ReadMode → List Slice → CowM (Option ReadMode)
  | mode, [] => pure mode
  | mode, slice :: rest => do
      let mapping ← cowReadMapping (slice.device / cowBlockSize)
      match mode with
      | none => readGetMode (some (if mapping ≠ 0 then .cowFile else .baseDevice)) rest
      | some mode =>
          if (mode = .cowFile ∧ mapping = 0) ∨ (mode = .baseDevice ∧ mapping ≠ 0) then
            pure (some .mixed)
          else readGetMode (some mode) rest

/-- The loops of `snap_handle_read_bio` that copy what is mapped. -/
def copyMapped : List Slice → Memory → CowM Memory
  | [], memory => pure memory
  | slice :: rest, memory => do
      let mapping ← cowReadMapping (slice.device / cowBlockSize)
      if mapping ≠ 0 then do
        let bytes ← cowReadBytes mapping (slice.device % cowBlockSize) slice.len
        copyMapped rest (fill (fun byte => some (bytes byte)) 0 slice.addresses memory)
      else copyMapped rest memory

/-- `moocbt_submit_bio_wait`. -/
def submitBioWait (bio : Bio) (base : BaseAnswer) (memory : Memory) : CowM Memory :=
  match base.failure with
  | some error => .stop (.errno error)
  | none =>
      pure (fill (fun byte => some (base.bytes byte)) (bio.iter.sector * sectorSize) bio.addresses
        memory)

def snapHandleReadBio (bio : Bio) (base : BaseAnswer) (memory : Memory) : CowM Memory := do
  let mode ← readGetMode none bio.modeSlices
  let served ← if mode = some .cowFile then pure memory else submitBioWait bio base memory
  if mode = some .baseDevice then pure served
  else
    let iter := if mode = some .cowFile then bio.iter else base.left
    copyMapped ((bio.consume iter).restore bio.iter).copySlices served

/-- A bio that nobody advanced or shares, of segments in whole sectors. -/
structure Bio.Fresh (bio : Bio) : Prop where
  idx : bio.iter.idx = 0
  done : bio.iter.done = 0
  vcnt : bio.vcnt = bio.vecs.length
  size : bio.iter.size = vecBytes bio.vecs
  sectors : ∀ vec ∈ bio.vecs, sectorSize ∣ vec.len

/-- The parts begin where the one before ended on the device, and lie in one block each. -/
def Chained : Nat → List Slice → Prop
  | _, [] => True
  | pos, slice :: rest =>
      slice.device = pos ∧ pos % cowBlockSize + slice.len ≤ cowBlockSize ∧
        Chained (pos + slice.len) rest

theorem chained_cut (page : Nat) {fuel len : Nat} (offset device : Nat) (enough : len ≤ fuel)
    {rest : List Slice} (chained : Chained (device + len) rest) :
    Chained device (cut page fuel offset len device ++ rest) := by
  induction fuel generalizing offset len device with
  | zero =>
      have nothing : len = 0 := by omega
      subst nothing
      exact chained
  | succ fuel ih =>
      unfold cut
      by_cases empty : len = 0
      · subst empty
        exact chained
      · have block : device % cowBlockSize < cowBlockSize := Nat.mod_lt _ (by decide)
        simp only [empty, if_false]
        generalize counted : min (cowBlockSize - device % cowBlockSize) len = count
        have bounds : 0 < count ∧ count ≤ len := by omega
        refine ⟨rfl, by simp only; omega, ih (offset + count) (device + count) (by omega) ?_⟩
        rwa [Nat.add_assoc, Nat.add_sub_cancel' bounds.2]

theorem cut_addresses (page : Nat) {fuel len : Nat} (offset device : Nat) (enough : len ≤ fuel) :
    (cut page fuel offset len device).flatMap Slice.addresses =
      (List.range' offset len).map fun offset => (page, offset) := by
  induction fuel generalizing offset len device with
  | zero =>
      have nothing : len = 0 := by omega
      subst nothing
      rfl
  | succ fuel ih =>
      unfold cut
      by_cases empty : len = 0
      · subst empty
        rfl
      · have block : device % cowBlockSize < cowBlockSize := Nat.mod_lt _ (by decide)
        simp only [empty, if_false]
        generalize counted : min (cowBlockSize - device % cowBlockSize) len = count
        have bounds : 0 < count ∧ count ≤ len := by omega
        have split : List.range' offset len =
            List.range' offset count ++ List.range' (offset + count) (len - count) := by
          rw [List.range'_append_1, Nat.add_sub_cancel' bounds.2]
        rw [List.flatMap_cons, ih _ _ (by omega), split, List.map_append]
        rfl

theorem Chained.within {pos : Nat} {slices : List Slice} (chained : Chained pos slices) :
    ∀ slice ∈ slices, slice.device % cowBlockSize + slice.len ≤ cowBlockSize := by
  induction slices generalizing pos with
  | nil => exact fun slice member => absurd member List.not_mem_nil
  | cons slice rest ih =>
      obtain ⟨same, within, chained⟩ := chained
      subst same
      exact List.forall_mem_cons.mpr ⟨within, ih chained⟩

theorem chained_modeWalk (curr : Nat) (vecs : List PageVec) : Chained curr (modeWalk curr vecs) := by
  induction vecs generalizing curr with
  | nil => trivial
  | cons vec rest ih =>
      rw [modeWalk_cons]
      exact chained_cut _ _ _ (Nat.le_refl _) (ih _)

theorem modeWalk_addresses (curr : Nat) (vecs : List PageVec) :
    (modeWalk curr vecs).flatMap Slice.addresses = vecs.flatMap PageVec.addresses := by
  induction vecs generalizing curr with
  | nil => rfl
  | cons vec rest ih =>
      rw [modeWalk_cons, List.flatMap_append, ih, cut_addresses _ _ _ (Nat.le_refl _),
        List.flatMap_cons]
      rfl

/-- The byte of the COW file that stands for a byte of the device, where its block is mapped. -/
def mappedByte (state : CowState) (byte : Nat) : Option Nat :=
  let mapping := state.lookup (byte / cowBlockSize)
  if mapping ≠ 0 then
    some (byteOf (fileWord state.file) (mapping * cowBlockSize + byte % cowBlockSize))
  else none

/-- Reads of the index leave the blocks alone that are mapped. -/
def Unchanging (state : CowState) : Prop :=
  ∀ after, Kept state after → ∀ block, state.cm.InRange block → state.lookup block ≠ 0 →
    ∀ byte < cowBlockSize,
      byteOf (fileWord after.file) (state.lookup block * cowBlockSize + byte) =
        byteOf (fileWord state.file) (state.lookup block * cowBlockSize + byte)

variable {state middle : CowState}

/-- So it is when every mapping points behind the index. -/
theorem unchanging_of_data (behind : ∀ block, state.cm.InRange block → state.lookup block ≠ 0 →
    state.cm.dataOffset ≤ state.lookup block * cowBlockSize) : Unchanging state := by
  intro after kept block inside mapped byte _
  have past := behind block inside mapped
  have framed := kept.traffic.file
  have same : fileWord after.file ((state.lookup block * cowBlockSize + byte) / 8) =
      fileWord state.file ((state.lookup block * cowBlockSize + byte) / 8) := by
    cases before : state.file with
    | none =>
        rw [before] at framed
        cases later : after.file with
        | none => rfl
        | some file =>
            rw [later] at framed
            contradiction
    | some file =>
        rw [before] at framed
        cases later : after.file with
        | none =>
            rw [later] at framed
            contradiction
        | some file' =>
            rw [later] at framed
            refine framed.words _ (past.trans ?_)
            unfold cowBlockSize
            omega
  unfold byteOf
  rw [same]

/-- A mapping that is read is the one the index has, and reading it keeps the index. -/
theorem readMapping_kept (kept : Kept state middle) (pos : Nat) :
    wp (cowReadMapping pos) (fun value after =>
      Kept state after ∧ state.cm.InRange pos ∧ value = state.lookup pos) (fun _ _ => True)
      middle := by
  rcases access_cases middle pos with ⟨sects, found, inside⟩ | invalid
  · refine wp_mono (cowReadMapping_spec kept.inv found inside) ?_ fun _ _ _ => trivial
    intro value after read
    have inside' := (kept.traffic.inRange pos).mp inside
    exact ⟨kept.trans read.1, inside', read.2.trans (kept.same pos inside')⟩
  · exact wp_readMapping_invalid invalid trivial

/-- What a mode tells of the parts. -/
structure ModeFits (state : CowState) (slices : List Slice) (mode chosen : Option ReadMode) :
    Prop where
  kept : ∀ old, mode = some old → chosen = some old ∨ chosen = some .mixed
  cowFile : chosen = some .cowFile →
    ∀ slice ∈ slices, state.lookup (slice.device / cowBlockSize) ≠ 0
  baseDevice : chosen = some .baseDevice →
    ∀ slice ∈ slices, state.lookup (slice.device / cowBlockSize) = 0

theorem readGetMode_spec (mode : Option ReadMode) (slices : List Slice) (kept : Kept state middle) :
    wp (readGetMode mode slices)
      (fun chosen after => Kept state after ∧ ModeFits state slices mode chosen)
      (fun _ _ => True) middle := by
  induction slices generalizing mode middle with
  | nil =>
      exact ⟨kept, fun old same => .inl same, fun _ slice member => absurd member List.not_mem_nil,
        fun _ slice member => absurd member List.not_mem_nil⟩
  | cons slice rest ih =>
      unfold readGetMode
      rw [wp_bind]
      refine wp_mono (readMapping_kept kept _) ?_ fun _ _ => id
      intro mapping after read
      obtain ⟨kept, inside, same⟩ := read
      subst same
      cases mode with
      | none =>
          refine wp_mono (ih _ kept) ?_ fun _ _ => id
          intro chosen last fits
          obtain ⟨kept, fits⟩ := fits
          have first := fits.kept _ rfl
          refine ⟨kept, fun old same => by contradiction, fun cow => ?_, fun base => ?_⟩
          · refine List.forall_mem_cons.mpr ⟨?_, fits.cowFile cow⟩
            intro unmapped
            simp [cow, unmapped] at first
          · refine List.forall_mem_cons.mpr ⟨?_, fits.baseDevice base⟩
            by_contra mapped
            simp [base, mapped] at first
      | some old =>
          simp only
          split
          · exact ⟨kept, fun _ _ => .inr rfl, by simp, by simp⟩
          · rename_i agrees
            refine wp_mono (ih _ kept) ?_ fun _ _ => id
            intro chosen last fits
            obtain ⟨kept, fits⟩ := fits
            have first := fits.kept old rfl
            refine ⟨kept, fun other same => Option.some.inj same ▸ first, fun cow => ?_, fun base => ?_⟩
            · refine List.forall_mem_cons.mpr ⟨?_, fits.cowFile cow⟩
              have same : old = .cowFile := by simpa [cow, eq_comm] using first
              exact fun unmapped => agrees (.inl ⟨same, unmapped⟩)
            · refine List.forall_mem_cons.mpr ⟨?_, fits.baseDevice base⟩
              have same : old = .baseDevice := by simpa [base, eq_comm] using first
              by_contra mapped
              exact agrees (.inr ⟨same, mapped⟩)

/-- The block of a byte in a part that lies in one block. -/
theorem block_of_slice {slice : Slice} {index : Nat}
    (within : slice.device % cowBlockSize + slice.len ≤ cowBlockSize) (short : index < slice.len) :
    (slice.device + index) / cowBlockSize = slice.device / cowBlockSize ∧
      (slice.device + index) % cowBlockSize = slice.device % cowBlockSize + index := by
  unfold cowBlockSize at *
  omega

/-- The bytes of a part that lies in one block. -/
theorem fill_slice {slice : Slice} (within : slice.device % cowBlockSize + slice.len ≤ cowBlockSize)
    (unchanging : Unchanging state) (kept : Kept state middle)
    (inside : state.cm.InRange (slice.device / cowBlockSize))
    (mapped : state.lookup (slice.device / cowBlockSize) ≠ 0) (memory : Memory) :
    fill (fun byte => some (byteOf (fileWord middle.file)
        (state.lookup (slice.device / cowBlockSize) * cowBlockSize + slice.device % cowBlockSize +
          byte))) 0 slice.addresses memory =
      fill (mappedByte state) slice.device slice.addresses memory := by
  refine fill_congr fun index below => ?_
  have short : index < slice.len := by simpa [Slice.addresses] using below
  obtain ⟨block, offset⟩ := block_of_slice within short
  have same := unchanging middle kept _ inside mapped (slice.device % cowBlockSize + index) (by omega)
  simp only [mappedByte, block, offset, mapped, ne_eq, not_false_eq_true, if_true]
  rw [← same, Nat.zero_add, Nat.add_assoc]

theorem copyMapped_spec (slices : List Slice) {pos : Nat} (chained : Chained pos slices)
    (unchanging : Unchanging state) (kept : Kept state middle) (memory : Memory) :
    wp (copyMapped slices memory)
      (fun result after => Kept state after ∧
        result = fill (mappedByte state) pos (slices.flatMap Slice.addresses) memory)
      (fun _ _ => True) middle := by
  induction slices generalizing pos middle memory with
  | nil => exact ⟨kept, rfl⟩
  | cons slice rest ih =>
      obtain ⟨same, within, chained⟩ := chained
      subst same
      unfold copyMapped
      rw [wp_bind]
      refine wp_mono (readMapping_kept kept _) ?_ fun _ _ => id
      intro mapping after read
      obtain ⟨kept, inside, same⟩ := read
      subst same
      have length : slice.addresses.length = slice.len := by simp [Slice.addresses]
      rw [List.flatMap_cons, fill_append, length]
      by_cases mapped : state.lookup (slice.device / cowBlockSize) = 0
      · simp only [mapped, ne_eq, not_true_eq_false, if_false]
        have none : fill (mappedByte state) slice.device slice.addresses memory = memory := by
          refine fill_none fun index below => ?_
          have short : index < slice.len := by simpa [Slice.addresses] using below
          simp only [mappedByte, (block_of_slice within short).1, mapped, ne_eq, not_true_eq_false,
            if_false]
        rw [none]
        exact ih chained kept memory
      · simp only [mapped, ne_eq, not_false_eq_true, if_true]
        have offset : ¬ slice.device % cowBlockSize ≥ cowBlockSize :=
          Nat.not_le.mpr (Nat.mod_lt _ (by decide))
        rw [wp_bind]
        unfold cowReadBytes
        rw [if_neg offset]
        refine wp_mono (fileReadBytes_spec _ _) ?_ fun _ _ _ => trivial
        intro bytes last read
        obtain ⟨⟨outcomes, leaves, same⟩, value⟩ := read
        subst same value
        rw [fill_slice within unchanging kept inside mapped]
        exact ih chained (kept.trans (.of_outcomes kept.inv leaves)) _

/-- What holds of the blocks of the parts holds of the blocks of their bytes. -/
theorem forall_bytes {P : Nat → Prop} {slices : List Slice} {pos : Nat}
    (chained : Chained pos slices) (holds : ∀ slice ∈ slices, P (slice.device / cowBlockSize))
    {index : Nat} (below : index < (slices.flatMap Slice.addresses).length) :
    P ((pos + index) / cowBlockSize) := by
  induction slices generalizing pos index with
  | nil => simp at below
  | cons slice rest ih =>
      obtain ⟨same, within, chained⟩ := chained
      subst same
      rw [List.forall_mem_cons] at holds
      have length : slice.addresses.length = slice.len := by simp [Slice.addresses]
      rw [List.flatMap_cons, List.length_append, length] at below
      by_cases short : index < slice.len
      · rw [(block_of_slice within short).1]
        exact holds.1
      · have later := @ih (slice.device + slice.len) chained holds.2 (index - slice.len) (by omega)
        rwa [Nat.add_assoc, Nat.add_sub_cancel' (by omega)] at later

theorem modeWalk_segmentsFrom (curr : Nat) (vecs : List PageVec) :
    modeWalk curr (segmentsFrom vecs 0 (vecBytes vecs)) = modeWalk curr vecs := by
  induction vecs generalizing curr with
  | nil => rfl
  | cons vec rest ih =>
      unfold segmentsFrom
      rw [vecBytes_cons]
      by_cases empty : vec.len + vecBytes rest = 0
      · have later := ih curr
        rw [(Nat.add_eq_zero_iff.mp empty).2, segmentsFrom_zero] at later
        rw [if_pos empty, modeWalk_cons, (Nat.add_eq_zero_iff.mp empty).1, cut_zero, Nat.add_zero,
          ← later]
        rfl
      · simp only [empty, if_false]
        rw [Nat.sub_zero, Nat.add_zero, Nat.min_eq_left (Nat.le_add_right _ _),
          Nat.add_sub_cancel_left, modeWalk_cons, modeWalk_cons, ih]

variable {bio : Bio}

theorem Bio.Fresh.slices_eq (fresh : bio.Fresh) (iter : BvecIter) :
    (((bio.consume iter).restore bio.iter).copySlices) = bio.modeSlices := by
  change copyWalk bio.iter.sector (bio.vecs.take bio.vcnt) =
    modeWalk (bio.iter.sector * sectorSize)
      (segmentsFrom (bio.vecs.drop bio.iter.idx) bio.iter.done bio.iter.size)
  rw [fresh.vcnt, List.take_length, fresh.idx, List.drop_zero, fresh.done, fresh.size,
    modeWalk_segmentsFrom, walks_agree]
  exact fun vec member => fresh.sectors vec (List.dropLast_subset _ member)

/-- The byte of the snapshot: the one in the COW file, or the one of the base device. -/
def snapshotByte (state : CowState) (base : Nat → Nat) (byte : Nat) : Nat :=
  (mappedByte state byte).getD (base byte)

/-- Whichever mode a read runs in, every byte of the bio is that of the snapshot. -/
theorem snapHandleReadBio_spec (fresh : bio.Fresh) (apart : bio.addresses.Nodup)
    (inv : CowInv state.cm state.file) (unchanging : Unchanging state) (base : BaseAnswer)
    (memory : Memory) :
    wp (snapHandleReadBio bio base memory)
      (fun result _ => result = fill (fun byte => some (snapshotByte state base.bytes byte))
        (bio.iter.sector * sectorSize) bio.addresses memory)
      (fun _ _ => True) state := by
  have chained : Chained (bio.iter.sector * sectorSize) bio.modeSlices := chained_modeWalk _ _
  have addresses : bio.modeSlices.flatMap Slice.addresses = bio.addresses := modeWalk_addresses _ _
  unfold snapHandleReadBio
  rw [wp_bind]
  refine wp_mono (readGetMode_spec none bio.modeSlices (.refl inv)) ?_ fun _ _ => id
  intro mode middle moded
  obtain ⟨kept, fits⟩ := moded
  have copied : ∀ served iter, wp
      (copyMapped ((bio.consume iter).restore bio.iter).copySlices served)
      (fun result _ => result =
        fill (mappedByte state) (bio.iter.sector * sectorSize) bio.addresses served)
      (fun _ _ => True) middle := by
    intro served iter
    rw [fresh.slices_eq iter]
    refine wp_mono (copyMapped_spec bio.modeSlices chained unchanging kept served) ?_ fun _ _ => id
    intro result _ copied
    rw [copied.2, addresses]
  by_cases cow : mode = some .cowFile
  · -- every block is mapped, and the base device is not read
    have mapped : ∀ index < bio.addresses.length,
        state.lookup ((bio.iter.sector * sectorSize + index) / cowBlockSize) ≠ 0 :=
      fun index below => forall_bytes (P := fun block => state.lookup block ≠ 0) chained
        (fits.cowFile cow) (addresses ▸ below)
    subst cow
    simp only [if_true, Option.some.injEq, reduceCtorEq, if_false]
    rw [wp_bind, wp_pure]
    refine wp_mono (copied memory bio.iter) ?_ fun _ _ => id
    intro result _ same
    rw [same]
    refine fill_congr fun index below => ?_
    simp only [snapshotByte, mappedByte, mapped index below, ne_eq, not_false_eq_true, if_true,
      Option.getD_some]
  · simp only [cow, if_false]
    rw [wp_bind]
    unfold submitBioWait
    cases base.failure with
    | some error => trivial
    | none =>
        rw [wp_pure]
        by_cases direct : mode = some .baseDevice
        · -- no block is mapped, and nothing is copied
          rw [if_pos direct]
          have unmapped : ∀ index < bio.addresses.length,
              state.lookup ((bio.iter.sector * sectorSize + index) / cowBlockSize) = 0 :=
            fun index below => forall_bytes (P := fun block => state.lookup block = 0) chained
              (fits.baseDevice direct) (addresses ▸ below)
          refine fill_congr fun index below => ?_
          simp only [snapshotByte, mappedByte, unmapped index below, ne_eq, not_true_eq_false,
            if_false, Option.getD_none]
        · rw [if_neg direct]
          refine wp_mono (copied _ base.left) ?_ fun _ _ => id
          intro result _ same
          rw [same, fill_fill apart]
          refine fill_congr fun index _ => ?_
          unfold snapshotByte
          cases mappedByte state (bio.iter.sector * sectorSize + index) <;> rfl

/-- The calls of `cow_read_data` that a read can make each lie in one block. -/
theorem Bio.Fresh.slices_within (fresh : bio.Fresh) (iter : BvecIter) :
    ∀ slice ∈ ((bio.consume iter).restore bio.iter).copySlices,
      slice.device % cowBlockSize + slice.len ≤ cowBlockSize := by
  rw [fresh.slices_eq iter]
  exact (chained_modeWalk _ bio.segments).within

/-- A read of the snapshot leaves the byte of the COW file where its block is mapped, and
that of the base device elsewhere. -/
theorem snapshot_read_overlays_mapped (fresh : bio.Fresh) (apart : bio.addresses.Nodup)
    (inv : CowInv state.cm state.file) (unchanging : Unchanging state) {base : BaseAnswer}
    {memory result : Memory} {after : CowState}
    (ran : snapHandleReadBio bio base memory state = (.ok result, after)) :
    (∀ index addr, bio.addresses[index]? = some addr →
      result addr = snapshotByte state base.bytes (bio.iter.sector * sectorSize + index)) ∧
    (∀ addr, addr ∉ bio.addresses → result addr = memory addr) ∧
    ∀ iter, ∀ slice ∈ ((bio.consume iter).restore bio.iter).copySlices,
      slice.device % cowBlockSize + slice.len ≤ cowBlockSize := by
  have same := wp_done (snapHandleReadBio_spec fresh apart inv unchanging base memory) ran
  subst same
  refine ⟨fun index addr found => ?_, fun addr outside => fill_outside outside _,
    fresh.slices_within⟩
  rw [fill_at apart found, Option.getD_some]

/-- A store of captures meets the condition on its mappings. -/
theorem unchanging_of_filled {elements : Nat} {content : Nat → Option (Nat → Nat)}
    (filled : Filled elements content state) : Unchanging state := by
  refine unchanging_of_data fun block inside mapped => ?_
  have covered := (inRange_iff_covered filled.live).mp inside
  cases found : content block with
  | none => exact absurd (filled.stores.absent covered found) mapped
  | some buf => exact (filled.stores.present covered found).area

/-- The part of a read by sectors. -/
def Slice.piece (slice : Slice) : Piece := ⟨slice.device / sectorSize, slice.len / sectorSize⟩

theorem readGetMode_pieces (mode : Option ReadMode) (slices : List Slice) :
    readGetMode mode slices = snapReadGetMode mode (slices.map Slice.piece) := by
  induction slices generalizing mode with
  | nil => rfl
  | cons slice rest ih =>
      have block : slice.piece.block = slice.device / cowBlockSize := Nat.div_div_eq_div_mul ..
      rw [List.map_cons]
      cases mode with
      | none =>
          unfold readGetMode snapReadGetMode
          rw [block]
          simp only [ih]
      | some mode =>
          unfold readGetMode snapReadGetMode
          rw [block]
          simp only [ih]

theorem cut_pieces (page : Nat) {fuel fuel' count : Nat} (offset sector : Nat)
    (enough : sectorSize * count ≤ fuel) (enough' : count ≤ fuel') :
    (cut page fuel offset (sectorSize * count) (sector * sectorSize)).map Slice.piece =
      segmentPieces fuel' sector count := by
  induction fuel' generalizing fuel count offset sector with
  | zero =>
      have nothing : count = 0 := by omega
      rw [nothing, Nat.mul_zero, cut_zero]
      rfl
  | succ fuel' ih =>
      unfold segmentPieces
      by_cases empty : count = 0
      · rw [if_pos empty, empty, Nat.mul_zero, cut_zero]
        rfl
      · have filled : sectorSize * count ≠ 0 := Nat.mul_ne_zero (by decide) empty
        cases fuel with
        | zero => omega
        | succ fuel =>
            unfold cut
            simp only [empty, filled, if_false]
            generalize counted : min (sectorsPerBlock - sector % sectorsPerBlock) count = taken
            have bytes : min (cowBlockSize - sector * sectorSize % cowBlockSize)
                (sectorSize * count) = sectorSize * taken := by
              unfold cowBlockSize sectorSize sectorsPerBlock at *
              omega
            have bounds : 0 < taken ∧ taken ≤ count := by
              unfold sectorsPerBlock at counted
              omega
            have device : sector * sectorSize + sectorSize * taken = (sector + taken) * sectorSize := by
              rw [Nat.add_mul, Nat.mul_comm sectorSize taken]
            rw [bytes, ← Nat.mul_sub, device, List.map_cons]
            have piece : Slice.piece ⟨page, offset, sectorSize * taken, sector * sectorSize⟩ =
                ⟨sector, taken⟩ := by
              unfold Slice.piece
              rw [Nat.mul_div_cancel _ (by decide), Nat.mul_div_cancel_left _ (by decide)]
            rw [piece, ih (offset + sectorSize * taken) (sector + taken) ?_ (by omega)]
            unfold sectorSize at *
            omega

/-- A fresh bio, with its segments by length alone, has the parts of the reads that the
device serves by words. -/
theorem Bio.Fresh.pieces (fresh : bio.Fresh) :
    bio.modeSlices.map Slice.piece =
      (⟨bio.iter.sector, bio.vecs.map PageVec.len⟩ : ReadBio).pieces := by
  have walks : ∀ (vecs : List PageVec) sector, (∀ vec ∈ vecs, sectorSize ∣ vec.len) →
      (modeWalk (sector * sectorSize) vecs).map Slice.piece =
        vecPieces sector (vecs.map PageVec.len) := by
    intro vecs
    induction vecs with
    | nil => exact fun _ _ => rfl
    | cons vec rest ih =>
        intro sector sectors
        rw [List.forall_mem_cons] at sectors
        have whole : sectorSize * (vec.len / sectorSize) = vec.len := Nat.mul_div_cancel' sectors.1
        have pieces := @cut_pieces vec.page vec.len (vec.len / sectorSize) (vec.len / sectorSize)
          vec.offset sector whole.le (Nat.le_refl _)
        rw [whole] at pieces
        rw [modeWalk_cons, List.map_append, pieces, sectors_after sectors.1, ih _ sectors.2]
        rfl
  unfold Bio.modeSlices Bio.segments
  rw [fresh.idx, List.drop_zero, fresh.done, fresh.size, modeWalk_segmentsFrom]
  exact walks bio.vecs bio.iter.sector fresh.sectors

/-- Both models of a read choose the same mode. -/
theorem Bio.Fresh.mode_eq (fresh : bio.Fresh) :
    readGetMode none bio.modeSlices =
      snapReadBioGetMode ⟨bio.iter.sector, bio.vecs.map PageVec.len⟩ := by
  rw [readGetMode_pieces, fresh.pieces]
  rfl

/-- A store with one section, in which the second block is mapped. -/
def halfMapped : CowState :=
  ⟨{ CowManager.zero with
      dfilp := .opened
      dataOffset := 8192
      sectSize := 512
      totalSects := 1
      sects := some fun _ => ⟨true, 0, some fun pos => if pos = 1 then 9 else 0⟩ },
    some ⟨CowHeader.zero, fun _ => 5, 65536⟩, []⟩

/-- A read of the last sector of a block and the first one of the next. -/
def acrossBlocks : Bio := ⟨⟨7, 1024, 0, 0⟩, 1, [⟨0, 0, 1024⟩]⟩

theorem acrossBlocks_slices :
    acrossBlocks.modeSlices = [⟨0, 0, 512, 3584⟩, ⟨0, 512, 512, 4096⟩] := by decide +kernel

theorem snapshot_read_overlays_mapped_half :
    ∃ (result : Memory) (after : CowState),
      snapHandleReadBio acrossBlocks ⟨none, fun _ => 3, ⟨9, 0, 1, 0⟩⟩ (fun _ => 0) halfMapped =
        (.ok result, after) ∧ result (0, 0) = 3 ∧ result (0, 512) = 5 := by
  have addresses : acrossBlocks.addresses = PageVec.addresses ⟨0, 0, 1024⟩ := List.append_nil _
  have fresh : acrossBlocks.Fresh := ⟨rfl, rfl, rfl, rfl, by decide⟩
  have apart : acrossBlocks.addresses.Nodup := by
    rw [addresses]
    exact List.Nodup.map (fun first second same => (Prod.mk.inj same).2) List.nodup_range'
  have inv : CowInv halfMapped.cm halfMapped.file := by
    refine ⟨by decide, by decide, rfl, fun sects idx found _ empty => ?_⟩
    have data : (sects idx).hasData = true := by
      rw [← Option.some.inj found]
    rw [data] at empty
    exact absurd empty.symm Bool.false_ne_true
  have unchanging : Unchanging halfMapped := by
    refine unchanging_of_data fun block inside mapped => ?_
    have small : block % 512 = 1 := by
      by_contra other
      refine mapped ?_
      change (if block % 512 = 1 then 9 else 0) = 0
      exact if_neg other
    have value : halfMapped.lookup block = 9 := by
      change (if block % 512 = 1 then 9 else 0) = 9
      exact if_pos small
    rw [value]
    decide
  have reply : (snapHandleReadBio acrossBlocks ⟨none, fun _ => 3, ⟨9, 0, 1, 0⟩⟩ (fun _ => 0)
      halfMapped).1.isOk = true := by
    unfold snapHandleReadBio
    rw [acrossBlocks_slices]
    decide +kernel
  have address : ∀ index < 1024, (PageVec.addresses ⟨0, 0, 1024⟩)[index]? = some (0, index) := by
    intro index below
    unfold PageVec.addresses
    rw [List.getElem?_map, List.getElem?_range' below, Nat.one_mul, Nat.zero_add]
    rfl
  cases ran : snapHandleReadBio acrossBlocks ⟨none, fun _ => 3, ⟨9, 0, 1, 0⟩⟩ (fun _ => 0)
      halfMapped with
  | mk reply' after =>
      rw [ran] at reply
      cases reply' with
      | error reason => exact absurd reply Bool.false_ne_true
      | ok result =>
          obtain ⟨read, _⟩ := snapshot_read_overlays_mapped fresh apart inv unchanging ran
          rw [addresses] at read
          refine ⟨result, after, rfl, ?_, ?_⟩
          · rw [read 0 (0, 0) (address 0 (by decide))]
            rfl
          · rw [read 512 (0, 512) (address 512 (by decide))]
            rfl

end Moocbt.Device
