import Moocbt.Cow.Layout
import Moocbt.Device.Clones

/-! Which block numbers the handlers pass to the index, and for which devices the
array of sections has room for them. -/

namespace Moocbt.Device

open Cow Program

def sectorsPerPage (shift : Nat) : Nat := 2 ^ shift / sectorSize

/-- The read clones `snap_trace_bio` makes of so many pages from a sector on. Each is
cut short where its bio takes no more pages. -/
inductive Clone (shift : Nat) : Nat → Nat → ReadBio → Prop
  | made {sector pages fits : Nat} : fits ≤ pages →
      Clone shift sector pages ⟨sector, List.replicate fits (2 ^ shift)⟩
  | later {sector pages fits : Nat} {clone : ReadBio} : fits < pages →
      Clone shift (sector + fits * sectorsPerPage shift) (pages - fits) clone →
      Clone shift sector pages clone

/-- A read of the snapshot, a traced write and a sector set, each from the start of
the device. -/
inductive Access where
  | read (bio : ReadBio)
  | write (sect len : Nat)
  | mark (sset : SectorSet)

def Access.Inside (size : Nat) : Access → Prop
  | read bio => bio.sector * sectorSize + bio.size ≤ size * sectorSize
  | write sect len => sect + len ≤ size
  | mark sset => sset.sect + sset.len ≤ size

/-- `ROUND_DOWN` and `ROUND_UP` to whole blocks, in sectors. -/
def roundDown (sector : Nat) : Nat := sector / sectorsPerBlock * sectorsPerBlock
def roundUp (sector : Nat) : Nat := (sector + sectorsPerBlock - 1) / sectorsPerBlock * sectorsPerBlock

/-- The block numbers that reach `cow_read_mapping` or `__cow_write_mapping`: those of
the pieces of a read, from both of its loops, those a clone is written to, and those a
sector set marks. -/
inductive Access.Passes (shift : Nat) : Access → Nat → Prop
  | read {bio : ReadBio} {piece : Piece} : piece ∈ bio.pieces → Passes shift (.read bio) piece.block
  | write {sect len block : Nat} {clone : ReadBio} {data : Nat → Nat} :
      Clone shift (roundDown sect)
        ((roundUp (sect + len) - roundDown sect) / sectorsPerPage shift) clone →
      block ∈ (clone.fill data).blocks → Passes shift (.write sect len) block
  | mark {sset : SectorSet} {block : Nat} : block ∈ sset.blocks → Passes shift (.mark sset) block

/-- A manager for a device of so many sectors, as `__tracer_setup_cow` creates it. -/
def Created (shift size : Nat) (state : CowState) : Prop :=
  ∃ before, (∃ cacheSize fileMax uuid seqid,
      cowInitAt shift (size / sectorsPerBlock) cowSectionSize cacheSize fileMax uuid seqid before =
        (.ok (), state)) ∨
    ∃ cacheSize indexOnly,
      cowReloadAt shift (size / sectorsPerBlock) cowSectionSize cacheSize indexOnly before =
        (.ok (), state)

/-- The index has a section and an offset for the block. -/
structure InIndex (cm : CowManager) (block : Nat) : Prop where
  section_ : block / cm.sectSize < cm.totalSects
  offset : block % cm.sectSize < cm.sectSize

/-- The sizes that fit: with pages below 64 kB those of whole blocks, or those whose
last section has room left; with larger pages those of one section. -/
def SizeFits (shift size : Nat) : Prop :=
  size = 0 ∨
    if shift ≤ 15 then size % sectorsPerBlock = 0 ∨ size / sectorsPerBlock % cowSectionSize ≠ 0
    else sectorsPerBlock ≤ size ∧ size ≤ cowSectionSize * sectorsPerBlock

variable {shift size block : Nat} {state : CowState}

theorem Created.laidOut (created : Created shift size state) :
    LaidOut shift (size / sectorsPerBlock) state := by
  obtain ⟨before, ⟨cacheSize, fileMax, uuid, seqid, ran⟩ | ⟨cacheSize, indexOnly, ran⟩⟩ := created
  · have laid := wp_done (cowInitAt_laidOut shift _ cacheSize fileMax uuid seqid before) ran
    exact laid
  · have laid := wp_done (cowReloadAt_laidOut shift _ cacheSize indexOnly before) ran
    exact laid

/-- A created manager holds the blocks below a multiple of the section size. -/
theorem Created.inIndex_iff (created : Created shift size state) :
    InIndex state.cm block ↔
      block < cowSectionSize *
        ((size / sectorsPerBlock + sectionElements shift - 1) / sectionElements shift) := by
  have laid := created.laidOut
  unfold LaidOut CowState.sizes at laid
  have sectSize := congrArg Prod.fst laid
  have totalSects := congrArg Prod.snd laid
  dsimp only at sectSize totalSects
  have division : block / cowSectionSize < state.cm.totalSects ↔
      block < cowSectionSize * state.cm.totalSects := by
    rw [Nat.div_lt_iff_lt_mul cowSectionSize_pos, Nat.mul_comm]
  rw [← totalSects, ← division]
  constructor
  · intro inside
    rw [← sectSize]
    exact inside.section_
  · intro below
    refine ⟨by rw [sectSize]; exact below, ?_⟩
    rw [sectSize]
    exact Nat.mod_lt _ cowSectionSize_pos

/-- What is left of the arithmetic: the last block of the device is in the index. -/
theorem sizeFits_iff (large : 12 ≤ shift) :
    SizeFits shift size ↔
      (size + 7) / 8 ≤ cowSectionSize *
        ((size / sectorsPerBlock + sectionElements shift - 1) / sectionElements shift) := by
  rw [sectionElements_eq large]
  unfold SizeFits sectorsPerBlock cowSectionSize
  by_cases small : shift ≤ 15
  · rw [if_pos small, if_pos small]
    omega
  · rw [if_neg small, if_neg small]
    have wide : 2 ^ 13 ≤ 2 ^ (shift - 3) := Nat.pow_le_pow_right (by decide) (by omega)
    generalize 2 ^ (shift - 3) = width at wide ⊢
    generalize counted : (size / 8 + width - 1) / width = total
    have lower : total * width ≤ size / 8 + width - 1 := by
      rw [← counted]
      exact Nat.div_mul_le_self _ _
    have upper : size / 8 + width - 1 < (total + 1) * width := by
      rw [← counted, Nat.mul_comm]
      exact Nat.lt_mul_div_succ _ (by omega)
    rcases total with _ | _ | total
    · omega
    · omega
    · have many : (total + 1) * 8192 ≤ (total + 1) * width := Nat.mul_le_mul_left _ wide
      rw [Nat.add_mul, Nat.one_mul] at lower
      omega

theorem segmentPieces_sector {fuel sector remaining : Nat} {piece : Piece}
    (member : piece ∈ segmentPieces fuel sector remaining) : piece.sector < sector + remaining := by
  induction fuel generalizing sector remaining with
  | zero => contradiction
  | succ fuel ih =>
      unfold segmentPieces at member
      split at member
      · contradiction
      · rcases List.mem_cons.mp member with same | later
        · rw [same]
          dsimp only
          omega
        · have below := ih later
          omega

theorem vecPieces_sector {sector : Nat} {vecs : List Nat} {piece : Piece}
    (member : piece ∈ vecPieces sector vecs) :
    piece.sector * sectorSize < sector * sectorSize + vecs.sum := by
  induction vecs generalizing sector with
  | nil => contradiction
  | cons len rest ih =>
      unfold vecPieces at member
      rw [List.sum_cons]
      have whole := Nat.div_mul_le_self len sectorSize
      rcases List.mem_append.mp member with here | later
      · have below := segmentPieces_sector here
        unfold sectorSize at *
        omega
      · have below := ih later
        rw [Nat.add_mul] at below
        omega

theorem Clone.blocks_below {sector pages : Nat} {clone : ReadBio} {data : Nat → Nat}
    (large : 12 ≤ shift) (cloned : Clone shift sector pages clone)
    (aligned : sectorsPerBlock ∣ sector) (member : block ∈ (clone.fill data).blocks) :
    block * sectorsPerBlock < sector + pages * sectorsPerPage shift := by
  obtain ⟨extra, rfl⟩ := Nat.exists_eq_add_of_le large
  have page : sectorsPerPage (12 + extra) = 2 ^ extra * 8 := by
    unfold sectorsPerPage sectorSize
    rw [Nat.pow_add]
    omega
  have each : 2 ^ (12 + extra) / cowBlockSize = 2 ^ extra := by
    unfold cowBlockSize
    rw [Nat.pow_add]
    omega
  rw [page]
  induction cloned with
  | @made sector pages fits enough =>
      unfold WriteBio.blocks WriteBio.captures at member
      dsimp only [ReadBio.fill] at member
      rw [fillVecs_blocks, List.mem_range'_1, each] at member
      have whole : fits * 2 ^ extra ≤ pages * 2 ^ extra := Nat.mul_le_mul_right _ enough
      unfold sectorsPerBlock at aligned member ⊢
      rw [← Nat.mul_assoc]
      omega
  | @later sector pages fits clone fewer _ ih =>
      rw [page] at ih
      have split : fits * (2 ^ extra * 8) + (pages - fits) * (2 ^ extra * 8) =
          pages * (2 ^ extra * 8) := by
        rw [← Nat.add_mul, Nat.add_sub_cancel' (Nat.le_of_lt fewer)]
      have aligned' : sectorsPerBlock ∣ sector + fits * (2 ^ extra * 8) := by
        refine Nat.dvd_add aligned ?_
        rw [← Nat.mul_assoc]
        exact Nat.dvd_mul_left 8 _
      have below := ih aligned' member
      omega

/-- No handler passes a block past the end of the device, rounded up. -/
theorem Access.Passes.below {access : Access} (large : 12 ≤ shift) (inside : access.Inside size)
    (passes : access.Passes shift block) : block < (size + 7) / 8 := by
  cases passes with
  | @read bio piece member =>
      have below := vecPieces_sector member
      unfold Access.Inside ReadBio.size at inside
      unfold Piece.block sectorsPerBlock
      unfold sectorSize at below inside
      omega
  | @write sect len block clone data cloned member =>
      have aligned : sectorsPerBlock ∣ roundDown sect := Nat.dvd_mul_left _ _
      have below := cloned.blocks_below large aligned member
      have pages := Nat.div_mul_le_self (roundUp (sect + len) - roundDown sect)
        (sectorsPerPage shift)
      unfold Access.Inside at inside
      unfold roundUp roundDown sectorsPerBlock at *
      omega
  | @mark sset block member =>
      have below := (SectorSet.mem_blocks.mp member).2
      unfold Access.Inside at inside
      unfold SectorSet.endBlock numSegments blockLogSectors at below
      omega

/-- The last sector of a device is one a sector set may mark. -/
theorem Access.passes_last (shift : Nat) (some_ : size ≠ 0) :
    (Access.mark ⟨size - 1, 1⟩).Inside size ∧
      (Access.mark ⟨size - 1, 1⟩).Passes shift ((size - 1) / 8) := by
  refine ⟨?_, .mark (SectorSet.mem_blocks.mpr ?_)⟩
  · unfold Access.Inside
    dsimp only
    omega
  · unfold SectorSet.startBlock SectorSet.endBlock numSegments blockLogSectors sectorsPerBlock
    dsimp only
    omega

/-- Every block number a handler can pass is in the index exactly when the size of the
device fits its sections. -/
theorem block_numbers_fit_iff (large : 12 ≤ shift) (created : Created shift size state) :
    (∀ access : Access, access.Inside size → ∀ block, access.Passes shift block →
      InIndex state.cm block) ↔ SizeFits shift size := by
  rw [sizeFits_iff large]
  constructor
  · intro fits
    by_cases some_ : size = 0
    · subst some_
      exact Nat.zero_le _
    · obtain ⟨inside, passes⟩ := Access.passes_last shift some_
      have last := created.inIndex_iff.mp (fits _ inside _ passes)
      omega
  · intro fits access inside block passes
    have below := passes.below large inside
    exact created.inIndex_iff.mpr (by omega)

theorem block_numbers_fit_small :
    ∃ state : CowState, ∀ access : Access, access.Inside 100 → ∀ block,
      access.Passes 12 block → InIndex state.cm block := by
  have ran : cowInitAt 12 (100 / sectorsPerBlock) cowSectionSize 0 (100 * cowBlockSize) 0#128 1
      freshState = (.ok (), (cowInitAt 12 (100 / sectorsPerBlock) cowSectionSize 0
        (100 * cowBlockSize) 0#128 1 freshState).2) := ran_of_reply (by decide +kernel)
  exact ⟨_, (block_numbers_fit_iff (by decide) ⟨_, .inl ⟨_, _, _, _, ran⟩⟩).mpr
    (.inr (by decide))⟩

/-- A device of 32769 sectors: 4096 whole blocks fill one section, and marking the last
sector indexes the array past its end. -/
theorem odd_device_overruns_index :
    ∃ state, Created 12 32769 state ∧ (Access.mark ⟨32768, 1⟩).Inside 32769 ∧
      (Access.mark ⟨32768, 1⟩).Passes 12 4096 ∧ ¬ InIndex state.cm 4096 ∧
      (incHandleSset ⟨32768, 1⟩ state).1 = .error .oops := by
  have ran : cowInitAt 12 (32769 / sectorsPerBlock) cowSectionSize 0 (100 * cowBlockSize) 0#128 1
      freshState = (.ok (), (cowInitAt 12 (32769 / sectorsPerBlock) cowSectionSize 0
        (100 * cowBlockSize) 0#128 1 freshState).2) := ran_of_reply (by decide +kernel)
  have created : Created 12 32769 _ := ⟨_, .inl ⟨_, _, _, _, ran⟩⟩
  refine ⟨_, created, by unfold Access.Inside; decide, ?_, ?_, by decide +kernel⟩
  · exact .mark (by decide)
  · rw [created.inIndex_iff]
    decide

end Moocbt.Device
