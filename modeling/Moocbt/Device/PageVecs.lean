import Moocbt.Device.Bios

/-! A bio with its iterator and its pages: the two walks of `snap_handle_read_bio` over the
bytes of a read. -/

namespace Moocbt.Device

open Cow

/-- A `struct bio_vec`. -/
structure PageVec where
  page : Nat
  offset : Nat
  len : Nat
  deriving DecidableEq, Repr

/-- A `struct bvec_iter`. -/
structure BvecIter where
  sector : Nat
  size : Nat
  idx : Nat
  done : Nat
  deriving DecidableEq, Repr

/-- A `struct bio`, with the vectors behind `bi_io_vec`, of which `bi_vcnt` are its own. -/
structure Bio where
  iter : BvecIter
  vcnt : Nat
  vecs : List PageVec
  deriving DecidableEq, Repr

/-- The bytes of some vectors. -/
def vecBytes (vecs : List PageVec) : Nat := (vecs.map PageVec.len).sum

/-- The steps of `bio_for_each_segment`, of which only the first begins inside a vector. -/
def segmentsFrom : List PageVec → Nat → Nat → List PageVec
  | [], _, _ => []
  | vec :: rest, done, size =>
      if size = 0 then []
      else
        let len := min (vec.len - done) size
        ⟨vec.page, vec.offset + done, len⟩ :: segmentsFrom rest 0 (size - len)

/-- A part of a bio in memory, and the byte of the device it stands for. -/
structure Slice where
  page : Nat
  offset : Nat
  len : Nat
  device : Nat
  deriving DecidableEq, Repr

/-- The inner loop of `snap_read_bio_get_mode`, with `curr_end_byte` at its end. The fuel is
the length of the segment. -/
def modeVec (vec : PageVec) : Nat → Nat → Nat → List Slice × Nat
  | 0, _, curr => ([], curr)
  | fuel + 1, bytes, curr =>
      if bytes < vec.len then
        let count := min (cowBlockSize - curr % cowBlockSize) (vec.len - bytes)
        let rest := modeVec vec fuel (bytes + count) (curr + count)
        (⟨vec.page, vec.offset + bytes, count, curr⟩ :: rest.1, rest.2)
      else ([], curr)

def modeWalk : Nat → List PageVec → List Slice
  | _, [] => []
  | curr, vec :: rest =>
      let walked := modeVec vec vec.len 0 curr
      walked.1 ++ modeWalk walked.2 rest

/-- The inner loop of `snap_handle_read_bio`, with `cur_sect` at its end. -/
def copyVec (vec : PageVec) : Nat → Nat → Nat → List Slice × Nat
  | 0, _, sect => ([], sect)
  | fuel + 1, bvecOff, sect =>
      if bvecOff < vec.offset + vec.len then
        let blockOff := sect * sectorSize % cowBlockSize
        let count := min (vec.offset + vec.len - bvecOff) (cowBlockSize - blockOff)
        let rest := copyVec vec fuel (bvecOff + count) (sect + count / sectorSize)
        (⟨vec.page, bvecOff, count, sect * sectorSize⟩ :: rest.1, rest.2)
      else ([], sect)

def copyWalk : Nat → List PageVec → List Slice
  | _, [] => []
  | sect, vec :: rest =>
      let walked := copyVec vec vec.len vec.offset sect
      walked.1 ++ copyWalk walked.2 rest

namespace Bio

/-- What `bio_for_each_segment` visits. -/
def segments (bio : Bio) : List PageVec :=
  segmentsFrom (bio.vecs.drop bio.iter.idx) bio.iter.done bio.iter.size

/-- What `bio_for_each_segment_all` visits. -/
def allSegments (bio : Bio) : List PageVec := bio.vecs.take bio.vcnt

/-- The parts that `snap_read_bio_get_mode` looks at while it finds no mixture. -/
def modeSlices (bio : Bio) : List Slice := modeWalk (bio.iter.sector * sectorSize) bio.segments

/-- The parts that the second loop of `snap_handle_read_bio` copies. -/
def copySlices (bio : Bio) : List Slice := copyWalk bio.iter.sector bio.allSegments

/-- The bio once the block layer has served it. -/
def consume (bio : Bio) (iter : BvecIter) : Bio := { bio with iter }

/-- The index, the size and the sector are set back; `bi_bvec_done` is not. -/
def restore (bio : Bio) (orig : BvecIter) : Bio :=
  { bio with iter := { orig with done := bio.iter.done } }

end Bio

/-- A stretch of memory, cut where the device has block boundaries. -/
def cut (page : Nat) : Nat → Nat → Nat → Nat → List Slice
  | 0, _, _, _ => []
  | fuel + 1, offset, len, device =>
      if len = 0 then []
      else
        let count := min (cowBlockSize - device % cowBlockSize) len
        ⟨page, offset, count, device⟩ ::
          cut page fuel (offset + count) (len - count) (device + count)

theorem cut_zero (page fuel offset device : Nat) : cut page fuel offset 0 device = [] := by
  cases fuel <;> simp [cut]

variable {vec : PageVec} {vecs : List PageVec}

theorem modeVec_eq (vec : PageVec) {fuel bytes : Nat} (curr : Nat) (within : bytes ≤ vec.len)
    (enough : vec.len - bytes ≤ fuel) :
    modeVec vec fuel bytes curr =
      (cut vec.page fuel (vec.offset + bytes) (vec.len - bytes) curr, curr + (vec.len - bytes)) := by
  induction fuel generalizing bytes curr with
  | zero =>
      have last : vec.len - bytes = 0 := by omega
      rw [last]
      rfl
  | succ fuel ih =>
      unfold modeVec cut
      by_cases more : bytes < vec.len
      · have left : vec.len - bytes ≠ 0 := by omega
        have block : curr % cowBlockSize < cowBlockSize := Nat.mod_lt _ (by decide)
        simp only [more, left, if_true, if_false]
        generalize counted : min (cowBlockSize - curr % cowBlockSize) (vec.len - bytes) = count
        have bounds : 0 < count ∧ count ≤ vec.len - bytes := by omega
        have later := @ih (bytes + count) (curr + count) (by omega) (by omega)
        rw [later, Nat.sub_add_eq, Nat.add_assoc vec.offset, Nat.add_assoc curr,
          Nat.add_sub_cancel' bounds.2]
      · have last : vec.len - bytes = 0 := by omega
        simp only [more, last, if_false, if_true, Nat.add_zero]

/-- Only the last part of a vector can end inside a sector. -/
theorem copyVec_eq (vec : PageVec) {fuel bvecOff : Nat} (sect : Nat)
    (within : bvecOff ≤ vec.offset + vec.len) (enough : vec.offset + vec.len - bvecOff ≤ fuel) :
    copyVec vec fuel bvecOff sect =
      (cut vec.page fuel bvecOff (vec.offset + vec.len - bvecOff) (sect * sectorSize),
        sect + (vec.offset + vec.len - bvecOff) / sectorSize) := by
  induction fuel generalizing bvecOff sect with
  | zero =>
      have last : vec.offset + vec.len - bvecOff = 0 := by omega
      rw [last, Nat.zero_div]
      rfl
  | succ fuel ih =>
      unfold copyVec cut
      by_cases more : bvecOff < vec.offset + vec.len
      · have left : vec.offset + vec.len - bvecOff ≠ 0 := by omega
        have block : sect * sectorSize % cowBlockSize < cowBlockSize := Nat.mod_lt _ (by decide)
        simp only [more, left, if_true, if_false]
        rw [Nat.min_comm]
        generalize counted :
          min (cowBlockSize - sect * sectorSize % cowBlockSize) (vec.offset + vec.len - bvecOff) =
            count
        have bounds : 0 < count ∧ count ≤ vec.offset + vec.len - bvecOff := by omega
        have later := @ih (bvecOff + count) (sect + count / sectorSize) (by omega) (by omega)
        rw [later, Nat.sub_add_eq]
        generalize vec.offset + vec.len - bvecOff = remaining at counted bounds
        unfold sectorSize cowBlockSize at *
        rcases Nat.eq_or_lt_of_le bounds.2 with all | part
        · simp only [all, Nat.sub_self, cut_zero, Nat.zero_div, Nat.add_zero]
        · -- the part ends at a block boundary, so its length is in sectors
          have whole : (sect + count / 512) * 512 = sect * 512 + count := by omega
          have sum : sect + count / 512 + (remaining - count) / 512 = sect + remaining / 512 := by
            omega
          rw [whole, sum]
      · have last : vec.offset + vec.len - bvecOff = 0 := by omega
        simp only [more, last, if_false, if_true, Nat.zero_div, Nat.add_zero]

theorem modeWalk_cons (curr : Nat) (vec : PageVec) (rest : List PageVec) :
    modeWalk curr (vec :: rest) =
      cut vec.page vec.len vec.offset vec.len curr ++ modeWalk (curr + vec.len) rest := by
  simp only [modeWalk, modeVec_eq vec curr (Nat.zero_le _) (Nat.sub_le vec.len 0), Nat.add_zero,
    Nat.sub_zero]

theorem copyWalk_cons (sect : Nat) (vec : PageVec) (rest : List PageVec) :
    copyWalk sect (vec :: rest) =
      cut vec.page vec.len vec.offset vec.len (sect * sectorSize) ++
        copyWalk (sect + vec.len / sectorSize) rest := by
  have whole : vec.offset + vec.len - vec.offset = vec.len := Nat.add_sub_cancel_left ..
  simp only [copyWalk, copyVec_eq vec sect (Nat.le_add_right _ _) whole.le, whole]

def sliceBytes (slices : List Slice) : Nat := (slices.map Slice.len).sum

theorem sliceBytes_append (before after : List Slice) :
    sliceBytes (before ++ after) = sliceBytes before + sliceBytes after := by
  simp only [sliceBytes, List.map_append, List.sum_append]

theorem vecBytes_cons (vec : PageVec) (rest : List PageVec) :
    vecBytes (vec :: rest) = vec.len + vecBytes rest := by
  simp only [vecBytes, List.map_cons, List.sum_cons]

theorem vecBytes_append (before after : List PageVec) :
    vecBytes (before ++ after) = vecBytes before + vecBytes after := by
  simp only [vecBytes, List.map_append, List.sum_append]

theorem sliceBytes_cut (page : Nat) {fuel len : Nat} (offset device : Nat) (enough : len ≤ fuel) :
    sliceBytes (cut page fuel offset len device) = len := by
  induction fuel generalizing offset len device with
  | zero =>
      have nothing : len = 0 := by omega
      subst nothing
      rfl
  | succ fuel ih =>
      unfold cut
      by_cases empty : len = 0
      · subst empty
        rfl
      · have block : device % cowBlockSize < cowBlockSize := Nat.mod_lt _ (by decide)
        simp only [empty, if_false]
        generalize counted : min (cowBlockSize - device % cowBlockSize) len = count
        have bounds : 0 < count ∧ count ≤ len := by omega
        have later := @ih (len - count) (offset + count) (device + count) (by omega)
        unfold sliceBytes at later ⊢
        rw [List.map_cons, List.sum_cons, later]
        exact Nat.add_sub_cancel' bounds.2

theorem sliceBytes_modeWalk (curr : Nat) (vecs : List PageVec) :
    sliceBytes (modeWalk curr vecs) = vecBytes vecs := by
  induction vecs generalizing curr with
  | nil => rfl
  | cons vec rest ih =>
      rw [modeWalk_cons, sliceBytes_append, sliceBytes_cut _ _ _ (Nat.le_refl _), ih,
        vecBytes_cons]

theorem sliceBytes_copyWalk (sect : Nat) (vecs : List PageVec) :
    sliceBytes (copyWalk sect vecs) = vecBytes vecs := by
  induction vecs generalizing sect with
  | nil => rfl
  | cons vec rest ih =>
      rw [copyWalk_cons, sliceBytes_append, sliceBytes_cut _ _ _ (Nat.le_refl _), ih,
        vecBytes_cons]

theorem cut_head {page fuel offset len device : Nat} (some : 0 < len) (enough : len ≤ fuel)
    (rest : List Slice) :
    (cut page fuel offset len device ++ rest).head?.map Slice.device = Option.some device := by
  cases fuel with
  | zero => omega
  | succ fuel =>
      have filled : len ≠ 0 := by omega
      simp only [cut, filled, if_false, List.cons_append, List.head?_cons, Option.map_some]

theorem sectors_after {sect len : Nat} (whole : sectorSize ∣ len) :
    sect * sectorSize + len = (sect + len / sectorSize) * sectorSize := by
  rw [Nat.add_mul, Nat.div_mul_cancel whole]

theorem walks_agree {sect : Nat} (sectors : ∀ vec ∈ vecs.dropLast, sectorSize ∣ vec.len) :
    modeWalk (sect * sectorSize) vecs = copyWalk sect vecs := by
  induction vecs generalizing sect with
  | nil => rfl
  | cons vec rest ih =>
      rw [modeWalk_cons, copyWalk_cons]
      cases rest with
      | nil => rfl
      | cons second rest =>
          rw [List.dropLast_cons_cons, List.forall_mem_cons] at sectors
          rw [sectors_after sectors.1, ih sectors.2]

/-- The walks go apart behind a vector that ends inside a sector. -/
theorem walks_agree_iff {sect : Nat} (filled : ∀ vec ∈ vecs, 0 < vec.len) :
    modeWalk (sect * sectorSize) vecs = copyWalk sect vecs ↔
      ∀ vec ∈ vecs.dropLast, sectorSize ∣ vec.len := by
  refine ⟨fun same => ?_, walks_agree⟩
  induction vecs generalizing sect with
  | nil => exact fun vec member => absurd member List.not_mem_nil
  | cons vec rest ih =>
      rw [modeWalk_cons, copyWalk_cons, List.append_right_inj] at same
      cases rest with
      | nil => exact fun vec member => absurd member List.not_mem_nil
      | cons second rest =>
          have some := filled second (List.mem_cons_of_mem _ List.mem_cons_self)
          have heads := congrArg (fun slices => slices.head?.map Slice.device) same
          simp only [modeWalk_cons, copyWalk_cons, cut_head some (Nat.le_refl _),
            Option.some.injEq] at heads
          have whole : sectorSize ∣ vec.len := by
            refine (Nat.dvd_add_right (Nat.dvd_mul_left _ sect)).mp ?_
            rw [heads]
            exact Nat.dvd_mul_left _ _
          rw [sectors_after whole] at same
          rw [List.dropLast_cons_cons, List.forall_mem_cons]
          exact ⟨whole, ih (fun vec member => filled vec (List.mem_cons_of_mem _ member)) same⟩

theorem segmentsFrom_bytes {done size : Nat} (inside : done + size ≤ vecBytes vecs)
    (within : ∀ vec ∈ vecs.head?, done ≤ vec.len) :
    vecBytes (segmentsFrom vecs done size) = size := by
  induction vecs generalizing done size with
  | nil =>
      have none : done + size ≤ 0 := inside
      have nothing : size = 0 := by omega
      rw [nothing]
      rfl
  | cons vec rest ih =>
      unfold segmentsFrom
      by_cases empty : size = 0
      · rw [if_pos empty, empty]
        rfl
      · rw [vecBytes_cons] at inside
        have begun : done ≤ vec.len := within vec rfl
        simp only [empty, if_false]
        rw [vecBytes_cons, ih (by omega) fun vec _ => Nat.zero_le _]
        exact Nat.add_sub_cancel' (Nat.min_le_right _ _)

theorem segmentsFrom_zero (vecs : List PageVec) (done : Nat) : segmentsFrom vecs done 0 = [] := by
  cases vecs <;> simp [segmentsFrom]

theorem segmentsFrom_all (filled : ∀ vec ∈ vecs, 0 < vec.len) :
    segmentsFrom vecs 0 (vecBytes vecs) = vecs := by
  induction vecs with
  | nil => rfl
  | cons vec rest ih =>
      have some := filled vec List.mem_cons_self
      have size : vecBytes (vec :: rest) ≠ 0 := by
        rw [vecBytes_cons]
        omega
      have later := ih fun vec member => filled vec (List.mem_cons_of_mem _ member)
      simp only [segmentsFrom, size, if_false]
      rw [vecBytes_cons, Nat.sub_zero, Nat.min_eq_left (Nat.le_add_right _ _),
        Nat.add_sub_cancel_left, later, Nat.add_zero]

theorem vecBytes_eq_zero (filled : ∀ vec ∈ vecs, 0 < vec.len) (none : vecBytes vecs = 0) :
    vecs = [] := by
  cases vecs with
  | nil => rfl
  | cons vec rest =>
      have some := filled vec List.mem_cons_self
      rw [vecBytes_cons] at none
      omega

/-- A bio as the block layer may pass it: its iterator stays inside its vectors, and it owns
all of them or, as a clone that shares those of another bio, none. -/
structure Bio.Valid (bio : Bio) : Prop where
  owner : bio.vcnt = 0 ∨ bio.vcnt = bio.vecs.length
  filled : ∀ vec ∈ bio.vecs, 0 < vec.len
  within : ∀ vec ∈ (bio.vecs.drop bio.iter.idx).head?, bio.iter.done ≤ vec.len
  inside : bio.iter.done + bio.iter.size ≤ vecBytes (bio.vecs.drop bio.iter.idx)

/-- The iterator has exactly the vectors the bio owns before it, and none but the last of
them ends inside a sector. -/
def Bio.Whole (bio : Bio) : Prop :=
  bio.iter.size = vecBytes bio.allSegments ∧
    ∀ vec ∈ bio.allSegments.dropLast, sectorSize ∣ vec.len

instance (bio : Bio) : Decidable bio.Whole := inferInstanceAs (Decidable (_ ∧ _))

variable {bio : Bio}

theorem Bio.Valid.bytes (valid : bio.Valid) : vecBytes bio.segments = bio.iter.size :=
  segmentsFrom_bytes valid.inside valid.within

/-- An iterator with all the bytes of the vectors before it is at their beginning. -/
theorem Bio.Valid.segments_eq (valid : bio.Valid)
    (size : bio.iter.size = vecBytes bio.allSegments) : bio.segments = bio.allSegments := by
  have inside := valid.inside
  have before := vecBytes_append (bio.vecs.take bio.iter.idx) (bio.vecs.drop bio.iter.idx)
  rw [List.take_append_drop] at before
  unfold Bio.allSegments at size ⊢
  rcases valid.owner with none | all
  · rw [none, List.take_zero] at size ⊢
    have empty : bio.iter.size = 0 := size
    unfold Bio.segments
    rw [empty, segmentsFrom_zero]
  · rw [all, List.take_length] at size ⊢
    have start : bio.vecs.take bio.iter.idx = [] :=
      vecBytes_eq_zero (fun vec member => valid.filled vec (List.mem_of_mem_take member))
        (by omega)
    have whole : bio.vecs.drop bio.iter.idx = bio.vecs := by
      have joined := List.take_append_drop bio.iter.idx bio.vecs
      rwa [start, List.nil_append] at joined
    have done : bio.iter.done = 0 := by omega
    unfold Bio.segments
    rw [whole, done, size, segmentsFrom_all valid.filled]

/-- The two walks over a read visit the same parts exactly when the bio owns what its
iterator covers. -/
theorem phases_walk_alike_iff (valid : bio.Valid) (consumed : BvecIter) :
    bio.modeSlices = ((bio.consume consumed).restore bio.iter).copySlices ↔ bio.Whole := by
  change modeWalk (bio.iter.sector * sectorSize) bio.segments =
    copyWalk bio.iter.sector bio.allSegments ↔ _
  have filled : ∀ vec ∈ bio.allSegments, 0 < vec.len :=
    fun vec member => valid.filled vec (List.mem_of_mem_take member)
  constructor
  · intro same
    have size : bio.iter.size = vecBytes bio.allSegments := by
      have bytes := congrArg sliceBytes same
      rwa [sliceBytes_modeWalk, sliceBytes_copyWalk, valid.bytes] at bytes
    rw [valid.segments_eq size, walks_agree_iff filled] at same
    exact ⟨size, same⟩
  · intro whole
    rw [valid.segments_eq whole.1, walks_agree_iff filled]
    exact whole.2

/-- Two segments, the first of which begins inside a page. -/
def freshRead : Bio := ⟨⟨1, 1536, 0, 0⟩, 2, [⟨0, 512, 1024⟩, ⟨1, 0, 512⟩]⟩

/-- The same segments once a sector was cut off the front. -/
def splitRead : Bio := ⟨⟨2, 1024, 0, 512⟩, 2, [⟨0, 512, 1024⟩, ⟨1, 0, 512⟩]⟩

theorem freshRead_valid : freshRead.Valid := ⟨.inr rfl, by decide, by decide, by decide⟩

theorem splitRead_valid : splitRead.Valid := ⟨.inr rfl, by decide, by decide, by decide⟩

theorem phases_walk_alike_iff_fresh :
    freshRead.modeSlices =
      ((freshRead.consume ⟨4, 0, 2, 0⟩).restore freshRead.iter).copySlices :=
  (phases_walk_alike_iff freshRead_valid _).mpr (by decide)

/-- The copy begins at the first byte of the first vector, before the request, and ends as
far behind it. -/
theorem phases_walk_alike_split :
    splitRead.Valid ∧
      splitRead.modeSlices = [⟨0, 1024, 512, 1024⟩, ⟨1, 0, 512, 1536⟩] ∧
      ((splitRead.consume ⟨4, 0, 2, 0⟩).restore splitRead.iter).copySlices =
        [⟨0, 512, 1024, 1024⟩, ⟨1, 0, 512, 2048⟩] :=
  ⟨splitRead_valid, by decide +kernel, by decide +kernel⟩

end Moocbt.Device
