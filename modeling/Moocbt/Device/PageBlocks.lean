import Moocbt.Device.Capturing
import Moocbt.Device.Overlay

/-! The buffers that `snap_handle_write_bio` passes to `cow_write_current`, by page and
offset. -/

namespace Moocbt.Device

open Cow Program

/-- A call of `cow_write_current` with the address of its buffer. -/
structure BlockCall where
  block : Nat
  page : Nat
  offset : Nat
  deriving DecidableEq, Repr

/-- The loop over the blocks of a segment; `data` stays at the start of the page. -/
def writeBlocks (page : Nat) : Nat → Nat → List BlockCall
  | 0, _ => []
  | count + 1, block => ⟨block, page, 0⟩ :: writeBlocks page count (block + 1)

def writeVecs : Nat → List PageVec → List BlockCall
  | _, [] => []
  | block, vec :: rest =>
      writeBlocks vec.page (vec.len / cowBlockSize) block ++
        writeVecs (block + vec.len / cowBlockSize) rest

namespace Bio

/-- The calls that `snap_handle_write_bio` makes while none of them fails. -/
def writeCalls (bio : Bio) : List BlockCall :=
  writeVecs (bio.iter.sector / sectorsPerBlock) bio.allSegments

/-- The data of a bio, by the addresses of its bytes. -/
def data (bio : Bio) : List (Nat × Nat) := bio.allSegments.flatMap PageVec.addresses

end Bio

/-- A call for each block in turn gets the block's own bytes. -/
def OwnBytes (block : Nat) (data : List (Nat × Nat)) (calls : List BlockCall) : Prop :=
  ∀ index call, calls[index]? = some call → call.block = block + index ∧
    ∀ byte < cowBlockSize,
      data[index * cowBlockSize + byte]? = some (call.page, call.offset + byte)

variable {vec : PageVec} {rest : List PageVec} {block : Nat}

theorem writeVecs_cons (block : Nat) (vec : PageVec) (rest : List PageVec) :
    writeVecs block (vec :: rest) =
      writeBlocks vec.page (vec.len / cowBlockSize) block ++
        writeVecs (block + vec.len / cowBlockSize) rest := rfl

theorem length_writeBlocks (page count block : Nat) :
    (writeBlocks page count block).length = count := by
  induction count generalizing block with
  | zero => rfl
  | succ count ih => simp only [writeBlocks, List.length_cons, ih]

theorem writeBlocks_at (page : Nat) {count block index : Nat} (below : index < count) :
    (writeBlocks page count block)[index]? = some ⟨block + index, page, 0⟩ := by
  induction count generalizing block index with
  | zero => omega
  | succ count ih =>
      cases index with
      | zero => rfl
      | succ index =>
          have later := @ih (block + 1) index (by omega)
          rw [Nat.add_right_comm] at later
          exact later

theorem length_addresses (vec : PageVec) : vec.addresses.length = vec.len := by
  simp [PageVec.addresses]

theorem addresses_at (vec : PageVec) {index : Nat} (below : index < vec.len) :
    vec.addresses[index]? = some (vec.page, vec.offset + index) := by
  unfold PageVec.addresses
  rw [List.getElem?_map, List.getElem?_range' below, Nat.one_mul]
  rfl

/-- The blocks of one segment get their own bytes only if there is one, at the start of its
page. -/
theorem ownBytes_cons_iff (whole : cowBlockSize ∣ vec.len) (filled : 0 < vec.len) :
    OwnBytes block ((vec :: rest).flatMap PageVec.addresses) (writeVecs block (vec :: rest)) ↔
      (vec.offset = 0 ∧ vec.len = cowBlockSize) ∧
        OwnBytes (block + vec.len / cowBlockSize) (rest.flatMap PageVec.addresses)
          (writeVecs (block + vec.len / cowBlockSize) rest) := by
  obtain ⟨count, size⟩ := whole
  have blocks : vec.len / cowBlockSize = count := by
    rw [size, Nat.mul_div_cancel_left _ (by decide)]
  have some : 0 < count := by
    rw [size] at filled
    exact Nat.pos_of_mul_pos_left filled
  rw [List.flatMap_cons, writeVecs_cons, blocks]
  generalize writeVecs (block + count) rest = calls
  generalize rest.flatMap PageVec.addresses = data
  have here : ∀ {index byte}, index < count → byte < cowBlockSize →
      (vec.addresses ++ data)[index * cowBlockSize + byte]? =
        Option.some (vec.page, vec.offset + (index * cowBlockSize + byte)) := by
    intro index byte below short
    have inside : index * cowBlockSize + byte < vec.len := by
      unfold cowBlockSize at size short ⊢
      omega
    rw [List.getElem?_append_left (by rwa [length_addresses]), addresses_at vec inside]
  have later : ∀ {index byte}, (vec.addresses ++ data)[(count + index) * cowBlockSize + byte]? =
      data[index * cowBlockSize + byte]? := by
    intro index byte
    have past : (count + index) * cowBlockSize + byte =
        vec.addresses.length + (index * cowBlockSize + byte) := by
      rw [length_addresses, size, Nat.add_mul, Nat.mul_comm cowBlockSize, Nat.add_assoc]
    rw [past, List.getElem?_append_right (Nat.le_add_right _ _), Nat.add_sub_cancel_left]
  have calls_later : ∀ index, (writeBlocks vec.page count block ++ calls)[count + index]? =
      calls[index]? := by
    intro index
    rw [List.getElem?_append_right (by rw [length_writeBlocks]; omega), length_writeBlocks,
      Nat.add_sub_cancel_left]
  have calls_here : ∀ index, index < count →
      (writeBlocks vec.page count block ++ calls)[index]? =
        Option.some ⟨block + index, vec.page, 0⟩ := by
    intro index below
    rw [List.getElem?_append_left (by rwa [length_writeBlocks]), writeBlocks_at _ below]
  constructor
  · intro own
    have first := (own 0 _ (calls_here 0 some)).2 0 (by decide)
    rw [here some (by decide)] at first
    have offset : vec.offset = 0 := by simpa using first
    have single : count = 1 := by
      -- the second block would get the bytes of the first
      by_contra more
      have second := (own 1 _ (calls_here 1 (by omega))).2 0 (by decide)
      rw [here (by omega) (by decide)] at second
      simp [cowBlockSize] at second
    refine ⟨⟨offset, by rw [size, single, Nat.mul_one]⟩, fun index call found => ?_⟩
    obtain ⟨named, bytes⟩ := own (count + index) call ((calls_later index).trans found)
    refine ⟨by rw [named, Nat.add_assoc], fun byte short => ?_⟩
    rw [← later]
    exact bytes byte short
  · intro holds
    obtain ⟨⟨offset, length⟩, own⟩ := holds
    have single : count = 1 := by
      rw [size] at length
      exact Nat.eq_of_mul_eq_mul_left (by decide) (length.trans (Nat.mul_one _).symm)
    subst single
    intro index call found
    cases index with
    | zero =>
        cases (calls_here 0 some).symm.trans found
        refine ⟨rfl, fun byte short => ?_⟩
        rw [here some short, offset, Nat.zero_mul, Nat.zero_add, Nat.zero_add]
    | succ index =>
        rw [Nat.add_comm index] at found ⊢
        obtain ⟨named, bytes⟩ := own index call ((calls_later index).symm.trans found)
        refine ⟨by rw [named, Nat.add_assoc], fun byte short => ?_⟩
        rw [later]
        exact bytes byte short

theorem length_writeVecs {vecs : List PageVec} (whole : ∀ vec ∈ vecs, cowBlockSize ∣ vec.len)
    (block : Nat) :
    (writeVecs block vecs).length = (vecs.flatMap PageVec.addresses).length / cowBlockSize := by
  induction vecs generalizing block with
  | nil => rfl
  | cons vec rest ih =>
      rw [List.forall_mem_cons] at whole
      obtain ⟨⟨count, size⟩, later⟩ := whole
      rw [List.flatMap_cons, List.length_append, length_addresses, size,
        Nat.mul_add_div (by decide), ← ih later (block + count), writeVecs_cons,
        List.length_append, length_writeBlocks, size, Nat.mul_div_cancel_left _ (by decide)]

/-- A write clone passes one call for each of its blocks. -/
structure Bio.PassesBlocks (bio : Bio) : Prop where
  count : bio.writeCalls.length = bio.data.length / cowBlockSize
  own : OwnBytes (bio.iter.sector / sectorsPerBlock) bio.data bio.writeCalls

/-- Each block of a bio is passed with its own bytes exactly when every segment is one block
at the start of its page. -/
theorem blocks_get_own_bytes_iff {bio : Bio}
    (whole : ∀ vec ∈ bio.allSegments, cowBlockSize ∣ vec.len ∧ 0 < vec.len) :
    bio.PassesBlocks ↔ ∀ vec ∈ bio.allSegments, vec.offset = 0 ∧ vec.len = cowBlockSize := by
  have own : ∀ (vecs : List PageVec) block, (∀ vec ∈ vecs, cowBlockSize ∣ vec.len ∧ 0 < vec.len) →
      (OwnBytes block (vecs.flatMap PageVec.addresses) (writeVecs block vecs) ↔
        ∀ vec ∈ vecs, vec.offset = 0 ∧ vec.len = cowBlockSize) := by
    intro vecs
    induction vecs with
    | nil =>
        intro block _
        refine iff_of_true (fun index call found => ?_) fun vec member =>
          absurd member List.not_mem_nil
        simp [writeVecs] at found
    | cons vec rest ih =>
        intro block whole
        rw [List.forall_mem_cons] at whole
        rw [ownBytes_cons_iff whole.1.1 whole.1.2, ih _ whole.2, List.forall_mem_cons]
  refine Iff.trans ⟨Bio.PassesBlocks.own, fun own => ⟨?_, own⟩⟩ (own _ _ whole)
  exact length_writeVecs (fun vec member => (whole vec member).1) _

/-- The calls are those of the handler on the pages' contents, here by words. -/
theorem snapHandleWriteBio_calls (bio : Bio) (words : Nat → Nat → Nat) :
    snapHandleWriteBio
        ⟨bio.iter.sector, bio.allSegments.map fun vec => ⟨vec.len, words vec.page⟩⟩ =
      captureAll (bio.writeCalls.map fun call =>
        (call.block, fun word => words call.page (call.offset / 8 + word))) := by
  have blocks : ∀ page count block, (List.range' block count).map (fun block => (block, words page)) =
      (writeBlocks page count block).map fun call =>
        (call.block, fun word => words call.page (call.offset / 8 + word)) := by
    intro page count
    induction count with
    | zero => exact fun _ => rfl
    | succ count ih =>
        intro block
        rw [List.range'_succ, List.map_cons, ih]
        simp only [writeBlocks, List.map_cons, Nat.zero_div, Nat.zero_add]
  have vecs : ∀ (vecs : List PageVec) block,
      vecCaptures block (vecs.map fun vec => ⟨vec.len, words vec.page⟩) =
        (writeVecs block vecs).map fun call =>
          (call.block, fun word => words call.page (call.offset / 8 + word)) := by
    intro vecs
    induction vecs with
    | nil => exact fun _ => rfl
    | cons vec rest ih =>
        intro block
        rw [writeVecs_cons, List.map_append, List.map_cons, ← blocks, ← ih]
        rfl
  rw [snapHandleWriteBio_eq]
  exact congrArg captureAll (vecs bio.allSegments (bio.iter.sector / sectorsPerBlock))

/-- Two segments of one block each, on pages of that size. -/
def smallPages : Bio := ⟨⟨8, 8192, 0, 0⟩, 2, [⟨0, 0, 4096⟩, ⟨1, 0, 4096⟩]⟩

/-- A segment of two blocks, on one page. -/
def largePage : Bio := ⟨⟨8, 8192, 0, 0⟩, 1, [⟨0, 0, 8192⟩]⟩

theorem blocks_get_own_bytes_iff_small : smallPages.PassesBlocks :=
  (blocks_get_own_bytes_iff (by decide)).mpr (by decide)

/-- The second block is passed with the bytes of the first. -/
theorem blocks_get_own_bytes_large :
    largePage.writeCalls = [⟨1, 0, 0⟩, ⟨2, 0, 0⟩] ∧
      largePage.data[cowBlockSize]? = some (0, cowBlockSize) ∧ ¬ largePage.PassesBlocks := by
  have data : largePage.data = PageVec.addresses ⟨0, 0, 8192⟩ := List.append_nil _
  have second : largePage.data[cowBlockSize]? = some (0, cowBlockSize) := by
    rw [data, addresses_at _ (by decide)]
    rfl
  refine ⟨by decide, second, fun passes => ?_⟩
  have own := (passes.own 1 ⟨2, 0, 0⟩ rfl).2 0 (by decide)
  rw [Nat.one_mul, Nat.add_zero, second] at own
  exact absurd own (by decide)

end Moocbt.Device
