import Mathlib.Data.List.Pairwise
import Moocbt.Device.Bounds
import Moocbt.Device.PageBlocks

/-! The read clones of a write by absolute sectors, from the loop of `snap_trace_bio` to the
blocks that are passed once the clones have completed. -/

namespace Moocbt.Device

open Cow Scatter

/-- What the kernel gives for a clone: the address of its bio, the addresses of its pages,
and how many of these `bio_add_page` adds. -/
structure CloneRoom where
  bio : Nat
  page : Nat → Nat
  accepts : Nat
  accepts_pos : 0 < accepts
  distinct : page.Injective

/-- What the kernel gives for the clones of a write, with `BIO_MAX_PAGES` or `BIO_MAX_VECS`. -/
structure BlockLayer where
  maxVecs : Nat
  room : Nat → CloneRoom
  maxVecs_pos : 0 < maxVecs

/-- A clone, at its address. -/
structure ReadClone where
  address : Nat
  bio : Bio
  deriving DecidableEq, Repr

/-- The loop of `bio_make_read_clone`. -/
def addPages (room : CloneRoom) : Nat → Nat → List PageVec
  | 0, _ => []
  | left + 1, i =>
      if i < room.accepts then ⟨room.page i, 0, pageSize⟩ :: addPages room left (i + 1) else []

/-- `bio_make_read_clone`, with the bytes that were added. -/
def bioMakeReadClone (maxVecs : Nat) (room : CloneRoom) (sect pages : Nat) : ReadClone × Nat :=
  let actualPages := if maxVecs < pages then maxVecs else pages
  let vecs := addPages room actualPages 0
  let total := vecBytes vecs
  (⟨room.bio, ⟨sect, total, 0, 0⟩, vecs.length, vecs⟩, total)

/-- The loop of `snap_trace_bio` while no allocation fails; `none` if it is still running
when the fuel is used up. -/
def snapTraceLoop (layer : BlockLayer) : Nat → Nat → Nat → Nat → Option (List ReadClone)
  | 0, _, _, _ => none
  | fuel + 1, n, startSect, pages =>
      let (newBio, bytes) := bioMakeReadClone layer.maxVecs (layer.room n) startSect pages
      if bytes / pageSize < pages then
        (snapTraceLoop layer fuel (n + 1) (startSect + bytes / sectorSize)
          (pages - bytes / pageSize)).map (newBio :: ·)
      else some [newBio]

/-- A write as `snap_trace_bio` gets it, in bytes from an absolute sector. -/
structure TracedRange where
  sector : Nat
  size : Nat
  sectOff : Nat
  size_pos : 0 < size
  sectors : sectorSize ∣ size
  inside : sectOff ≤ sector

namespace TracedRange

variable (write : TracedRange)

def startSect : Nat :=
  roundDown (write.sector - write.sectOff) + write.sectOff

def endSect : Nat :=
  roundUp (write.sector + write.size / sectorSize - write.sectOff) + write.sectOff

def pages : Nat := (write.endSect - write.startSect) / sectorsPerPage pageShift

/-- The clones of `snap_trace_bio`. -/
def snapTraceBio (layer : BlockLayer) (fuel : Nat) : Option (List ReadClone) :=
  snapTraceLoop layer fuel 0 write.startSect write.pages

/-- A block of the device has one of the sectors. -/
def Overlaps (block : Nat) : Prop :=
  ∃ sector, write.sector ≤ sector ∧ sector < write.sector + write.size / sectorSize ∧
    (sector - write.sectOff) / sectorsPerBlock = block

end TracedRange

namespace ReadClone

def start (clone : ReadClone) : Nat := clone.bio.iter.sector

def stop (clone : ReadClone) : Nat := clone.start + clone.bio.iter.size / sectorSize

end ReadClone

/-- The clones follow each other and make up the blocks of the write. -/
structure TracedRange.Tiled (write : TracedRange) (clones : List ReadClone) : Prop where
  filled : ∀ clone ∈ clones, clone.start < clone.stop
  consecutive : clones.IsChain fun clone next => clone.stop = next.start
  hull : ∀ sector, (∃ clone ∈ clones, clone.start ≤ sector ∧ sector < clone.stop) ↔
    write.sectOff ≤ sector ∧ write.Overlaps ((sector - write.sectOff) / sectorsPerBlock)

/-- `struct bio_sector_map`. -/
structure BioSectorMap where
  bio : Nat
  sect : Nat
  size : Nat
  deriving DecidableEq, Repr

/-- The entry that `tp_add` appends. -/
def ReadClone.map (clone : ReadClone) : BioSectorMap :=
  ⟨clone.address, clone.bio.iter.sector, clone.bio.iter.size⟩

/-- What `__on_bio_read_complete` makes of the iterator, with the entries of the write. -/
def onBioReadComplete (bioSects : List BioSectorMap) (sectOff address : Nat) (bio : Bio) : Bio :=
  match bioSects.find? (·.bio == address) with
  | some map => { bio with iter := ⟨map.sect - sectOff, map.size, 0, bio.iter.done⟩ }
  | none => bio

/-- A read clone that was answered: the clones that had been added by then, where the block
layer left the iterator, what it read and memory when the thread has the clone. -/
structure Completion where
  clone : ReadClone
  added : List ReadClone
  left : BvecIter
  disk : Nat → Nat
  memory : Memory

namespace Completion

/-- The calls of `cow_write_current` for the clone. -/
def calls (completion : Completion) (sectOff : Nat) : List BlockCall :=
  (onBioReadComplete (completion.added.map ReadClone.map) sectOff completion.clone.address
    (completion.clone.bio.consume completion.left)).writeCalls

/-- The clone is one of those added, no later one has its address while it is there, and
nobody but the read has touched its pages. -/
structure Possible (completion : Completion) (clones : List ReadClone) : Prop where
  begun : completion.added <+: clones
  alive : ∃ before after, completion.added = before ++ completion.clone :: after ∧
    completion.clone.address ∉ after.map ReadClone.address
  held : ∃ before : Memory, ∀ addr ∈ completion.clone.bio.data,
    completion.memory addr = fill (fun byte => some (completion.disk byte))
      (completion.clone.start * sectorSize) completion.clone.bio.data before addr

end Completion

/-- Each of the blocks is passed once, with the bytes that its clone read for it. -/
structure TracedRange.Captured (write : TracedRange) (completions : List Completion) : Prop where
  once : (completions.flatMap fun completion =>
    (completion.calls write.sectOff).map BlockCall.block).Nodup
  blocks : ∀ block, (∃ completion ∈ completions, ∃ call ∈ completion.calls write.sectOff,
    call.block = block) ↔ write.Overlaps block
  bytes : ∀ completion ∈ completions, ∀ call ∈ completion.calls write.sectOff,
    ∀ byte < cowBlockSize, completion.memory (call.page, call.offset + byte) =
      completion.disk ((write.sectOff * sectorSize) + call.block * cowBlockSize + byte)

/-- The pages that the clones before the `n`-th may take. -/
def BlockLayer.taken (layer : BlockLayer) (n : Nat) : Nat :=
  ((List.range n).map fun k => min (layer.room k).accepts layer.maxVecs).sum

/-- No clone gets the address of an earlier one of the same write. -/
def BlockLayer.FreshAddresses (layer : BlockLayer) (pages : Nat) : Prop :=
  ∀ n, layer.taken n < pages → ∀ k < n, (layer.room k).bio ≠ (layer.room n).bio

namespace BlockLayer

theorem taken_zero (layer : BlockLayer) : layer.taken 0 = 0 := rfl

theorem taken_succ (layer : BlockLayer) (n : Nat) :
    layer.taken (n + 1) = layer.taken n + min (layer.room n).accepts layer.maxVecs := by
  unfold taken
  rw [List.range_succ, List.map_append, List.sum_append]
  simp

theorem taken_mono (layer : BlockLayer) {n later : Nat} (order : n ≤ later) :
    layer.taken n ≤ layer.taken later := by
  induction later, order using Nat.le_induction with
  | base => exact Nat.le_refl _
  | succ later _ ih =>
      rw [taken_succ]
      exact Nat.le_add_right_of_le ih

end BlockLayer

/-- A clone of so many pages. -/
def CloneRoom.clone (room : CloneRoom) (sect count : Nat) : ReadClone :=
  ⟨room.bio, ⟨sect, count * pageSize, 0, 0⟩, count,
    (List.range count).map fun i => ⟨room.page i, 0, pageSize⟩⟩

/-- Clones one behind the other, each as large as it can be. -/
def Laid (layer : BlockLayer) : Nat → Nat → Nat → List ReadClone → Prop
  | _, _, pages, [] => pages = 0
  | n, sect, pages, clone :: rest =>
      ∃ count, count = min pages (min (layer.room n).accepts layer.maxVecs) ∧ 0 < count ∧
        clone = (layer.room n).clone sect count ∧
        Laid layer (n + 1) (sect + count * sectorsPerBlock) (pages - count) rest

variable {layer : BlockLayer} {room : CloneRoom} {clones : List ReadClone} {clone : ReadClone}
  {n sect pages fuel : Nat}

theorem addPages_eq (room : CloneRoom) (left i : Nat) :
    addPages room left i =
      (List.range' i (min left (room.accepts - i))).map fun i => ⟨room.page i, 0, pageSize⟩ := by
  induction left generalizing i with
  | zero => simp [addPages]
  | succ left ih =>
      unfold addPages
      by_cases more : i < room.accepts
      · have count : min (left + 1) (room.accepts - i) =
            min left (room.accepts - (i + 1)) + 1 := by omega
        rw [if_pos more, ih, count, List.range'_succ, List.map_cons]
      · have count : min (left + 1) (room.accepts - i) = 0 := by omega
        rw [if_neg more, count]
        rfl

theorem vecBytes_pages (page : Nat → Nat) (indices : List Nat) :
    vecBytes (indices.map fun i => ⟨page i, 0, pageSize⟩) = indices.length * pageSize := by
  induction indices with
  | nil => rfl
  | cons i rest ih =>
      rw [List.map_cons, vecBytes_cons, ih, List.length_cons, Nat.succ_mul, Nat.add_comm]

theorem bioMakeReadClone_eq (layer : BlockLayer) (n sect pages : Nat) :
    bioMakeReadClone layer.maxVecs (layer.room n) sect pages =
      let count := min pages (min (layer.room n).accepts layer.maxVecs)
      ((layer.room n).clone sect count, count * pageSize) := by
  have count : min (if layer.maxVecs < pages then layer.maxVecs else pages)
      ((layer.room n).accepts - 0) = min pages (min (layer.room n).accepts layer.maxVecs) := by
    split <;> omega
  unfold bioMakeReadClone CloneRoom.clone
  simp only [addPages_eq, count, vecBytes_pages, List.length_range', List.length_map,
    List.range_eq_range']

/-- One turn of the loop. -/
theorem snapTraceLoop_succ (layer : BlockLayer) (fuel n sect pages : Nat) :
    snapTraceLoop layer (fuel + 1) n sect pages =
      let count := min pages (min (layer.room n).accepts layer.maxVecs)
      if count < pages then
        (snapTraceLoop layer fuel (n + 1) (sect + count * sectorsPerBlock) (pages - count)).map
          ((layer.room n).clone sect count :: ·)
      else some [(layer.room n).clone sect count] := by
  have bytes : ∀ count, count * pageSize / pageSize = count :=
    fun count => Nat.mul_div_cancel _ (by decide)
  have sectors : ∀ count, count * pageSize / sectorSize = count * sectorsPerBlock := by
    intro count
    unfold pageSize sectorSize sectorsPerBlock
    omega
  simp only [snapTraceLoop, bioMakeReadClone_eq, bytes, sectors]

theorem taken_some (layer : BlockLayer) (n : Nat) (more : 0 < pages) :
    0 < min pages (min (layer.room n).accepts layer.maxVecs) := by
  have accepts := (layer.room n).accepts_pos
  have vecs := layer.maxVecs_pos
  omega

/-- Each clone takes a page at least, so the loop ends. -/
theorem snapTraceLoop_ends (more : 0 < pages) (enough : pages ≤ fuel) :
    ∃ clones, snapTraceLoop layer fuel n sect pages = some clones := by
  induction fuel generalizing n sect pages with
  | zero => omega
  | succ fuel ih =>
      rw [snapTraceLoop_succ]
      have some := taken_some layer n more
      simp only
      generalize min pages (min (layer.room n).accepts layer.maxVecs) = count at some ⊢
      by_cases rest : count < pages
      · obtain ⟨clones, ended⟩ := @ih (n + 1) (sect + count * sectorsPerBlock) (pages - count)
          (by omega) (by omega)
        rw [if_pos rest, ended]
        exact ⟨_, rfl⟩
      · rw [if_neg rest]
        exact ⟨_, rfl⟩

theorem laid_of_loop (more : 0 < pages)
    (ended : snapTraceLoop layer fuel n sect pages = some clones) :
    Laid layer n sect pages clones := by
  induction fuel generalizing n sect pages clones with
  | zero => contradiction
  | succ fuel ih =>
      rw [snapTraceLoop_succ] at ended
      have some := taken_some layer n more
      simp only at ended
      by_cases rest : min pages (min (layer.room n).accepts layer.maxVecs) < pages
      · rw [if_pos rest] at ended
        obtain ⟨later, again, rfl⟩ := Option.map_eq_some_iff.mp ended
        exact ⟨_, rfl, some, rfl, ih (by omega) again⟩
      · rw [if_neg rest] at ended
        cases ended
        exact ⟨_, rfl, some, rfl, Nat.sub_eq_zero_of_le (Nat.le_of_not_lt rest)⟩

theorem clone_start (room : CloneRoom) (sect count : Nat) : (room.clone sect count).start = sect :=
  rfl

theorem clone_stop (room : CloneRoom) (sect count : Nat) :
    (room.clone sect count).stop = sect + count * sectorsPerBlock := by
  change sect + count * pageSize / sectorSize = _
  unfold pageSize sectorSize sectorsPerBlock
  omega

namespace Laid

theorem filled (laid : Laid layer n sect pages clones) :
    ∀ clone ∈ clones, clone.start < clone.stop := by
  induction clones generalizing n sect pages with
  | nil => exact fun clone member => absurd member List.not_mem_nil
  | cons clone rest ih =>
      obtain ⟨count, _, some, rfl, laid⟩ := laid
      refine List.forall_mem_cons.mpr ⟨?_, ih laid⟩
      rw [clone_start, clone_stop]
      exact Nat.lt_add_of_pos_right (Nat.mul_pos some (by decide))

theorem consecutive (laid : Laid layer n sect pages clones) :
    clones.IsChain fun clone next => clone.stop = next.start := by
  induction clones generalizing n sect pages with
  | nil => exact .nil
  | cons clone rest ih =>
      obtain ⟨count, _, _, rfl, laid⟩ := laid
      cases rest with
      | nil => exact .singleton _
      | cons next rest =>
          refine .cons_cons ?_ (ih laid)
          obtain ⟨_, _, _, rfl, _⟩ := laid
          rw [clone_stop, clone_start]

/-- Together the clones are the blocks from the first sector on. -/
theorem covers (laid : Laid layer n sect pages clones) (sector : Nat) :
    (∃ clone ∈ clones, clone.start ≤ sector ∧ sector < clone.stop) ↔
      sect ≤ sector ∧ sector < sect + pages * sectorsPerBlock := by
  induction clones generalizing n sect pages with
  | nil =>
      have none : pages = 0 := laid
      rw [none]
      simp
  | cons clone rest ih =>
      obtain ⟨count, most, _, rfl, laid⟩ := laid
      have part : count ≤ pages := by omega
      rw [List.exists_mem_cons_iff, ih laid, clone_start, clone_stop]
      unfold sectorsPerBlock
      omega

theorem nil_of_zero (laid : Laid layer n sect 0 clones) : clones = [] := by
  cases clones with
  | nil => rfl
  | cons clone rest =>
      obtain ⟨count, most, some, _⟩ := laid
      omega

theorem made (laid : Laid layer n sect pages clones) :
    ∀ clone ∈ clones, ∃ (room : CloneRoom) (start count : Nat),
      0 < count ∧ clone = room.clone start count := by
  induction clones generalizing n sect pages with
  | nil => exact fun clone member => absurd member List.not_mem_nil
  | cons clone rest ih =>
      obtain ⟨count, _, some, same, laid⟩ := laid
      exact List.forall_mem_cons.mpr ⟨⟨_, _, count, some, same⟩, ih laid⟩

/-- The address of each clone, for as long as pages are left to take. -/
theorem address_at (laid : Laid layer n sect pages clones) {total : Nat}
    (sum : layer.taken n + pages = total) (i : Nat) :
    clones[i]?.map ReadClone.address =
      if layer.taken (n + i) < total then some (layer.room (n + i)).bio else none := by
  induction clones generalizing n sect pages i with
  | nil =>
      have none : pages = 0 := laid
      have later := layer.taken_mono (Nat.le_add_right n i)
      have past : ¬ layer.taken (n + i) < total := by omega
      rw [if_neg past]
      rfl
  | cons clone rest ih =>
      obtain ⟨count, most, some, rfl, laid⟩ := laid
      cases i with
      | zero =>
          have more : layer.taken (n + 0) < total := by
            rw [Nat.add_zero]
            omega
          rw [if_pos more]
          rfl
      | succ i =>
          have next := layer.taken_succ n
          have index : n + (i + 1) = n + 1 + i := by omega
          rw [index, List.getElem?_cons_succ]
          by_cases left : 0 < pages - count
          · exact ih laid (by omega) i
          · have ended : pages - count = 0 := by omega
            rw [ended] at laid
            have later := layer.taken_mono (Nat.le_add_right (n + 1) i)
            have past : ¬ layer.taken (n + 1 + i) < total := by omega
            rw [laid.nil_of_zero, if_neg past]
            rfl

theorem nodup_iff (laid : Laid layer 0 sect pages clones) :
    (clones.map ReadClone.address).Nodup ↔ layer.FreshAddresses pages := by
  have address := fun i => laid.address_at (layer.taken_zero ▸ Nat.zero_add pages) i
  have below : ∀ i, i < clones.length ↔ layer.taken i < pages := by
    intro i
    have here := address i
    rw [Nat.zero_add] at here
    by_cases inside : i < clones.length
    · rw [List.getElem?_eq_getElem inside] at here
      by_cases more : layer.taken i < pages
      · exact iff_of_true inside more
      · rw [if_neg more] at here
        contradiction
    · rw [List.getElem?_eq_none (Nat.le_of_not_lt inside)] at here
      by_cases more : layer.taken i < pages
      · rw [if_pos more] at here
        contradiction
      · exact iff_of_false inside more
  rw [List.nodup_iff_getElem?_ne_getElem?]
  unfold BlockLayer.FreshAddresses
  simp only [List.length_map, List.getElem?_map, address, Nat.zero_add, below]
  constructor
  · intro apart n more k earlier
    have before : layer.taken k < pages :=
      Nat.lt_of_le_of_lt (layer.taken_mono (Nat.le_of_lt earlier)) more
    have differ := apart k n earlier more
    rw [if_pos more, if_pos before] at differ
    exact fun same => differ (congrArg some same)
  · intro fresh k n earlier more
    have before : layer.taken k < pages :=
      Nat.lt_of_le_of_lt (layer.taken_mono (Nat.le_of_lt earlier)) more
    rw [if_pos more, if_pos before]
    exact fun same => fresh n more k earlier (Option.some.inj same)

theorem aligned {sectOff first : Nat} (laid : Laid layer n sect pages clones)
    (start : sect = sectOff + first * sectorsPerBlock) :
    ∀ clone ∈ clones, ∃ block, clone.start = sectOff + block * sectorsPerBlock := by
  induction clones generalizing n sect pages first with
  | nil => exact fun clone member => absurd member List.not_mem_nil
  | cons clone rest ih =>
      obtain ⟨count, _, _, rfl, laid⟩ := laid
      refine List.forall_mem_cons.mpr ⟨⟨first, start⟩, @ih _ _ _ (first + count) laid ?_⟩
      rw [start, Nat.add_mul, Nat.add_assoc]

end Laid

/-- The blocks of a clone, from the start of the device. -/
def ReadClone.blocks (sectOff : Nat) (clone : ReadClone) : List Nat :=
  List.range' ((clone.start - sectOff) / sectorsPerBlock) clone.bio.vcnt

theorem Laid.blocks {sectOff first : Nat} (laid : Laid layer n sect pages clones)
    (start : sect = sectOff + first * sectorsPerBlock) :
    clones.flatMap (ReadClone.blocks sectOff) = List.range' first pages := by
  induction clones generalizing n sect pages first with
  | nil =>
      have none : pages = 0 := laid
      rw [none]
      rfl
  | cons clone rest ih =>
      obtain ⟨count, most, _, rfl, laid⟩ := laid
      have here : ((layer.room n).clone sect count).blocks sectOff = List.range' first count := by
        change List.range' ((sect - sectOff) / sectorsPerBlock) count = _
        rw [start, Nat.add_sub_cancel_left, Nat.mul_div_cancel _ (by decide)]
      have later := @ih (n + 1) _ _ (first + count) laid (by rw [start, Nat.add_mul, Nat.add_assoc])
      rw [List.flatMap_cons, here, later, List.range'_append_1]
      congr 1
      omega

theorem OwnBytes.blocks {block : Nat} {data : List (Nat × Nat)} {calls : List BlockCall}
    (own : OwnBytes block data calls) :
    calls.map BlockCall.block = List.range' block calls.length := by
  refine List.ext_getElem? fun index => ?_
  rw [List.getElem?_map]
  by_cases inside : index < calls.length
  · rw [List.getElem?_range' inside, List.getElem?_eq_getElem inside, Nat.one_mul]
    exact congrArg some (own index _ (List.getElem?_eq_getElem inside)).1
  · rw [List.getElem?_eq_none (Nat.le_of_not_lt inside), List.getElem?_eq_none (by simpa using inside)]
    rfl

theorem length_data (bio : Bio) : bio.data.length = vecBytes bio.allSegments := by
  unfold Bio.data vecBytes
  rw [List.length_flatMap]
  congr 1
  exact List.map_congr_left fun vec _ => length_addresses vec

namespace CloneRoom

variable (room : CloneRoom) (start count : Nat)

theorem allSegments : (room.clone start count).bio.allSegments =
    (List.range count).map fun i => ⟨room.page i, 0, pageSize⟩ :=
  List.take_of_length_le (by simp [clone])

/-- A clone is made of single blocks at the start of their pages, wherever its iterator is. -/
theorem passes (iter : BvecIter) :
    ((room.clone start count).bio.consume iter).PassesBlocks := by
  have pages : ∀ vec ∈ (room.clone start count).bio.allSegments,
      vec.offset = 0 ∧ vec.len = cowBlockSize := by
    intro vec member
    rw [allSegments] at member
    obtain ⟨i, _, rfl⟩ := List.mem_map.mp member
    exact ⟨rfl, rfl⟩
  refine (blocks_get_own_bytes_iff fun vec member => ?_).mpr pages
  rw [(pages vec member).2]
  exact ⟨Nat.dvd_refl _, by decide⟩

theorem calls_blocks (iter : BvecIter) :
    ((room.clone start count).bio.consume iter).writeCalls.map BlockCall.block =
      List.range' (iter.sector / sectorsPerBlock) count := by
  have passes := room.passes start count iter
  have length : (room.clone start count).bio.data.length / cowBlockSize = count := by
    rw [length_data, allSegments, vecBytes_pages, List.length_range]
    exact Nat.mul_div_cancel _ (by decide)
  rw [passes.own.blocks, passes.count]
  exact congrArg (List.range' _) length

theorem data_nodup : (room.clone start count).bio.data.Nodup := by
  unfold Bio.data
  rw [allSegments, List.flatMap_map, List.nodup_flatMap]
  constructor
  · intro i _
    exact List.Nodup.map (fun offset other same => (Prod.mk.inj same).2) (List.nodup_range' _)
  · refine List.nodup_range.imp fun {i j} apart addr first second => apart (room.distinct ?_)
    obtain ⟨_, _, rfl⟩ := List.mem_map.mp first
    obtain ⟨_, _, same⟩ := List.mem_map.mp second
    exact (Prod.mk.inj same).1.symm

end CloneRoom

theorem onBioReadComplete_found {bioSects : List BioSectorMap} {address : Nat} {map : BioSectorMap}
    (found : bioSects.find? (·.bio == address) = some map) (sectOff : Nat) (bio : Bio) :
    onBioReadComplete bioSects sectOff address bio =
      bio.consume ⟨map.sect - sectOff, map.size, 0, bio.iter.done⟩ := by
  unfold onBioReadComplete Bio.consume
  rw [found]

theorem find_map (clones : List ReadClone) (address : Nat) :
    (clones.map ReadClone.map).find? (·.bio == address) =
      (clones.find? (·.address == address)).map ReadClone.map := List.find?_map

variable {completion : Completion} {sectOff : Nat}

theorem Completion.Possible.own (possible : completion.Possible clones) :
    completion.clone ∈ completion.added := by
  obtain ⟨before, after, added, _⟩ := possible.alive
  rw [added]
  exact List.mem_append_right _ List.mem_cons_self

/-- A clone finds the first entry with its address. -/
theorem Completion.Possible.find_first (possible : completion.Possible clones) :
    ∃ found, completion.added.find? (·.address == completion.clone.address) = some found ∧
      clones.find? (·.address == completion.clone.address) = some found := by
  cases first : completion.added.find? (·.address == completion.clone.address) with
  | none =>
      have absent := List.find?_eq_none.mp first _ possible.own
      simp at absent
  | some found => exact ⟨found, rfl, possible.begun.find?_eq_some first⟩

/-- With an address of its own a clone finds its own entry. -/
theorem Completion.Possible.find_own (possible : completion.Possible clones)
    (distinct : (clones.map ReadClone.address).Nodup) :
    completion.added.find? (·.address == completion.clone.address) = some completion.clone := by
  obtain ⟨found, first, among⟩ := possible.find_first
  have same : found.address = completion.clone.address := by
    simpa using List.find?_some first
  have here := possible.begun.subset possible.own
  rw [first, List.inj_on_of_nodup_map distinct (List.mem_of_find?_eq_some among) here same]

theorem Completion.calls_of_find {found : ReadClone}
    (first : completion.added.find? (·.address == completion.clone.address) = some found) :
    completion.calls sectOff =
      (completion.clone.bio.consume
        ⟨found.start - sectOff, found.bio.iter.size, 0, completion.left.done⟩).writeCalls := by
  unfold Completion.calls
  rw [onBioReadComplete_found (by rw [find_map, first]; rfl)]
  rfl

/-- The blocks that are passed are those of the clone that was found. -/
theorem Completion.calls_blocks {found : ReadClone}
    (made : ∃ (room : CloneRoom) (start count : Nat), 0 < count ∧
      completion.clone = room.clone start count)
    (first : completion.added.find? (·.address == completion.clone.address) = some found) :
    (completion.calls sectOff).map BlockCall.block =
      List.range' ((found.start - sectOff) / sectorsPerBlock) completion.clone.bio.vcnt := by
  obtain ⟨room, start, count, _, same⟩ := made
  rw [Completion.calls_of_find first, same]
  exact room.calls_blocks start count _

/-- The bytes behind a call are those the clone read for the block. -/
theorem Completion.Possible.bytes {call : BlockCall} (possible : completion.Possible clones)
    (made : ∃ (room : CloneRoom) (start count : Nat), 0 < count ∧
      completion.clone = room.clone start count)
    (aligned : ∃ block, completion.clone.start = sectOff + block * sectorsPerBlock)
    (own : completion.added.find? (·.address == completion.clone.address) = some completion.clone)
    (member : call ∈ completion.calls sectOff) {byte : Nat} (short : byte < cowBlockSize) :
    completion.memory (call.page, call.offset + byte) =
      completion.disk (sectOff * sectorSize + call.block * cowBlockSize + byte) := by
  obtain ⟨room, start, count, _, same⟩ := made
  obtain ⟨block, place⟩ := aligned
  obtain ⟨before, held⟩ := possible.held
  rw [Completion.calls_of_find own] at member
  obtain ⟨index, found⟩ := List.mem_iff_getElem?.mp member
  rw [same] at held place found
  obtain ⟨named, bytes⟩ := (room.passes start count _).own index call found
  have addr : (room.clone start count).bio.data[index * cowBlockSize + byte]? =
      some (call.page, call.offset + byte) := bytes byte short
  have position : (sectOff + block * sectorsPerBlock) * sectorSize + (index * cowBlockSize + byte) =
      sectOff * sectorSize + call.block * cowBlockSize + byte := by
    have first : (sectOff + block * sectorsPerBlock - sectOff) / sectorsPerBlock = block := by
      rw [Nat.add_sub_cancel_left, Nat.mul_div_cancel _ (by decide)]
    rw [named]
    simp only [Bio.consume, place, first]
    unfold sectorSize sectorsPerBlock cowBlockSize
    omega
  rw [held _ (List.mem_of_getElem? addr), fill_at (room.data_nodup start count) addr,
    Option.getD_some, place, position]

/-- A clone from the start of the device. -/
def ReadClone.relative (sectOff : Nat) (clone : ReadClone) : ReadBio :=
  ⟨clone.start - sectOff, List.replicate clone.bio.vcnt pageSize⟩

/-- The tracing function while nothing fails; an event is the number of pages a clone takes. -/
def Life.goOn (wiring : Wiring) (life : Life) (fits : Nat) : Option Life :=
  (life.trace wiring false fits).map Turn.life

theorem Life.sends_one {wiring : Wiring} {life : Life} {sector pages count : Nat}
    (here : life.pc = .makeClone sector pages) (some : 0 < count) (most : count ≤ pages) :
    ∃ later, Transition.Reachable (Life.goOn wiring) life later ∧
      later.sent = life.sent ++ [⟨sector, List.replicate count pageSize⟩] ∧
      later.pc = if 0 < pages - count then
        .makeClone (sector + count * sectorsPerBlock) (pages - count) else .drop := by
  let clone : ReadBio := ⟨sector, List.replicate count pageSize⟩
  let sector' := sector + count * sectorsPerBlock
  let added : Life :=
    { life with refs := life.refs + 1, pc := .addClone clone sector' (pages - count) }
  let counted : Life := { added with pc := .count clone sector' (pages - count) }
  let ready : Life := { added with pc := .submit clone sector' (pages - count) }
  let later : Life :=
    { added with
      flight := life.flight ++ [clone]
      sent := life.sent ++ [clone]
      pc := if 0 < pages - count then .makeClone sector' (pages - count) else .drop }
  have made : life.goOn wiring count = Option.some added := by
    unfold goOn trace
    rw [here]
    simp only [some, most, and_self, Bool.false_eq_true, if_true, if_false]
    rfl
  have steps : Transition.Reachable (goOn wiring) life ready :=
    .next (.next (.next .refl trivial made) trivial (rfl : added.goOn wiring 0 = Option.some counted))
      trivial (rfl : counted.goOn wiring 0 = Option.some ready)
  exact ⟨later, .next steps trivial (rfl : ready.goOn wiring 0 = Option.some later), rfl, rfl⟩

/-- The clones of the loop are those that the tracing function sends. -/
theorem Laid.sends {wiring : Wiring} {sectOff : Nat} {life : Life}
    (laid : Laid layer n sect pages clones) (start : sectOff ≤ sect) (some : 0 < pages)
    (here : life.pc = .makeClone (sect - sectOff) pages) :
    ∃ later, Transition.Reachable (Life.goOn wiring) life later ∧ later.pc = .drop ∧
      later.sent = life.sent ++ clones.map (ReadClone.relative sectOff) := by
  induction clones generalizing n sect pages life with
  | nil => exact absurd laid (Nat.ne_of_gt some)
  | cons clone rest ih =>
      obtain ⟨count, most, filled, rfl, laid⟩ := laid
      obtain ⟨middle, reached, sent, next⟩ :=
        @Life.sends_one wiring _ _ _ _ here filled (by omega)
      have relative : ((layer.room n).clone sect count).relative sectOff =
          ⟨sect - sectOff, List.replicate count pageSize⟩ := rfl
      by_cases more : 0 < pages - count
      · rw [if_pos more, ← Nat.sub_add_comm start] at next
        obtain ⟨later, further, dropped, all⟩ := ih laid (by omega) more next
        refine ⟨later, reached.trans further, dropped, ?_⟩
        rw [all, sent, List.map_cons, relative, List.append_assoc]
        rfl
      · rw [if_neg more] at next
        have ended : pages - count = 0 := by omega
        rw [ended] at laid
        rw [laid.nil_of_zero]
        exact ⟨middle, reached, next, sent⟩

namespace TracedRange

variable {write : TracedRange}

def firstBlock (write : TracedRange) : Nat := (write.sector - write.sectOff) / sectorsPerBlock

theorem startSect_eq (write : TracedRange) :
    write.startSect = write.sectOff + write.firstBlock * sectorsPerBlock := Nat.add_comm _ _

theorem count_pos (write : TracedRange) : 0 < write.size / sectorSize :=
  Nat.div_pos (Nat.le_of_dvd write.size_pos write.sectors) (by decide)

theorem overlaps_iff {block : Nat} :
    write.Overlaps block ↔
      write.firstBlock ≤ block ∧ block < write.firstBlock + write.pages := by
  have filled := write.count_pos
  have inside := write.inside
  unfold Overlaps pages endSect startSect firstBlock roundUp roundDown sectorsPerPage
  generalize write.size / sectorSize = count at filled ⊢
  have page : 2 ^ pageShift / sectorSize = 8 := rfl
  rw [page]
  unfold sectorsPerBlock
  constructor
  · intro overlaps
    obtain ⟨sector, lower, upper, here⟩ := overlaps
    omega
  · intro bounds
    by_cases first : block * 8 + write.sectOff ≤ write.sector
    · exact ⟨write.sector, by omega, by omega, by omega⟩
    · exact ⟨block * 8 + write.sectOff, by omega, by omega, by omega⟩

theorem pages_pos (write : TracedRange) : 0 < write.pages := by
  have first : write.Overlaps write.firstBlock :=
    ⟨write.sector, Nat.le_refl _, Nat.lt_add_of_pos_right write.count_pos, rfl⟩
  have bounds := overlaps_iff.mp first
  omega

/-- The range as the tracing function has it, from the start of the device. -/
theorem range_eq {life : Life} (sector : life.bio.sector = write.sector)
    (count : life.bio.count = write.size / sectorSize) :
    life.range write.sectOff = (write.firstBlock * sectorsPerBlock, write.pages) := by
  have inside := write.inside
  have page : 2 ^ pageShift / sectorSize = 8 := rfl
  unfold Life.range TracedRange.pages TracedRange.endSect TracedRange.startSect
    TracedRange.firstBlock roundUp roundDown sectorsPerPage numSegments blockLogSectors
  rw [sector, count, page]
  unfold sectorsPerBlock
  simp only [Prod.mk.injEq, true_and]
  omega

/-- The loop ends with these clones, they make up the blocks of the write, and once they have
completed, in whatever order, these blocks are captured. -/
structure Served (write : TracedRange) (layer : BlockLayer) (clones : List ReadClone) : Prop where
  ends : ∃ fuel, write.snapTraceBio layer fuel = some clones
  tiled : write.Tiled clones
  captured : ∀ completions : List Completion,
    (completions.map Completion.clone).Perm clones →
      (∀ completion ∈ completions, completion.Possible clones) → write.Captured completions

theorem tiled_of_laid (laid : Laid layer 0 write.startSect write.pages clones) :
    write.Tiled clones := by
  refine ⟨laid.filled, laid.consecutive, fun sector => ?_⟩
  rw [laid.covers, overlaps_iff, startSect_eq]
  unfold sectorsPerBlock
  omega

theorem captured_of_laid {completions : List Completion}
    (laid : Laid layer 0 write.startSect write.pages clones)
    (distinct : (clones.map ReadClone.address).Nodup)
    (order : (completions.map Completion.clone).Perm clones)
    (possible : ∀ completion ∈ completions, completion.Possible clones) :
    write.Captured completions := by
  have member : ∀ completion ∈ completions, completion.clone ∈ clones := fun completion served =>
    (possible completion served).begun.subset (possible completion served).own
  have passed : ∀ completion ∈ completions,
      (completion.calls write.sectOff).map BlockCall.block =
        completion.clone.blocks write.sectOff := fun completion served =>
    Completion.calls_blocks (laid.made _ (member completion served))
      ((possible completion served).find_own distinct)
  have all : (completions.flatMap fun completion =>
      (completion.calls write.sectOff).map BlockCall.block).Perm
        (List.range' write.firstBlock write.pages) := by
    rw [← laid.blocks write.startSect_eq, List.flatMap_congr passed]
    have clones := order.flatMap_right (ReadClone.blocks write.sectOff)
    rwa [List.flatMap_map] at clones
  refine ⟨all.nodup_iff.mpr (List.nodup_range' _), fun block => ?_, ?_⟩
  · have listed := all.mem_iff (a := block)
    simp only [List.mem_flatMap, List.mem_map, List.mem_range'_1] at listed
    rw [listed, overlaps_iff]
  · intro completion served call called byte short
    have here := member completion served
    exact (possible completion served).bytes (laid.made _ here)
      (laid.aligned write.startSect_eq _ here) ((possible completion served).find_own distinct)
      called short

/-- The clone is answered before the next one is made. -/
def promptAnswer (clones : List ReadClone) (clone : ReadClone) : Completion where
  clone
  added := clones.takeWhile (· != clone) ++ [clone]
  left := clone.bio.iter
  disk := fun _ => 0
  memory := fill (fun _ => some 0) (clone.start * sectorSize) clone.bio.data fun _ => 0

theorem promptAnswer_possible (member : clone ∈ clones) :
    (promptAnswer clones clone).Possible clones := by
  refine ⟨?_, ⟨_, [], rfl, List.not_mem_nil⟩, fun _ => 0, fun _ _ => rfl⟩
  change clones.takeWhile (· != clone) ++ [clone] <+: clones
  induction clones with
  | nil => exact absurd member List.not_mem_nil
  | cons first rest ih =>
      by_cases same : first = clone
      · subst same
        simp
      · have later : clone ∈ rest := (List.mem_cons.mp member).resolve_left (Ne.symm same)
        have kept : (first != clone) = true := by simpa using same
        simp only [List.takeWhile_cons, kept, if_true, List.cons_append]
        exact (List.prefix_cons_inj first).mpr (ih later)

theorem distinct_of_captured (laid : Laid layer 0 write.startSect write.pages clones)
    (captured : write.Captured (clones.map (promptAnswer clones))) :
    (clones.map ReadClone.address).Nodup := by
  have passed : ∀ clone ∈ clones, ∃ found,
      clones.find? (·.address == clone.address) = some found ∧
        ((promptAnswer clones clone).calls write.sectOff).map BlockCall.block =
          List.range' ((found.start - write.sectOff) / sectorsPerBlock) clone.bio.vcnt := by
    intro clone member
    obtain ⟨found, first, among⟩ := (promptAnswer_possible member).find_first
    exact ⟨found, among, Completion.calls_blocks (laid.made clone member) first⟩
  have filled : ∀ clone ∈ clones, 0 < clone.bio.vcnt := by
    intro clone member
    obtain ⟨room, start, count, some, rfl⟩ := laid.made clone member
    exact some
  have once := captured.once
  rw [List.flatMap_map, List.nodup_flatMap] at once
  have apart := once.2
  -- the same address leads to the same entry, so to a block that both of them pass
  have same : ∀ clone ∈ clones, ∀ other ∈ clones, clone.address = other.address →
      ¬ List.Disjoint (((promptAnswer clones clone).calls write.sectOff).map BlockCall.block)
        (((promptAnswer clones other).calls write.sectOff).map BlockCall.block) := by
    intro clone member other member' address disjoint
    obtain ⟨found, first, blocks⟩ := passed clone member
    obtain ⟨found', first', blocks'⟩ := passed other member'
    rw [address, first', Option.some.injEq] at first
    rw [blocks, blocks', first] at disjoint
    have some := filled clone member
    have some' := filled other member'
    exact disjoint (List.mem_range'_1.mpr ⟨Nat.le_refl _, Nat.lt_add_of_pos_right some⟩)
      (List.mem_range'_1.mpr ⟨Nat.le_refl _, Nat.lt_add_of_pos_right some'⟩)
  have nodup : clones.Nodup := apart.imp_of_mem fun member member' disjoint equal =>
    same _ member _ member' (congrArg _ equal) disjoint
  refine List.Nodup.map_on (fun clone member other member' address => ?_) nodup
  by_contra differ
  have symmetric : Std.Symm (Function.onFun List.Disjoint fun clone =>
      ((promptAnswer clones clone).calls write.sectOff).map BlockCall.block) :=
    ⟨fun _ _ disjoint _ other this => disjoint this other⟩
  exact same clone member other member' address (apart.forall member member' differ)

/-- The blocks of a write are captured exactly when no clone gets the address of an earlier
one, whose entry it would find. -/
theorem clones_tile_and_capture_iff (write : TracedRange) (layer : BlockLayer) :
    (∃ clones, write.Served layer clones) ↔ layer.FreshAddresses write.pages := by
  constructor
  · intro served
    obtain ⟨clones, ends, _, captured⟩ := served
    obtain ⟨fuel, ended⟩ := ends
    have laid := laid_of_loop write.pages_pos ended
    refine laid.nodup_iff.mp (distinct_of_captured laid (captured _ ?_ ?_))
    · rw [List.map_map]
      exact .of_eq (List.map_id _)
    · intro completion member
      obtain ⟨clone, made, rfl⟩ := List.mem_map.mp member
      exact promptAnswer_possible made
  · intro fresh
    obtain ⟨clones, ended⟩ := @snapTraceLoop_ends layer 0 write.startSect write.pages _
      write.pages_pos (Nat.le_refl _)
    have laid := laid_of_loop write.pages_pos ended
    refine ⟨clones, ⟨_, ended⟩, tiled_of_laid laid, fun completions order possible => ?_⟩
    exact captured_of_laid laid (laid.nodup_iff.mpr fresh) order possible

end TracedRange

/-- Two blocks of a device that begins at sector 36. -/
def reusedWrite : TracedRange where
  sector := 100
  size := 8192
  sectOff := 36
  size_pos := by decide
  sectors := by decide
  inside := by decide

/-- One page for each clone, and the same address for all of them. -/
def reusedLayer : BlockLayer where
  maxVecs := 256
  room := fun _ => ⟨7, id, 1, by decide, fun _ _ same => same⟩
  maxVecs_pos := by decide

def reusedClones : List ReadClone :=
  [⟨7, ⟨100, 4096, 0, 0⟩, 1, [⟨0, 0, 4096⟩]⟩, ⟨7, ⟨108, 4096, 0, 0⟩, 1, [⟨0, 0, 4096⟩]⟩]

/-- The second clone is put back to the sector of the first, and its own block is never
passed. -/
theorem clones_tile_and_capture_reused :
    reusedWrite.snapTraceBio reusedLayer 2 = some reusedClones ∧
      (∀ clone ∈ reusedClones,
        (TracedRange.promptAnswer reusedClones clone).Possible reusedClones) ∧
      (reusedClones.map fun clone =>
        ((TracedRange.promptAnswer reusedClones clone).calls 36).map BlockCall.block) =
          [[8], [8]] ∧
      reusedWrite.Overlaps 9 ∧ ¬ ∃ clones, reusedWrite.Served reusedLayer clones := by
  refine ⟨by decide, fun clone => TracedRange.promptAnswer_possible, by decide,
    ⟨108, by decide, by decide, by decide⟩, fun served => ?_⟩
  obtain ⟨clones, ends, _, captured⟩ := served
  obtain ⟨fuel, ended⟩ := ends
  have laid := laid_of_loop reusedWrite.pages_pos ended
  have distinct := TracedRange.distinct_of_captured laid (captured _ ?_ ?_)
  · exact laid.nodup_iff.mp distinct 1 (by decide) 0 Nat.one_pos rfl
  · rw [List.map_map]
    exact .of_eq (List.map_id _)
  · intro completion member
    obtain ⟨clone, made, rfl⟩ := List.mem_map.mp member
    exact TracedRange.promptAnswer_possible made

end Moocbt.Device
