import Moocbt.Data.Runs
import Moocbt.Device.Admission
import Moocbt.Device.PageVecs

/-! The sector sets that `inc_trace_bio` queues for a write, against the pages the write
brings. -/

namespace Moocbt.Device

open Cow Runs

/-- A `struct address_space`: whether its address is valid, and its inode. -/
structure AddressSpace where
  valid : Bool
  host : Option Nat

/-- A `struct page`, with the address of its compound page. -/
structure Page where
  head : Nat
  anon : Bool
  mapping : Option AddressSpace

/-- `page_get_inode`; at NULL there is no page. -/
def pageGetInode (pages : Nat → Option Page) (pg : Nat) : Option Nat :=
  (pages pg).bind fun page =>
    (pages page.head).bind fun head =>
      if head.anon then none
      else head.mapping.bind fun mapping => if mapping.valid then mapping.host else none

/-- The variables of `inc_trace_bio`. -/
structure TraceVars where
  isInitialized : Bool
  startSect : Nat
  endSect : Nat

/-- The sectors `inc_make_sset` is called with at a change of the owner and at the end. -/
def TraceVars.pending (vars : TraceVars) : List SectorSet :=
  if vars.isInitialized = true ∧ 0 < vars.endSect - vars.startSect then
    [⟨vars.startSect, vars.endSect - vars.startSect⟩]
  else []

def incTraceLoop (foreign : PageVec → Bool) : TraceVars → List PageVec → List SectorSet
  | vars, [] => vars.pending
  | vars, bvec :: rest =>
      let endSect := vars.endSect + bvec.len / sectorSize
      if foreign bvec then
        let startSect := if vars.isInitialized then vars.startSect else vars.endSect
        incTraceLoop foreign ⟨true, startSect, endSect⟩ rest
      else vars.pending ++ incTraceLoop foreign ⟨false, vars.startSect, endSect⟩ rest

/-- A write that a device in incremental mode traces. -/
structure TracedWrite where
  op : ReqOp
  bio : Bio
  pages : Nat → Option Page
  cowInode : Nat

namespace TracedWrite

/-- The page of a segment is not one of the COW file. -/
def foreign (write : TracedWrite) (bvec : PageVec) : Bool :=
  pageGetInode write.pages bvec.page != some write.cowInode

/-- The calls of `inc_make_sset` while none of them fails. -/
def incTraceBio (write : TracedWrite) : List SectorSet :=
  if write.op = .writeZeroes then [⟨write.bio.iter.sector, write.bio.iter.size / sectorSize⟩]
  else incTraceLoop write.foreign ⟨false, 0, write.bio.iter.sector⟩ write.bio.segments

/-- For each byte of the write, whether it comes from a page that is not the COW file's. -/
def foreignBytes (write : TracedWrite) : List Bool :=
  if write.op = .writeZeroes then List.replicate write.bio.iter.size true
  else marks write.foreign PageVec.len write.bio.segments

/-- Up to the last segment with bytes that are not the COW file's, all of them are made of
whole sectors. -/
def WholeSectors (write : TracedWrite) : Prop :=
  write.op = .writeZeroes ∨ Aligned sectorSize write.foreign PageVec.len write.bio.segments

instance (write : TracedWrite) : Decidable write.WholeSectors := inferInstanceAs (Decidable (_ ∨ _))

end TracedWrite

/-- `inc_make_sset` puts the set relative to the start of the device. -/
def SectorSet.relative (sectOff : Nat) (sset : SectorSet) : SectorSet :=
  ⟨sset.sect - sectOff, sset.len⟩

def SectorSet.Has (sset : SectorSet) (sector : Nat) : Prop :=
  sset.sect ≤ sector ∧ sector < sset.sect + sset.len

/-- The sets keep a record of the bytes of a write that are not the COW file's, and of no
sector of which all bytes are. -/
structure Records (start : Nat) (foreign : List Bool) (ssets : List SectorSet) : Prop where
  ordered : ssets.Pairwise fun sset next => sset.sect + sset.len ≤ next.sect
  covers : ∀ byte, foreign[byte]? = some true →
    ∃ sset ∈ ssets, sset.Has (start + byte / sectorSize)
  spares : ∀ sset ∈ ssets, ∀ sector, sset.Has sector →
    ∃ byte, start + byte / sectorSize = sector ∧ foreign[byte]? ≠ some false

namespace IncDevice

/-- The calls in turn, with what `kmalloc` gives for each, up to one that fails. -/
def makeSsets : IncDevice → List SectorSet → List (Option Nat) → Option IncDevice
  | device, [], _ => some device
  | _, _ :: _, [] => none
  | device, call :: _, none :: _ => device.makeSset call.sect call.len none
  | device, call :: rest, some addr :: addrs =>
      (device.makeSset call.sect call.len (some addr)).bind fun later => later.makeSsets rest addrs

variable {device after : IncDevice}

theorem makeSset_queued {sect len addr : Nat}
    (made : device.makeSset sect len (some addr) = some after) :
    after.queued = device.queued ++ [⟨sect - device.sectOff, len⟩] ∧
      after.sectOff = device.sectOff := by
  unfold makeSset at made
  by_cases fresh : device.ssets.Fresh addr
  · simp only [fresh, dif_pos, Option.some.injEq] at made
    rw [← made]
    exact ⟨rfl, rfl⟩
  · simp [fresh] at made

theorem makeSsets_queued {calls : List SectorSet} {addrs : List Nat}
    (made : device.makeSsets calls (addrs.map some) = some after) :
    after.queued = device.queued ++ calls.map (SectorSet.relative device.sectOff) := by
  induction calls generalizing device addrs with
  | nil =>
      cases made
      exact (List.append_nil _).symm
  | cons call rest ih =>
      cases addrs with
      | nil => exact absurd made (by simp [makeSsets])
      | cons addr addrs =>
          simp only [List.map_cons, makeSsets] at made
          obtain ⟨later, first, made⟩ := Option.bind_eq_some_iff.mp made
          obtain ⟨queued, sectOff⟩ := makeSset_queued first
          rw [ih made, queued, sectOff, List.append_assoc]
          rfl

end IncDevice

variable {foreign : PageVec → Bool} {vars : TraceVars} {segments : List PageVec}

def ssetOf (run : Run) : SectorSet := ⟨run.start, run.size⟩

/-- The start of the run that is open. -/
def TraceVars.opened (vars : TraceVars) : Option Nat :=
  if vars.isInitialized then some vars.startSect else none

theorem pending_eq (vars : TraceVars) :
    vars.pending = (close vars.opened vars.endSect).map ssetOf := by
  obtain ⟨isInitialized, startSect, endSect⟩ := vars
  cases isInitialized with
  | false => rfl
  | true =>
      simp only [TraceVars.pending, TraceVars.opened, close, true_and, if_true, Option.elim_some,
        Nat.sub_pos_iff_lt]
      by_cases filled : startSect < endSect
      · simp only [filled, if_true, List.map_cons, List.map_nil, ssetOf]
      · simp only [filled, if_false, List.map_nil]

theorem incTraceLoop_eq (vars : TraceVars) (segments : List PageVec) :
    incTraceLoop foreign vars segments =
      (runs foreign (PageVec.len · / sectorSize) vars.opened vars.endSect segments).map ssetOf := by
  induction segments generalizing vars with
  | nil => exact pending_eq vars
  | cons bvec rest ih =>
      unfold incTraceLoop runs
      by_cases mark : foreign bvec = true
      · have opened : (if vars.isInitialized then vars.startSect else vars.endSect) =
            vars.opened.getD vars.endSect := by
          unfold TraceVars.opened
          cases vars.isInitialized <;> rfl
        simp only [mark, if_true, ih, opened]
        rfl
      · simp only [mark, Bool.false_eq_true, if_false, ih, List.map_append, pending_eq]
        rfl

namespace TracedWrite

/-- The sector sets that a device queues for the write. -/
def ssets (write : TracedWrite) (sectOff : Nat) : List SectorSet :=
  write.incTraceBio.map (SectorSet.relative sectOff)

variable {write : TracedWrite} {sectOff : Nat}

theorem ssets_zeroes (zeroes : write.op = .writeZeroes) (sectOff : Nat) :
    write.ssets sectOff =
      [⟨write.bio.iter.sector - sectOff, write.bio.iter.size / sectorSize⟩] := by
  unfold ssets incTraceBio
  rw [if_pos zeroes]
  rfl

theorem records_zeroes (zeroes : write.op = .writeZeroes)
    (sectors : sectorSize ∣ write.bio.iter.size) :
    Records (write.bio.iter.sector - sectOff) write.foreignBytes (write.ssets sectOff) := by
  have bytes : write.foreignBytes = List.replicate write.bio.iter.size true := by
    unfold foreignBytes
    rw [if_pos zeroes]
  obtain ⟨count, size⟩ := sectors
  rw [ssets_zeroes zeroes, bytes, size, Nat.mul_div_cancel_left _ (by decide)]
  generalize write.bio.iter.sector - sectOff = start
  refine ⟨List.pairwise_singleton _ _, fun byte mark => ?_, fun sset member sector has => ?_⟩
  · have inside : byte < sectorSize * count := by
      by_contra past
      rw [List.getElem?_eq_none (by simpa using past)] at mark
      exact absurd mark (by simp)
    have below : byte / sectorSize < count := Nat.div_lt_of_lt_mul inside
    exact ⟨_, List.mem_singleton_self _, Nat.le_add_right _ _, Nat.add_lt_add_left below start⟩
  · rw [List.mem_singleton] at member
    rw [member] at has
    have lower : start ≤ sector := has.1
    have upper : sector < start + count := has.2
    refine ⟨(sector - start) * sectorSize, ?_, ?_⟩
    · rw [Nat.mul_div_cancel _ (by decide)]
      exact Nat.add_sub_cancel' lower
    · rw [List.getElem?_replicate]
      by_cases inside : (sector - start) * sectorSize < sectorSize * count
      · simp [inside]
      · simp [inside]

/-- The sets lie on the sectors of the segments that are not the COW file's, as the loop
counts them. -/
theorem mem_ssets (pages : write.op ≠ .writeZeroes) (inside : sectOff ≤ write.bio.iter.sector)
    (sector : Nat) :
    (∃ sset ∈ write.ssets sectOff, sset.Has sector) ↔
      write.bio.iter.sector - sectOff ≤ sector ∧
        (marks write.foreign (PageVec.len · / sectorSize)
          write.bio.segments)[sector - (write.bio.iter.sector - sectOff)]? = some true := by
  have covered := @mem_runs _ write.foreign (PageVec.len · / sectorSize) write.bio.segments none
    write.bio.iter.sector (sector + sectOff) (Nat.le_refl _)
  have start : write.bio.iter.sector ≤ sector + sectOff ↔
      write.bio.iter.sector - sectOff ≤ sector := by omega
  have index : sector + sectOff - write.bio.iter.sector =
      sector - (write.bio.iter.sector - sectOff) := by omega
  simp only [Option.not_mem_none, false_and, exists_false, false_or, start, index] at covered
  rw [← covered]
  unfold ssets incTraceBio
  rw [if_neg pages, incTraceLoop_eq, List.map_map]
  constructor
  · intro found
    obtain ⟨sset, member, has⟩ := found
    obtain ⟨run, made, rfl⟩ := List.mem_map.mp member
    have bound : write.bio.iter.sector ≤ run.start := start_le (Nat.le_refl _) made
    have lower : run.start - sectOff ≤ sector := has.1
    have upper : sector < run.start - sectOff + run.size := has.2
    exact ⟨run, made, by omega, by omega⟩
  · intro found
    obtain ⟨run, made, lower, upper⟩ := found
    have bound : write.bio.iter.sector ≤ run.start := start_le (Nat.le_refl _) made
    refine ⟨_, List.mem_map_of_mem made, ?_, ?_⟩
    · change run.start - sectOff ≤ sector
      omega
    · change sector < run.start - sectOff + run.size
      omega

theorem ssets_ordered (pages : write.op ≠ .writeZeroes) (inside : sectOff ≤ write.bio.iter.sector) :
    (write.ssets sectOff).Pairwise fun sset next => sset.sect + sset.len ≤ next.sect := by
  unfold ssets incTraceBio
  rw [if_neg pages, incTraceLoop_eq, List.map_map, List.pairwise_map]
  refine List.Pairwise.imp_of_mem (@fun run next made _ apart => ?_) runs_ordered
  have bound : write.bio.iter.sector ≤ run.start := start_le (Nat.le_refl _) made
  change run.start - sectOff + run.size ≤ next.start - sectOff
  omega

theorem covers_iff (pages : write.op ≠ .writeZeroes) (inside : sectOff ≤ write.bio.iter.sector) :
    (∀ byte, write.foreignBytes[byte]? = some true → ∃ sset ∈ write.ssets sectOff,
        sset.Has (write.bio.iter.sector - sectOff + byte / sectorSize)) ↔
      Aligned sectorSize write.foreign PageVec.len write.bio.segments := by
  have bytes : write.foreignBytes = marks write.foreign PageVec.len write.bio.segments := by
    unfold foreignBytes
    rw [if_neg pages]
  simp only [bytes, mem_ssets pages inside, Nat.le_add_right, true_and, Nat.add_sub_cancel_left]
  exact coarser_iff (by decide)

theorem ssets_spare (pages : write.op ≠ .writeZeroes) (inside : sectOff ≤ write.bio.iter.sector)
    (aligned : Aligned sectorSize write.foreign PageVec.len write.bio.segments) :
    ∀ sset ∈ write.ssets sectOff, ∀ sector, sset.Has sector →
      ∃ byte, write.bio.iter.sector - sectOff + byte / sectorSize = sector ∧
        write.foreignBytes[byte]? ≠ some false := by
  intro sset member sector has
  obtain ⟨start, mark⟩ := (mem_ssets pages inside sector).mp ⟨sset, member, has⟩
  have first := aligned.finer (by decide) mark
  refine ⟨(sector - (write.bio.iter.sector - sectOff)) * sectorSize, ?_, ?_⟩
  · rw [Nat.mul_div_cancel _ (by decide)]
    exact Nat.add_sub_cancel' start
  · unfold foreignBytes
    rw [if_neg pages, first]
    exact fun same => absurd same (by simp)

/-- What a device queues for a write records its foreign bytes exactly when all segments up
to the last of these are made of whole sectors. -/
theorem foreign_bytes_recorded_iff (write : TracedWrite)
    (sectors : sectorSize ∣ write.bio.iter.size) (inside : sectOff ≤ write.bio.iter.sector) :
    Records (write.bio.iter.sector - sectOff) write.foreignBytes (write.ssets sectOff) ↔
      write.WholeSectors := by
  by_cases zeroes : write.op = .writeZeroes
  · exact iff_of_true (records_zeroes zeroes sectors) (.inl zeroes)
  constructor
  · intro records
    exact .inr ((covers_iff zeroes inside).mp records.covers)
  · intro whole
    rcases whole with zeroes' | aligned
    · exact absurd zeroes' zeroes
    · exact ⟨ssets_ordered zeroes inside, (covers_iff zeroes inside).mpr aligned,
        ssets_spare zeroes inside aligned⟩

end TracedWrite

/-- `inc_trace_bio` on a device, while there is memory. -/
theorem IncDevice.makeSsets_ssets {device after : IncDevice} {write : TracedWrite}
    {addrs : List Nat} (made : device.makeSsets write.incTraceBio (addrs.map some) = some after) :
    after.queued = device.queued ++ write.ssets device.sectOff := makeSsets_queued made

/-- The pages of the COW file, whose inode is 7, and those of another file. -/
def filePages (page : Nat) : Option Page :=
  some ⟨page, false, some ⟨true, some (if page = 0 then 7 else 8)⟩⟩

/-- A page of the COW file between two pages of another file. -/
def wholeWrite : TracedWrite :=
  ⟨.write, ⟨⟨100, 2048, 0, 0⟩, 3, [⟨1, 0, 512⟩, ⟨0, 0, 512⟩, ⟨2, 0, 1024⟩]⟩, filePages, 7⟩

/-- One sector in two segments. -/
def halvedWrite : TracedWrite :=
  ⟨.write, ⟨⟨100, 512, 0, 0⟩, 2, [⟨1, 0, 256⟩, ⟨2, 0, 256⟩]⟩, filePages, 7⟩

theorem foreign_bytes_recorded_iff_whole :
    Records (wholeWrite.bio.iter.sector - 36) wholeWrite.foreignBytes (wholeWrite.ssets 36) :=
  (TracedWrite.foreign_bytes_recorded_iff wholeWrite (by decide) (by decide)).mpr (by decide)

/-- Nothing is queued although all the bytes are those of another file. -/
theorem foreign_bytes_recorded_halved :
    halvedWrite.bio.Valid ∧ sectorSize ∣ halvedWrite.bio.iter.size ∧
      halvedWrite.ssets 36 = [] ∧ halvedWrite.foreignBytes[0]? = some true ∧
      ¬ Records (halvedWrite.bio.iter.sector - 36) halvedWrite.foreignBytes
        (halvedWrite.ssets 36) := by
  have none : halvedWrite.ssets 36 = [] := by decide
  have first : halvedWrite.foreignBytes[0]? = some true := by decide +kernel
  refine ⟨⟨.inr rfl, by decide, by decide, by decide⟩, by decide, none, first, fun records => ?_⟩
  obtain ⟨sset, member, _⟩ := records.covers 0 first
  rw [none] at member
  exact absurd member List.not_mem_nil

end Moocbt.Device
