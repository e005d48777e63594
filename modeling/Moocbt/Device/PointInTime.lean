import Moocbt.Data.CopyOnWrite
import Moocbt.Device.Bounds
import Moocbt.Device.Withholding

/-! The snapshot as a point in time: what is captured, and what is read of it, is the content
of the base device when the tracing began. -/

namespace Moocbt.Device

open Cow Program WriteOnce CopyOnWrite

variable {wiring : Wiring} {front after : Front} {life life' : Life} {turn : Turn} {place : Nat}
  {inner : FrontEvent} {device device' : SnapDevice} {site next : Site} {event : SiteEvent}
  {elements : Nat} {content : Nat → Option (Nat → Nat)} {origin base : Nat → Nat} {read : ReadBio}
  {bio : WriteBio}

/-- The words of a block of the base device. -/
def blockOf (base : Nat → Nat) (block : Nat) : Nat → Nat := fun word =>
  base (block * sectorsPerBlock * sectorWords + word)

theorem blockOf_apply (base : Nat → Nat) (block word : Nat) :
    blockOf base block word = base (block * blockWords + word) := by
  unfold blockOf
  rw [Nat.mul_assoc]
  rfl

/-- The words a block had in the beginning. -/
def Original (origin : Nat → Nat) (block : Nat) (buf : Nat → Nat) : Prop :=
  ∀ word < blockWords, buf word = blockOf origin block word

/-- No write that touches the block is let through without a copy. -/
def Front.Guards (wiring : Wiring) (front : Front) (block : Nat) : Prop :=
  ∀ life ∈ front.lives, life.bio.needsCow = false → block ∉ life.blocks wiring.sectOff

/-- A completion handler is about to queue this content of the block. -/
def Front.Brings (front : Front) (block : Nat) (buf : Nat → Nat) : Prop :=
  ∃ life ∈ front.lives, ∃ bio, .queue bio ∈ life.handlers ∧ (block, buf) ∈ bio.captures

/-- A captured bio is a clone that was filled. -/
def WriteBio.Formed (bio : WriteBio) : Prop :=
  ∃ (clone : ReadBio) (data : Nat → Nat), clone.Aligned ∧ bio = clone.fill data

/-- The clones of a write that are on their way. -/
structure Life.Formed (life : Life) : Prop where
  flight : ∀ clone ∈ life.flight, clone.Aligned
  handlers : ∀ bio, .queue bio ∈ life.handlers → bio.Formed

def ReadBio.blocks (read : ReadBio) : List Nat := read.pieces.map Piece.block

section geometry

theorem segmentPieces_from {fuel sector remaining : Nat} {piece : Piece}
    (member : piece ∈ segmentPieces fuel sector remaining) : sector ≤ piece.sector := by
  induction fuel generalizing sector remaining with
  | zero => contradiction
  | succ fuel ih =>
      unfold segmentPieces at member
      split at member
      · contradiction
      · rcases List.mem_cons.mp member with same | later
        · rw [same]
        · have below := ih later
          omega

theorem vecPieces_from {sector : Nat} {vecs : List Nat} {piece : Piece}
    (member : piece ∈ vecPieces sector vecs) : sector ≤ piece.sector := by
  induction vecs generalizing sector with
  | nil => contradiction
  | cons len rest ih =>
      rcases List.mem_append.mp member with here | later
      · exact segmentPieces_from here
      · exact (Nat.le_add_right _ _).trans (ih later)

theorem fillVecs_size (data : Nat → Nat) (sector : Nat) (vecs : List Nat) :
    ((fillVecs data sector vecs).map BioVec.len).sum = vecs.sum := by
  induction vecs generalizing sector with
  | nil => rfl
  | cons len rest ih =>
      simp only [fillVecs, List.map_cons, List.sum_cons, ih]

/-- A captured bio that has a block of the read overlaps it. -/
theorem WriteBio.Formed.overlaps (formed : bio.Formed) {block : Nat} (inside : block ∈ read.blocks)
    (captured : block ∈ bio.blocks) : bioOverlap read bio = true := by
  obtain ⟨clone, data, aligned, same⟩ := formed
  obtain ⟨first, fits, same'⟩ := aligned
  subst same same'
  obtain ⟨piece, member, here⟩ := List.mem_map.mp inside
  have lower : read.sector ≤ piece.sector := vecPieces_from member
  have upper := vecPieces_sector member
  rw [fill_blocks, List.mem_range'_1, ← here] at captured
  have size : (ReadBio.fill ⟨first * sectorsPerBlock, List.replicate fits pageSize⟩ data).size =
      fits * pageSize := by
    unfold ReadBio.fill WriteBio.size
    rw [fillVecs_size, List.sum_replicate_nat]
  unfold bioOverlap
  rw [size, decide_eq_true_eq]
  change max read.sector (first * sectorsPerBlock) ≤
    min (read.sector + read.vecs.sum / sectorSize)
      (first * sectorsPerBlock + fits * pageSize / sectorSize)
  unfold Piece.block sectorsPerBlock at captured
  unfold sectorSize at upper
  unfold sectorsPerBlock sectorSize pageSize
  omega

/-- What a clone that was filled captures are words of the base device. -/
theorem ReadBio.Aligned.captures_block {clone : ReadBio} (aligned : clone.Aligned)
    {data buf : Nat → Nat} {block : Nat} (captured : (block, buf) ∈ (clone.fill data).captures) :
    buf = blockOf data block := by
  obtain ⟨first, fits, same⟩ := aligned
  subst same
  have whole : first * sectorsPerBlock / sectorsPerBlock = first :=
    Nat.mul_div_cancel first (by decide)
  change _ ∈ vecCaptures (first * sectorsPerBlock / sectorsPerBlock) _ at captured
  rw [whole] at captured
  have captured : (block, buf) ∈ vecCaptures first
      (fillVecs data (first * sectorsPerBlock) (List.replicate fits pageSize)) := captured
  rw [fillVecs_captures] at captured
  obtain ⟨other, _, same⟩ := List.mem_map.mp captured
  cases same
  rfl

theorem recorded_append (first second : List WriteBio) :
    recorded (first ++ second) = recordAll (recorded first) (second.flatMap WriteBio.captures) := by
  unfold recorded
  rw [List.flatMap_append, recordAll_append]

theorem recorded_isSome {bios : List WriteBio} {block : Nat} :
    (recorded bios block).isSome = true ↔ ∃ bio ∈ bios, block ∈ bio.blocks := by
  unfold recorded
  rw [recordAll_isSome]
  constructor
  · intro found
    rcases found with early | recorded
    · contradiction
    · obtain ⟨value, member⟩ := recorded
      obtain ⟨bio, queued, inside⟩ := List.mem_flatMap.mp member
      exact ⟨bio, queued, List.mem_map_of_mem inside⟩
  · intro found
    obtain ⟨bio, member, inside⟩ := found
    obtain ⟨pair, captured, same⟩ := List.mem_map.mp inside
    subst same
    exact .inr ⟨pair.2, List.mem_flatMap.mpr ⟨bio, member, captured⟩⟩

/-- Bios that come later add nothing for a block none of them has. -/
theorem recorded_append_apart {first second : List WriteBio} {block : Nat}
    (apart : ∀ bio ∈ second, block ∉ bio.blocks) :
    recorded (first ++ second) block = recorded first block := by
  rw [recorded_append, recordAll_eq]
  have absent : (second.flatMap WriteBio.captures).find? (fun write => write.1 = block) = none := by
    rw [List.find?_eq_none]
    intro write member same
    obtain ⟨bio, queued, captured⟩ := List.mem_flatMap.mp member
    refine apart bio queued ?_
    rw [← of_decide_eq_true same]
    exact List.mem_map_of_mem captured
  rw [absent]
  simp

end geometry

section serving

variable {guards guards' : Nat → Prop} {data : Nat → Nat}

/-- The read that the thread has in hand, with what it takes for the base device: the device
as it is until it answers. -/
def SnapPc.fetch (base : Nat → Nat) : SnapPc → Option (ReadBio × (Nat → Nat))
  | .readMode bio | .readBase bio _ => some (bio, base)
  | .readOverlay bio _ data => some (bio, data)
  | _ => none

def SnapPc.mode : SnapPc → Option (ReadBio × Option ReadMode)
  | .readBase bio mode | .readOverlay bio mode _ => some (bio, mode)
  | _ => none

/-- A read returned the words of the beginning. -/
def ReadBio.Returned (origin : Nat → Nat) (guards : Nat → Prop) (read : ReadBio)
    (data : Nat → Nat) : Prop :=
  ∀ piece ∈ read.pieces, guards piece.block → ∀ word, piece.Covers word → data word = origin word

/-- What is left to be read of the blocks of a read is as it was in the beginning. -/
abbrev Fetched (origin : Nat → Nat) (guards : Nat → Prop) (handled : List WriteBio)
    (read : ReadBio) (data : Nat → Nat) : Prop :=
  Frozen (Original origin) (fun block => guards block ∧ block ∈ read.blocks) (blockOf data)
    (recorded handled) fun _ _ => False

/-- What holds of the reads of the snapshot. -/
structure Serving (origin base : Nat → Nat) (guards : Nat → Prop) (device : SnapDevice) : Prop where
  reading : ∀ {read data}, device.pc.fetch base = some (read, data) →
    Fetched origin guards device.handled read data
  mode : ∀ {read mode}, device.pc.mode = some (read, mode) →
    ModeOf (recorded device.handled) read.pieces mode
  served : ∀ {read data}, (read, data) ∈ device.served → read.Returned origin guards data

/-- The thread has no read in hand. -/
theorem Serving.of_idle (pc : device.pc.fetch base = none)
    (served : ∀ {read data}, (read, data) ∈ device.served → read.Returned origin guards data) :
    Serving origin base guards device where
  reading here := by
    rw [pc] at here
    contradiction
  mode here := by
    cases at' : device.pc <;> rw [at'] at here pc <;> contradiction
  served := served

theorem Serving.idle (inv : Serving origin base guards device)
    (served : device'.served = device.served) (pc : device'.pc.fetch base = none) :
    Serving origin base guards device' :=
  .of_idle pc fun member => inv.served (served ▸ member)

/-- A word of a piece, in its block. -/
theorem Piece.Covers.blockOf {piece : Piece} {word : Nat} (inside : piece.Inside)
    (covers : piece.Covers word) (base : Nat → Nat) :
    word / blockWords = piece.block ∧ blockOf base piece.block (word % blockWords) = base word := by
  obtain ⟨block, _⟩ := covers.position inside
  refine ⟨block, ?_⟩
  rw [← block]
  unfold Device.blockOf
  congr 1
  change word / 512 * 8 * 64 + word % 512 = word
  omega

/-- A read is over: what the store has was laid over the answer of the base device. -/
theorem Fetched.returned {handled : List WriteBio}
    (fetched : Fetched origin guards handled read data) :
    read.Returned origin guards (overlay (recorded handled) read.pieces data) := by
  intro piece member guarded word covers
  obtain ⟨block, here⟩ := covers.blockOf (read.pieces_inside piece member) data
  obtain ⟨_, there⟩ := covers.blockOf (read.pieces_inside piece member) origin
  have found := fetched.view ⟨guarded, List.mem_map_of_mem member⟩ (word % blockWords)
    (Nat.mod_lt _ (by decide))
  rw [there] at found
  rw [← found]
  unfold overlay CopyOnWrite.view
  rw [if_pos ⟨piece, member, covers⟩, block]
  cases recorded handled piece.block with
  | none => exact here.symm
  | some buf => rfl

/-- A read of the base device alone. -/
theorem Fetched.returned_base {handled : List WriteBio}
    (fetched : Fetched origin guards handled read data)
    (mode : ModeOf (recorded handled) read.pieces (some .baseDevice)) :
    read.Returned origin guards data := by
  intro piece member guarded word covers
  have returned := fetched.returned piece member guarded word covers
  unfold overlay at returned
  obtain ⟨block, _⟩ := covers.position (read.pieces_inside piece member)
  rw [if_pos ⟨piece, member, covers⟩, block, mode piece member] at returned
  exact returned

/-- A step of the thread. A read that it takes off the queue has nothing before it in the
queue that it has a block in common with. -/
theorem Serving.thread {outcomes : List Outcome} (inv : Serving origin base guards device)
    (stored : Stored elements (recorded device.handled)
      (device.handled.flatMap WriteBio.blocks) device.worker.cow)
    (passed : device.taken = device.handled ++ device.pc.inHand)
    (formed : ∀ bio ∈ writes device.bios, bio.Formed)
    {pending : Nat → (Nat → Nat) → Prop}
    (frozen : Frozen (Original origin) guards (blockOf base) (recorded device.sequence) pending)
    (taken : device.threadStep outcomes = some device') : Serving origin base guards device' := by
  obtain ⟨live, stores, _⟩ := stored
  unfold SnapDevice.threadStep at taken
  cases here : device.pc with
  | testStop =>
      rw [here] at taken
      cases taken
      exact inv.idle rfl (by split <;> rfl)
  | testQueue =>
      rw [here] at taken
      cases taken
      exact inv.idle rfl (by split <;> rfl)
  | testSubmitted =>
      rw [here] at taken
      cases taken
      exact inv.idle rfl rfl
  | testReceived submitted =>
      rw [here] at taken
      cases taken
      exact inv.idle rfl (by split <;> rfl)
  | waitEvent =>
      rw [here] at taken
      simp only at taken
      split at taken
      · cases taken
        exact inv.idle rfl rfl
      · contradiction
  | readFail =>
      rw [here] at taken
      cases taken
      exact inv.idle rfl rfl
  | testEmpty =>
      rw [here] at taken
      cases taken
      exact inv.idle rfl (by split <;> rfl)
  | dequeue =>
      rw [here] at taken
      simp only at taken
      split at taken
      · cases taken
        refine inv.idle rfl ?_
        change device.pc.fetch base = none
        rw [here]
        rfl
      · rename_i bio bios found
        cases taken
        obtain ⟨_, _, _, _, _, apart⟩ := dequeued found
        refine ⟨fun {read data} fetching => ?_, (fun modes => by cases modes), inv.served⟩
        cases fetching
        refine (frozen.weaken (fun _ inside => inside.1) (fun _ _ _ => False.elim)).congr ?_
        intro block inside
        have order : device.taken = device.handled := by
          rw [passed, here]
          exact List.append_nil _
        change recorded device.handled block = recorded (device.taken ++ writes device.bios) block
        rw [order, recorded_append_apart]
        intro other queued captured
        have overlaps := (formed other queued).overlaps inside.2 captured
        rw [apart bio rfl other queued] at overlaps
        contradiction
      · cases taken
        exact inv.idle rfl rfl
  | handleWrite bio =>
      rw [here] at taken
      simp only at taken
      split at taken
      · cases taken
        exact inv.idle rfl rfl
      · cases taken
        exact inv.idle rfl rfl
  | readMode bio =>
      rw [here] at taken
      simp only at taken
      split at taken
      · cases taken
        exact inv.idle rfl rfl
      · have fetched : Fetched origin guards device.handled bio base :=
          inv.reading (by rw [here]; rfl)
        have ran := Worker.run_spec (snapReadGetMode_spec none bio.pieces
          (live.of_outcomes outcomes) (stores.of_outcomes outcomes))
        split at taken
        · cases taken
          exact inv.idle rfl rfl
        · rename_i worker mode same
          have same : device.worker.run (snapReadGetMode none bio.pieces) outcomes =
            (worker, some mode) := same
          rw [same] at ran
          cases ran with
          | returned chosen =>
              have chosen : ModeOf (recorded device.handled) bio.pieces mode := chosen.2.2.1
              cases taken
              refine ⟨fun {read data} fetching => ?_, fun {read mode'} modes => ?_, inv.served⟩
              · by_cases cow : mode = some .cowFile
                · subst cow
                  cases fetching
                  refine ⟨fetched.stored, fun {block} inside absent => ?_, fun _ _ => False.elim⟩
                  obtain ⟨piece, member, same⟩ := List.mem_map.mp inside.2
                  have present := chosen piece member
                  rw [same, absent] at present
                  contradiction
                · simp only [cow, if_false] at fetching
                  cases fetching
                  exact fetched
              · by_cases cow : mode = some .cowFile
                · subst cow
                  cases modes
                  exact chosen
                · simp only [cow, if_false] at modes
                  cases modes
                  exact chosen
  | readBase bio mode =>
      rw [here] at taken
      contradiction
  | readOverlay bio mode data =>
      rw [here] at taken
      simp only at taken
      have fetched : Fetched origin guards device.handled bio data :=
        inv.reading (by rw [here]; rfl)
      have modes : ModeOf (recorded device.handled) bio.pieces mode := inv.mode (by rw [here]; rfl)
      split at taken
      · rename_i plain
        subst plain
        cases taken
        refine .of_idle rfl fun {read data'} member => ?_
        rcases List.mem_append.mp member with before | last
        · exact inv.served before
        · cases List.mem_singleton.mp last
          exact fetched.returned_base modes
      · have ran := Worker.run_spec (snapReadOverlay_spec bio.pieces data bio.pieces_inside
          (live.of_outcomes outcomes) (stores.of_outcomes outcomes))
        split at taken
        · cases taken
          exact inv.idle rfl rfl
        · rename_i worker words same
          rw [same] at ran
          cases ran with
          | returned read =>
              cases taken
              refine .of_idle rfl fun {read' data'} member => ?_
              rcases List.mem_append.mp member with before | last
              · exact inv.served before
              · cases List.mem_singleton.mp last
                rw [read.2.1]
                exact fetched.returned
  | exited =>
      rw [here] at taken
      contradiction

theorem Serving.weaken (inv : Serving origin base guards device)
    (fewer : ∀ block, guards' block → guards block) : Serving origin base guards' device where
  reading here := (inv.reading here).weaken (fun _ inside => ⟨fewer _ inside.1, inside.2⟩)
    fun _ _ _ => id
  mode := inv.mode
  served member piece inside guarded := inv.served member piece inside (fewer _ guarded)

/-- A device that makes no step of its own. -/
theorem Serving.beside (inv : Serving origin base guards device) (pc : device'.pc = device.pc)
    (handled : device'.handled = device.handled) (served : device'.served = device.served) :
    Serving origin base guards device' where
  reading here := by
    rw [handled]
    exact inv.reading (pc ▸ here)
  mode here := by
    rw [handled]
    exact inv.mode (pc ▸ here)
  served member := inv.served (served ▸ member)

/-- The base device answers the read the thread waits for. -/
theorem Serving.answer {error : Option Errno} (inv : Serving origin base guards device)
    (taken : device.serve (answered base error) = some device') :
    Serving origin base guards device' := by
  unfold SnapDevice.serve at taken
  split at taken
  · rename_i bio mode here
    cases error with
    | some error =>
        cases taken
        exact inv.idle rfl rfl
    | none =>
        cases taken
        refine ⟨fun fetching => ?_, fun modes => ?_, inv.served⟩
        · cases fetching
          exact inv.reading (by rw [here]; rfl)
        · cases modes
          exact inv.mode (by rw [here]; rfl)
  · contradiction

/-- The blocks of a read for which the base device has not answered. -/
def SnapPc.reading : SnapPc → List Nat
  | .readMode bio | .readBase bio _ => bio.blocks
  | _ => []

/-- A write reaches the base device. -/
theorem Serving.write {base' : Nat → Nat} (inv : Serving origin base guards device)
    (kept : ∀ block ∈ device.pc.reading, recorded device.handled block = none →
      ∀ word < blockWords, blockOf base' block word = blockOf base block word) :
    Serving origin base' guards device where
  mode := inv.mode
  served := inv.served
  reading {read data} here := by
    have written : ∀ {bio}, device.pc.fetch base = some (bio, base) →
        device.pc.reading = bio.blocks → Fetched origin guards device.handled bio base' := by
      intro bio fetching reading
      refine (inv.reading fetching).write fun block inside absent fresh word bound => ?_
      rw [kept block (reading ▸ inside.2) absent word bound]
      exact fresh word bound
    cases at' : device.pc with
    | readMode bio =>
        rw [at'] at here written
        cases here
        exact written rfl rfl
    | readBase bio mode =>
        rw [at'] at here written
        cases here
        exact written rfl rfl
    | readOverlay bio mode data =>
        rw [at'] at here
        cases here
        exact inv.reading (by rw [at']; rfl)
    | _ =>
        rw [at'] at here
        contradiction

end serving

/-- A step of the device that is none of its thread leaves its reads and its bios alone. -/
theorem own_beside {inner : SnapEvent} (own : TracerEvent.own (.snap inner) = true)
    (ran : device.step inner = some device') :
    (∃ outcomes, inner = .thread outcomes ∧ device.worker.Runs ∧
      device.threadStep outcomes = some device') ∨
    device'.sequence = device.sequence ∧ device'.handled = device.handled ∧
      device'.served = device.served ∧ (device'.pc = device.pc ∨ device'.pc = .testStop) := by
  have running := step_told ran
  simp only [SnapDevice.step, running, Bool.false_eq_true, if_false] at ran
  cases inner with
  | thread outcomes =>
      simp only at ran
      split at ran
      · rename_i runs
        exact .inl ⟨outcomes, rfl, runs, ran⟩
      · contradiction
  | reconfigure cacheSize =>
      simp only at ran
      split at ran
      · cases ran
        exact .inr ⟨rfl, rfl, rfl, .inl rfl⟩
      · contradiction
  | swap =>
      simp only at ran
      split at ran
      · cases ran
        exact .inr ⟨rfl, rfl, rfl, .inl rfl⟩
      · contradiction
  | stopOld =>
      simp only at ran
      split at ran
      · cases ran
        exact .inr ⟨rfl, rfl, rfl, .inl rfl⟩
      · contradiction
  | umount =>
      simp only at ran
      split at ran
      · cases ran
        exact .inr ⟨rfl, rfl, rfl, .inl rfl⟩
      · contradiction
  | flush noThread =>
      simp only at ran
      split at ran
      · cases ran
        refine .inr ⟨rfl, rfl, rfl, ?_⟩
        unfold SnapDevice.flush
        dsimp only
        split
        · exact .inr rfl
        · exact .inl rfl
      · contradiction
  | destroy =>
      simp only at ran
      split at ran
      · cases ran
        exact .inr ⟨rfl, rfl, rfl, .inl rfl⟩
      · contradiction
  | close outcomes =>
      simp only at ran
      split at ran
      · split at ran
        · cases ran
          exact .inr ⟨rfl, rfl, rfl, .inl rfl⟩
        · cases ran
          exact .inr ⟨rfl, rfl, rfl, .inl rfl⟩
        · contradiction
      · contradiction
  | reopen outcomes noThread =>
      simp only at ran
      split at ran
      · cases ran
        refine .inr ⟨rfl, rfl, rfl, ?_⟩
        unfold SnapDevice.reopen
        dsimp only
        split
        · exact .inr rfl
        · exact .inl rfl
      · contradiction
  | _ => contradiction

section lives

theorem traceWalk_place {table : List Entry} {failed : Entry → Bool} {bio : OrigBio} {flag : Bool}
    {index traced : Nat} (accepted : (traceWalk failed bio flag index table).1 = some traced) :
    ∃ entry, index ≤ traced ∧ table[traced - index]? = some entry ∧ entry.isBioFor bio = true := by
  induction table generalizing flag index with
  | nil => contradiction
  | cons entry rest ih =>
      have later : ∀ {flag : Bool},
          (traceWalk failed bio flag (index + 1) rest).1 = some traced →
          ∃ entry', index ≤ traced ∧ (entry :: rest)[traced - index]? = some entry' ∧
            entry'.isBioFor bio = true := by
        intro flag found
        obtain ⟨other, after, here, holds⟩ := ih found
        refine ⟨other, by omega, ?_, holds⟩
        rw [show traced - index = traced - (index + 1) + 1 by omega, List.getElem?_cons_succ]
        exact here
      unfold traceWalk at accepted
      split at accepted
      · exact later accepted
      · rename_i here
        split at accepted
        · exact later accepted
        · split at accepted
          · cases accepted
            exact ⟨entry, Nat.le_refl _, by simp, by simpa using here⟩
          · exact later accepted

/-- A write that is traced begins in the device. -/
theorem Wiring.sectOff_le {failed : Entry → Bool} {bio : OrigBio}
    (accepted : (traceWalk failed bio false 0 wiring.table).1 = some wiring.index) :
    wiring.sectOff ≤ bio.sector := by
  obtain ⟨entry, _, found, holds⟩ := traceWalk_place accepted
  unfold Wiring.sectOff
  rw [Nat.sub_zero] at found
  rw [found]
  simp only [Entry.isBioFor, Bool.and_eq_true, decide_eq_true_eq] at holds
  exact holds.1.2

theorem Front.mrfStep_length {failed : Entry → Bool}
    (ran : front.mrfStep wiring failed = some after) : after.lives.length = front.lives.length := by
  unfold Front.mrfStep at ran
  split at ran
  · cases ran
    rfl
  · cases ran
    rfl
  · split at ran
    · cases ran
      rfl
    · contradiction
  · cases ran
    rfl
  · split at ran
    · contradiction
    · cases ran
      rfl
  · obtain ⟨life, _, same⟩ := Option.map_eq_some_iff.mp ran
    subst same
    exact List.length_set
  · contradiction

/-- Where a write of the tracing side comes from. -/
theorem Front.Stepped.came (stepped : front.Stepped wiring inner after)
    (member : life' ∈ after.lives) :
    (∃ place life, front.lives[place]? = some life ∧ front.Moves wiring place life inner life') ∨
    ∃ failed bio, inner = .start failed bio ∧
      (traceWalk failed bio false 0 wiring.table).1 = some wiring.index ∧
      life' = .begin bio wiring.snapshot := by
  obtain ⟨place, found⟩ := List.getElem?_of_mem member
  obtain ⟨bound, _⟩ := List.getElem?_eq_some_iff.mp found
  have before : place < front.lives.length → ∃ place life, front.lives[place]? = some life ∧
      front.Moves wiring place life inner life' := by
    intro early
    obtain ⟨life'', found', moves⟩ := stepped.moves (List.getElem?_eq_getElem early)
    cases found.symm.trans found'
    exact ⟨place, _, List.getElem?_eq_getElem early, moves⟩
  cases stepped with
  | @start failed bio accepted =>
      by_cases early : place < front.lives.length
      · exact .inl (before early)
      · have bound : place < (front.lives ++ [_]).length := bound
        rw [List.length_append, List.length_singleton] at bound
        have found : (front.lives ++ [_])[place]? = some life' := found
        rw [show place = front.lives.length by omega, List.getElem?_concat_length] at found
        exact .inr ⟨failed, bio, rfl, accepted, (Option.some.inj found).symm⟩
  | trace => exact .inl (before (by simpa [Front.settle] using bound))
  | serve => exact .inl (before (by simpa [Front.settle] using bound))
  | complete => exact .inl (before (by simpa [Front.settle] using bound))
  | mrf ran => exact .inl (before (Front.mrfStep_length ran ▸ bound))

theorem Life.blocks_of_bio {sectOff : Nat} (same : life'.bio = life.bio) :
    life'.blocks sectOff = life.blocks sectOff := by
  unfold Life.blocks Life.range
  rw [same]

/-- The clones of a write on their way after a step. -/
theorem Front.Moves.flight (moves : front.Moves wiring place life inner life') {clone : ReadBio}
    (member : clone ∈ life'.flight) :
    clone ∈ life.flight ∨ ∃ sector pages, life.pc = .submit clone sector pages := by
  cases moves with
  | stays => exact .inl member
  | hands => exact .inl member
  | traces ran =>
      cases Life.traced ran with
      | sends here =>
          rcases List.mem_append.mp member with before | last
          · exact .inl before
          · rw [List.mem_singleton.mp last]
            exact .inr ⟨_, _, here⟩
      | _ => exact .inl member
  | serves ran =>
      obtain ⟨clone, _, same⟩ := Option.map_eq_some_iff.mp ran
      subst same
      exact .inl (List.mem_of_mem_eraseIdx member)
  | completes ran =>
      obtain ⟨handler, _, same⟩ := Option.map_eq_some_iff.mp ran
      subst same
      cases handler <;> exact .inl member

/-- The completion handlers that are to queue a bio after a step. -/
theorem Front.Moves.handlers (moves : front.Moves wiring place life inner life')
    (member : .queue bio ∈ life'.handlers) :
    .queue bio ∈ life.handlers ∨ ∃ index data clone, inner = .serve place index (.ok data) ∧
      clone ∈ life.flight ∧ bio = clone.fill data := by
  have sets : ∀ {index : Nat} {other : HandlerPc}, other ≠ .queue bio →
      .queue bio ∈ life.handlers.set index other → .queue bio ∈ life.handlers := by
    intro index other differs member
    rcases List.mem_or_eq_of_mem_set member with before | same
    · exact before
    · exact absurd same.symm differs
  cases moves with
  | stays => exact .inl member
  | hands => exact .inl member
  | traces ran => cases Life.traced ran <;> exact .inl member
  | @serves index result turn ran =>
      obtain ⟨clone, found, same⟩ := Option.map_eq_some_iff.mp ran
      subst same
      rcases List.mem_append.mp member with before | last
      · exact .inl before
      · cases result with
        | error error => cases List.mem_singleton.mp last
        | ok data =>
            cases List.mem_singleton.mp last
            exact .inr ⟨index, data, clone, rfl, List.mem_of_getElem? found, rfl⟩
  | completes ran =>
      obtain ⟨handler, _, same⟩ := Option.map_eq_some_iff.mp ran
      subst same
      cases handler with
      | queue other => exact .inl (sets (by simp) member)
      | count => exact .inl (sets (by simp) member)
      | fail error => exact .inl (sets (by simp) member)
      | put => exact .inl (List.mem_of_mem_eraseIdx member)

theorem Life.Formed.moves (formed : life.Formed) (covers : life.Covers wiring.sectOff)
    (moves : front.Moves wiring place life inner life') : life'.Formed where
  flight clone member := by
    rcases moves.flight member with before | sends
    · exact formed.flight clone before
    · obtain ⟨sector, pages, here⟩ := sends
      unfold Life.Covers at covers
      rw [here] at covers
      obtain ⟨count, fits, same, _⟩ := covers
      exact ⟨_, fits, same⟩
  handlers bio member := by
    rcases moves.handlers member with before | serves
    · exact formed.handlers bio before
    · obtain ⟨_, data, clone, _, inside, same⟩ := serves
      exact ⟨clone, data, formed.flight clone inside, same⟩

/-- A bio that is queued was brought by a completion handler. -/
theorem Front.told_queued (told : front.told wiring inner = some (.addBio (.write bio))) :
    ∃ life ∈ front.lives, .queue bio ∈ life.handlers := by
  cases inner with
  | start failed other => contradiction
  | mrf failed => contradiction
  | trace id failing fits =>
      obtain ⟨turned, chosen, tells⟩ := Option.bind_eq_some_iff.mp told
      obtain ⟨life, found, mapped⟩ := Option.bind_eq_some_iff.mp chosen
      obtain ⟨turn, ran, pair⟩ := Option.map_eq_some_iff.mp mapped
      subst pair
      have tells : turn.told = some (.addBio (.write bio)) := tells
      rcases Life.trace_told ran with none | submit | fails
      · rw [none] at tells
        contradiction
      · rw [submit] at tells
        cases tells
      · obtain ⟨error, fail⟩ := fails
        rw [fail] at tells
        cases tells
  | serve id index result =>
      obtain ⟨turned, chosen, tells⟩ := Option.bind_eq_some_iff.mp told
      obtain ⟨life, found, mapped⟩ := Option.bind_eq_some_iff.mp chosen
      obtain ⟨turn, ran, pair⟩ := Option.map_eq_some_iff.mp mapped
      obtain ⟨clone, _, same⟩ := Option.map_eq_some_iff.mp ran
      subst pair same
      contradiction
  | complete id index =>
      obtain ⟨turned, chosen, tells⟩ := Option.bind_eq_some_iff.mp told
      obtain ⟨life, found, mapped⟩ := Option.bind_eq_some_iff.mp chosen
      obtain ⟨turn, ran, pair⟩ := Option.map_eq_some_iff.mp mapped
      obtain ⟨handler, here, same⟩ := Option.map_eq_some_iff.mp ran
      subst pair same
      cases handler with
      | queue other =>
          cases tells
          exact ⟨life, List.mem_of_getElem? found, List.mem_of_getElem? here⟩
      | count => cases tells
      | fail error => cases tells
      | put => cases tells

/-- The writes that have to be copied stay withheld. -/
theorem Front.Stepped.withholds {passed passed' : WriteBio → Prop}
    (stepped : front.Stepped wiring inner after) (isSnapshot : wiring.snapshot = true)
    (honest : front.Reads false inner)
    (sound : ∀ error, front.told wiring inner ≠ some (.fail error))
    (more : ∀ bio, passed bio → passed' bio)
    (adds : ∀ bio, front.told wiring inner = some (.addBio (.write bio)) → passed' bio)
    (withheld : ∀ life ∈ front.lives, life.bio.needsCow = true →
      life.Withheld wiring (fun _ => True) passed) :
    ∀ life ∈ after.lives, life.bio.needsCow = true → life.Withheld wiring (fun _ => True) passed' := by
  intro life' member copied
  rcases stepped.came member with moved | started
  · obtain ⟨place, life, found, moves⟩ := moved
    have before := withheld life (List.mem_of_getElem? found) (moves.bio ▸ copied)
    exact before.moves found moves honest sound more adds fun _ _ _ => trivial
  · obtain ⟨failed, bio, _, _, same⟩ := started
    rw [isSnapshot] at same
    subst same
    exact {
      brings := fun clone member => absurd member List.not_mem_nil
      covers := trivial
      aligned := fun clone member => absurd member List.not_mem_nil
      copied
      unmarked := by simp [Life.begin]
      deferred := by simp [Life.begin] }

/-- The writes begin in the device. -/
theorem Front.Stepped.placed (stepped : front.Stepped wiring inner after)
    (placed : ∀ life ∈ front.lives, wiring.sectOff ≤ life.bio.sector) :
    ∀ life ∈ after.lives, wiring.sectOff ≤ life.bio.sector := by
  intro life' member
  rcases stepped.came member with moved | started
  · obtain ⟨place, life, found, moves⟩ := moved
    rw [moves.bio]
    exact placed life (List.mem_of_getElem? found)
  · obtain ⟨failed, bio, _, accepted, same⟩ := started
    subst same
    exact Wiring.sectOff_le accepted

end lives

/-- What holds of a snapshot whose writes are copied before they are served. -/
structure PointInTime (origin : Nat → Nat) (wiring : Wiring) (site : Site) (device : SnapDevice) :
    Prop where
  withheld : ∀ life ∈ site.front.lives, life.bio.needsCow = true →
    life.Withheld wiring (fun _ => True) device.Holds
  placed : ∀ life ∈ site.front.lives, wiring.sectOff ≤ life.bio.sector
  clones : ∀ life ∈ site.front.lives, life.Formed
  queued : ∀ bio ∈ device.sequence, bio.Formed
  frozen : Frozen (Original origin) (site.front.Guards wiring) (blockOf site.base)
    (recorded device.sequence) site.front.Brings
  serving : Serving origin site.base (site.front.Guards wiring) device

/-- The thread takes the bios it captured in turn, and is not one that flushes the queue of a
dormant device. -/
def SiteEvent.TakesInTurn (device : SnapDevice) : SiteEvent → Prop
  | .device (.snap (.thread _)) => device.worker.phase ≠ .flushing ∧
      (device.pc.isDequeue = true → InTurn device.bios)
  | _ => True

/-- A write reaches the base device beside the read that waits for the base device, or where
the thread has the blocks of the read in the store. -/
def SiteEvent.SparesRead (wiring : Wiring) (front : Front) (device : SnapDevice) :
    SiteEvent → Prop
  | .apply id => ∀ life ∈ front.lives[id]?, ∀ block ∈ life.blocks wiring.sectOff,
      block ∈ device.pc.reading → block ∈ device.handled.flatMap WriteBio.blocks
  | _ => True

/-- The steps in which neither a captured bio nor a write overtakes. -/
def SiteEvent.Ordered (wiring : Wiring) (site : Site) (event : SiteEvent) : Prop :=
  match site.tracer with
  | .inc _ => True
  | .snap device => event.TakesInTurn device ∧ event.SparesRead wiring site.front device

theorem ordered_snap (snapshot : site.tracer = .snap device) (ordered : event.Ordered wiring site) :
    event.TakesInTurn device ∧ event.SparesRead wiring site.front device := by
  unfold SiteEvent.Ordered at ordered
  rw [snapshot] at ordered
  exact ordered

namespace PointInTime

theorem start {cow : CowState} {base : Nat → Nat} :
    PointInTime base wiring (.start cow base) (.start cow) where
  withheld life member := absurd member List.not_mem_nil
  placed life member := absurd member List.not_mem_nil
  clones life member := absurd member List.not_mem_nil
  queued bio member := absurd member List.not_mem_nil
  frozen := by
    refine (Frozen.start fun _ _ _ => rfl).weaken (fun _ inside => inside) ?_
    intro block buf _ brings
    obtain ⟨life, member, _⟩ := brings
    exact absurd member List.not_mem_nil
  serving := .of_idle rfl fun member => absurd member List.not_mem_nil

/-- A write that touches fewer blocks than before guards no more of them. -/
theorem guards (stepped : site.front.Stepped wiring inner after) {block : Nat}
    (guards : after.Guards wiring block) : site.front.Guards wiring block := by
  intro life member spared
  obtain ⟨place, found⟩ := List.getElem?_of_mem member
  obtain ⟨life', found', moves⟩ := stepped.moves found
  have apart := guards life' (List.mem_of_getElem? found') (moves.bio ▸ spared)
  rw [Life.blocks_of_bio moves.bio] at apart
  exact apart

/-- A step of the tracing side, with the bios it makes the device queue. -/
theorem tracingStep {added : List WriteBio} (inv : PointInTime origin wiring site device)
    (covers : ∀ life ∈ site.front.lives, life.Covers wiring.sectOff)
    (isSnapshot : wiring.snapshot = true) (honest : site.front.Reads false inner)
    (stepped : site.front.Stepped wiring inner after)
    (answers : ∀ {place index data}, inner = .serve place index (.ok data) → data = site.base)
    (sound : ∀ error, site.front.told wiring inner ≠ some (.fail error))
    (sequence : device'.sequence = device.sequence ++ added)
    (adds : ∀ bio, bio ∈ added ↔ site.front.told wiring inner = some (.addBio (.write bio)))
    (pc : device'.pc = device.pc) (handled : device'.handled = device.handled)
    (served : device'.served = device.served) {tracer : Tracer} :
    PointInTime origin wiring { site with front := after, tracer } device' where
  withheld := by
    refine stepped.withholds isSnapshot honest sound ?_ ?_ inv.withheld
    · intro bio holds
      rw [holds_iff, sequence]
      exact List.mem_append_left _ (holds_iff.mp holds)
    · intro bio told
      rw [holds_iff, sequence]
      exact List.mem_append_right _ ((adds bio).mpr told)
  placed := stepped.placed inv.placed
  clones life' member := by
    rcases stepped.came member with moved | started
    · obtain ⟨place, life, found, moves⟩ := moved
      have inside := List.mem_of_getElem? found
      exact (inv.clones life inside).moves (covers life inside) moves
    · obtain ⟨failed, bio, _, _, same⟩ := started
      subst same
      exact ⟨fun clone member => absurd member List.not_mem_nil,
        fun bio member => absurd member List.not_mem_nil⟩
  queued bio member := by
    rw [sequence] at member
    rcases List.mem_append.mp member with before | new
    · exact inv.queued bio before
    · obtain ⟨life, inside, brings⟩ := Front.told_queued ((adds bio).mp new)
      exact (inv.clones life inside).handlers bio brings
  frozen := by
    have brings : ∀ block buf, after.Brings block buf →
        site.front.Brings block buf ∨ buf = blockOf site.base block := by
      intro block buf coming
      obtain ⟨life', member, bio, handler, captured⟩ := coming
      rcases stepped.came member with moved | started
      · obtain ⟨place, life, found, moves⟩ := moved
        have inside := List.mem_of_getElem? found
        rcases moves.handlers handler with before | serves
        · exact .inl ⟨life, inside, bio, before, captured⟩
        · obtain ⟨index, data, clone, same, flies, filled⟩ := serves
          have base := answers same
          subst base filled
          exact .inr (((inv.clones life inside).flight clone flies).captures_block captured)
      · obtain ⟨failed, other, _, _, same⟩ := started
        subst same
        exact absurd handler List.not_mem_nil
    have both := inv.frozen.read (fun block buf => site.front.Brings block buf ∨
        after.Brings block buf) fun block buf _ coming => by
      rcases coming with before | later
      · exact .inl before
      · rcases brings block buf later with before | same
        · exact .inl before
        · exact .inr fun fresh => same ▸ fresh
    have stored := both.store (added.flatMap WriteBio.captures) fun block buf member => by
      obtain ⟨bio, new, captured⟩ := List.mem_flatMap.mp member
      obtain ⟨life, inside, brings⟩ := Front.told_queued ((adds bio).mp new)
      exact .inl ⟨life, inside, bio, brings, captured⟩
    rw [sequence, recorded_append]
    exact stored.weaken (fun block inside => guards stepped inside) fun _ _ _ => .inr
  serving := (inv.serving.weaken fun block inside => guards stepped inside).beside pc handled served

/-- A write leaves a block as it is that it does not touch. -/
theorem write_apart {block word : Nat} (placed : wiring.sectOff ≤ life.bio.sector)
    (apart : block ∉ life.blocks wiring.sectOff) (bound : word < blockWords) (base : Nat → Nat) :
    blockOf (life.bio.write wiring.sectOff base) block word = blockOf base block word := by
  unfold blockOf OrigBio.write
  refine if_neg fun inside => apart ?_
  have here : (wiring.sectOff + (block * sectorsPerBlock * sectorWords + word) / sectorWords -
      wiring.sectOff) / sectorsPerBlock = block := by
    unfold sectorsPerBlock sectorWords
    unfold blockWords at bound
    omega
  rw [← here]
  unfold sectorWords at inside
  refine Life.mem_blocks placed ?_ ?_
  · unfold sectorWords
    omega
  · unfold sectorWords
    omega

/-- What a device captures is recorded. -/
theorem captures_recorded {seen : (Nat → Nat) → Prop} {block : Nat} (well : device.Well)
    (tracing : Tracing elements content wiring site device)
    (captures : device.Captures seen block) : (recorded device.sequence block).isSome = true := by
  obtain ⟨bio, data, _, captured, place⟩ := captures
  refine recorded_isSome.mpr ⟨bio, ?_, List.mem_map_of_mem captured⟩
  rw [← holds_iff]
  rcases place with waits | hand | done
  · exact .inl waits
  · refine .inr ?_
    rw [tracing.passed well]
    exact List.mem_append_right _ hand
  · refine .inr ?_
    rw [tracing.passed well]
    exact List.mem_append_left _ done.1

/-- A write reaches the base device. -/
theorem applies {id : Nat} (inv : PointInTime origin wiring site device) (well : device.Well)
    (tracing : Tracing elements content wiring site device) (sound : site.front.Sound wiring)
    (found : site.front.lives[id]? = some life) (handed : life.handed ≠ [])
    (spares : (SiteEvent.apply id).SparesRead wiring site.front device) {applied : List Nat} :
    PointInTime origin wiring
      { site with base := life.bio.write wiring.sectOff site.base, applied } device where
  withheld := inv.withheld
  placed := inv.placed
  clones := inv.clones
  queued := inv.queued
  frozen := by
    refine inv.frozen.write fun block inside absent fresh word bound => ?_
    have member := List.mem_of_getElem? found
    rw [write_apart (inv.placed life member) ?_ bound]
    · exact fresh word bound
    · intro touched
      cases copied : life.bio.needsCow with
      | false => exact inside life member copied touched
      | true =>
          have captured := (inv.withheld life member copied).captured tracing sound well found
            handed touched
          have present := captures_recorded well tracing captured
          rw [absent] at present
          contradiction
  serving := by
    refine inv.serving.write fun block reading absent word bound => ?_
    refine write_apart (inv.placed life (List.mem_of_getElem? found)) (fun touched => ?_) bound _
    obtain ⟨bio, handled, inside⟩ := List.mem_flatMap.mp (spares life found block touched reading)
    have present := recorded_isSome.mpr ⟨bio, handled, inside⟩
    rw [absent] at present
    contradiction

/-- A step that the device makes alone. -/
theorem advance (inv : PointInTime origin wiring site device)
    (kept : ∀ bio, device.Holds bio → device'.Holds bio)
    (held : ∀ bio, device'.Holds bio → device.Holds bio)
    (order : recorded device'.sequence = recorded device.sequence)
    (serving : Serving origin site.base (site.front.Guards wiring) device') {tracer : Tracer} :
    PointInTime origin wiring { site with tracer } device' where
  withheld life member copied := (inv.withheld life member copied).weaken (fun _ => id) kept
  placed := inv.placed
  clones := inv.clones
  queued bio member := inv.queued bio (holds_iff.mp (held bio (holds_iff.mpr member)))
  frozen := by
    rw [order]
    exact inv.frozen
  serving := serving

theorem step (inv : PointInTime origin wiring site device)
    (tracing : Tracing elements (fun _ => none) wiring site device)
    (sound : site.front.Sound wiring) (isSnapshot : wiring.snapshot = true)
    (stepped : site.Stepped wiring device event next) (snapshot : site.tracer = .snap device)
    (still : next.tracer = .snap device') (well : device'.Well)
    (ordered : event.Ordered wiring site) : PointInTime origin wiring next device' := by
  have before := stepped.well snapshot still well
  have running : device.worker.failCode.isSome = false := by rw [before.2]; rfl
  obtain ⟨inTurn, spares⟩ := ordered_snap snapshot ordered
  have covers := tracing.covers before
  have answers : ∀ {inner : FrontEvent}, event.inner site = some inner →
      ∀ {place index data}, inner = .serve place index (.ok data) → data = site.base := by
    intro inner chosen place index data same
    subst same
    cases event with
    | front other =>
        simp only [SiteEvent.inner] at chosen
        split at chosen
        · contradiction
        · rename_i unserved
          cases chosen
          exact absurd rfl unserved
    | answer other position error =>
        cases error with
        | none =>
            cases chosen
            rfl
        | some error => cases chosen
    | _ => contradiction
  cases stepped with
  | silent chosen honest stepped untold =>
      cases snapshot.symm.trans still
      rw [running] at honest
      refine inv.tracingStep covers isSnapshot honest stepped (answers chosen) ?_
        (List.append_nil _).symm ?_ rfl rfl rfl
      · simp [untold]
      · simp [untold]
  | @tells _ _ told _ _ chosen honest stepped tells ran =>
      cases still
      have moved := stepped.told
      rw [tells] at moved
      have hears := hears (@Told.heard device _ _ _ moved).1 ran
      rw [running] at honest
      refine inv.tracingStep covers isSnapshot honest stepped (answers chosen)
        (sound_of_well stepped tells ran well) hears.sequence ?_ hears.pc hears.handled hears.served
      intro bio
      rw [tells]
      cases told with
      | addBio other =>
          change bio ∈ writes [other] ↔ _
          rw [mem_writes, List.mem_singleton]
          constructor
          · intro same
            rw [same]
          · intro same
            cases same
            rfl
      | _ => simp [SnapEvent.added]
  | applies found handed =>
      cases snapshot.symm.trans still
      refine inv.applies before tracing sound found ?_ spares
      intro none
      rw [none] at handed
      exact absurd handed (Nat.not_lt_zero _)
  | answers ran =>
      cases still
      have advances := serve_advances ran
      simp only [SnapDevice.step, step_told ran, Bool.false_eq_true, if_false] at ran
      split at ran
      · refine inv.advance advances.kept advances.held (advances.order ?_) (inv.serving.answer ran)
        intro dequeues
        unfold SnapDevice.serve at ran
        split at ran
        · rename_i here
          rw [here] at dequeues
          contradiction
        · contradiction
      · contradiction
  | reads ran =>
      cases still
      have hears := hears rfl ran
      have same : device'.sequence = device.sequence := hears.sequence.trans (List.append_nil _)
      refine inv.advance ?_ ?_ (by rw [same])
        (inv.serving.beside hears.pc hears.handled hears.served)
      · exact fun bio holds => hears.holds.mpr (.inl holds)
      · intro bio holds
        rw [holds_iff, ← same, ← holds_iff]
        exact holds
  | steps own ran =>
      cases still
      have advances := (tracing.own_advances before.2 own ran).2
      rcases own_beside own ran with thread | beside
      · obtain ⟨outcomes, same, runs, stepped⟩ := thread
        subst same
        have active := runs.resolve_right inTurn.1
        refine inv.advance advances.kept advances.held (advances.order inTurn.2) ?_
        refine inv.serving.thread (tracing.stored before active) (tracing.passed before) ?_
          inv.frozen stepped
        exact fun bio member => inv.queued bio (List.mem_append_right _ member)
      · obtain ⟨sequence, handled, served, pc⟩ := beside
        refine inv.advance advances.kept advances.held (by rw [sequence]) ?_
        rcases pc with same | stopped
        · exact inv.serving.beside same handled served
        · exact inv.serving.idle served (by rw [stopped]; rfl)
  | leaves running active replaced exited => cases still

end PointInTime

instance (wiring : Wiring) (front : Front) (block : Nat) : Decidable (front.Guards wiring block) :=
  inferInstanceAs (Decidable (∀ life ∈ front.lives, _ → _))

instance (bios : List CowBio) : Decidable (InTurn bios) :=
  match bios with
  | [] => .isTrue trivial
  | .write _ :: _ => .isTrue trivial
  | .read bio :: rest =>
      inferInstanceAs (Decidable (∀ chosen ∈ (writes rest).find? (bioOverlap bio),
        ∀ passed ∈ (writes rest).takeWhile fun other => !bioOverlap bio other,
          ∀ block ∈ passed.blocks, block ∉ chosen.blocks))

theorem ordered_iff (snapshot : site.tracer = .snap device) : event.Ordered wiring site ↔
    (event.TakesInTurn device ∧ event.SparesRead wiring site.front device) := by
  unfold SiteEvent.Ordered
  rw [snapshot]

instance (device : SnapDevice) (event : SiteEvent) : Decidable (event.TakesInTurn device) :=
  match event with
  | .device (.snap (.thread _)) =>
      inferInstanceAs (Decidable (_ ∧ (device.pc.isDequeue = true → InTurn device.bios)))
  | .device (.snap (.addBio _)) | .device (.snap .submit) | .device (.snap .receive)
  | .device (.snap (.fail _)) | .device (.snap (.serve _)) | .device (.snap (.reconfigure _))
  | .device (.snap .swap) | .device (.snap .stopOld) | .device (.snap .umount)
  | .device (.snap (.flush _)) | .device (.snap .destroy) | .device (.snap (.close _))
  | .device (.snap (.reopen _ _))
  | .device (.inc _) | .device (.toInc _) | .front _ | .answer _ _ _ | .apply _ | .base _
  | .read _ => .isTrue trivial

instance (wiring : Wiring) (front : Front) (device : SnapDevice) (event : SiteEvent) :
    Decidable (event.SparesRead wiring front device) :=
  match event with
  | .apply id =>
      inferInstanceAs (Decidable (∀ life ∈ front.lives[id]?, ∀ block ∈ life.blocks wiring.sectOff,
        block ∈ device.pc.reading → block ∈ device.handled.flatMap WriteBio.blocks))
  | .device _ | .front _ | .answer _ _ _ | .base _ | .read _ => .isTrue trivial

instance (wiring : Wiring) (site : Site) (event : SiteEvent) :
    Decidable (event.Ordered wiring site) :=
  match traced : site.tracer with
  | .inc _ => .isTrue (by simp [SiteEvent.Ordered, traced])
  | .snap _ => decidable_of_iff _ (ordered_iff traced).symm

/-- A write of zeros, with one clone, up to its submission by the thread behind the device. -/
def tracedWrite (id sector blocks : Nat) : List SiteEvent :=
  .front (.start (fun _ => false) ⟨0, sector, blocks * sectorsPerBlock, true, fun _ => 0⟩) ::
    List.replicate 7 (.front (.trace id false blocks)) ++ [.answer id 0 none] ++
    List.replicate 3 (.front (.complete id 0)) ++ List.replicate 5 (.front (.mrf fun _ => false))

/-- The end of a run from a device full of sevens. -/
def EndsIn (ok : Site → SiteEvent → Prop) (holds : Site → SnapDevice → Prop) : Prop :=
  ∃ (site : Site) (device : SnapDevice),
    Transition.Reaches (Site.step (.alone .hook)) ok (.start (newManager 4096) fun _ => 7) site ∧
    site.tracer = .snap device ∧ device.Well ∧ device.worker.phase = .active ∧ holds site device

theorem EndsIn.of_ran {ok : Site → SiteEvent → Prop} [∀ site event, Decidable (ok site event)]
    {holds : Site → SnapDevice → Prop} [∀ site device, Decidable (holds site device)]
    (events : List SiteEvent)
    (ran : (Transition.run (Transition.checked (Site.step (.alone .hook)) ok)
        (.start (newManager 4096) fun _ => 7) events).any
      (fun site => site.snapTest fun device => decide (device.worker.crashed = false ∧
        device.worker.failCode = none ∧ device.worker.phase = .active ∧ holds site device)) =
      true) : EndsIn ok holds := by
  obtain ⟨site, reached, ended⟩ := Transition.Reaches.of_evaluated ran
  obtain ⟨device, snapshot, ended⟩ := Site.of_snapTest ended
  obtain ⟨running, unfailed, active, held⟩ := of_decide_eq_true ended
  exact ⟨site, device, reached, snapshot, ⟨running, unfailed⟩, active, held⟩

/-- A read at the head of the queue lets the second of two writes of a block overtake the
first, which was served before the second was captured. -/
theorem captured_overtaken : EndsIn (fun _ _ => True) fun site device =>
    site.front.Guards (.alone .hook) 2 ∧ device.worker.cow.lookup 2 ≠ 0 ∧
      fileWord device.worker.cow.file (device.worker.cow.lookup 2 * blockWords) = 0 :=
  EndsIn.of_ran ([.read ⟨0, [4096]⟩] ++ tracedWrite 0 16 1 ++ [.apply 0] ++
    tracedWrite 1 8 2 ++ threadSteps 6) (by decide +kernel)

/-- A write of the block of a read is captured and served while the read waits for the base
device. -/
theorem snapshot_read_overtaken : EndsIn (fun _ _ => True) fun site device =>
    site.front.Guards (.alone .hook) 1 ∧
      ∃ served ∈ device.served, served.1 = ⟨8, [4096]⟩ ∧ served.2 blockWords = 0 :=
  EndsIn.of_ran ([.read ⟨8, [4096]⟩] ++ threadSteps 6 ++ tracedWrite 0 8 1 ++
    [.apply 0, .base none] ++ threadSteps 1) (by decide +kernel)

end Moocbt.Device
