import Moocbt.Cow.Store
import Moocbt.Device.Incremental

/-! The bios of a device in snapshot mode, their queue, and the handlers of
`snap_handle.c`. Contents are functions from words of 8 bytes: of a page, of the
COW file or of the device. -/

namespace Moocbt.Device

open Cow Program

def sectorSize : Nat := 512
def sectorWords : Nat := 64

/-- A segment of a bio with the contents of its page. -/
structure BioVec where
  len : Nat
  data : Nat → Nat

/-- A read clone that was turned into a write to the COW file. -/
structure WriteBio where
  sector : Nat
  vecs : List BioVec

/-- A read of the snapshot, with the lengths of its segments. -/
structure ReadBio where
  sector : Nat
  vecs : List Nat
  deriving DecidableEq, Repr

/-- An entry of `sd_cow_bios`. -/
inductive CowBio where
  | read (bio : ReadBio)
  | write (bio : WriteBio)

def WriteBio.size (bio : WriteBio) : Nat := (bio.vecs.map BioVec.len).sum

def ReadBio.size (bio : ReadBio) : Nat := bio.vecs.sum

/-- `bio_overlap`, which also holds of ranges that only meet. -/
def bioOverlap (first : ReadBio) (second : WriteBio) : Bool :=
  max first.sector second.sector ≤
    min (first.sector + first.size / sectorSize) (second.sector + second.size / sectorSize)

/-- The first write that overlaps the read, and the queue with the read in its place. -/
def delayBehind (read : ReadBio) : List CowBio → Option (WriteBio × List CowBio)
  | [] => none
  | .write bio :: rest =>
      if bioOverlap read bio then some (bio, .read read :: rest)
      else (delayBehind read rest).map fun found => (found.1, .write bio :: found.2)
  | .read bio :: rest =>
      (delayBehind read rest).map fun found => (found.1, .read bio :: found.2)

/-- `bio_queue_dequeue_delay_read`; an empty queue is a null dereference. -/
def bioQueueDequeueDelayRead : List CowBio → Option (CowBio × List CowBio)
  | [] => none
  | .write bio :: rest => some (.write bio, rest)
  | .read bio :: rest =>
      match delayBehind bio rest with
      | some (write, rest) => some (.write write, rest)
      | none => some (.read bio, rest)

/-- The loop over the blocks of one page, which passes the start of the page each
time. -/
def snapWriteBlocks (data : Nat → Nat) : Nat → Nat → CowM Unit
  | 0, _ => pure ()
  | count + 1, block => do
      cowWriteCurrent block data
      snapWriteBlocks data count (block + 1)

def snapWriteVecs : Nat → List BioVec → CowM Unit
  | _, [] => pure ()
  | block, vec :: rest => do
      snapWriteBlocks vec.data (vec.len / cowBlockSize) block
      snapWriteVecs (block + vec.len / cowBlockSize) rest

def snapHandleWriteBio (bio : WriteBio) : CowM Unit :=
  snapWriteVecs (bio.sector / sectorsPerBlock) bio.vecs

/-- A part of a read that lies in one block. -/
structure Piece where
  sector : Nat
  count : Nat
  deriving DecidableEq, Repr

def Piece.block (piece : Piece) : Nat := piece.sector / sectorsPerBlock

/-- The words of the device that a piece covers. -/
def Piece.Covers (piece : Piece) (word : Nat) : Prop :=
  piece.sector * sectorWords ≤ word ∧ word < (piece.sector + piece.count) * sectorWords

instance (piece : Piece) (word : Nat) : Decidable (piece.Covers word) :=
  inferInstanceAs (Decidable (_ ∧ _))

/-- A segment, cut at block boundaries. The fuel is the number of sectors left. -/
def segmentPieces : Nat → Nat → Nat → List Piece
  | 0, _, _ => []
  | fuel + 1, sector, remaining =>
      if remaining = 0 then []
      else
        let count := min (sectorsPerBlock - sector % sectorsPerBlock) remaining
        ⟨sector, count⟩ :: segmentPieces fuel (sector + count) (remaining - count)

def vecPieces : Nat → List Nat → List Piece
  | _, [] => []
  | sector, len :: rest =>
      segmentPieces (len / sectorSize) sector (len / sectorSize) ++
        vecPieces (sector + len / sectorSize) rest

def ReadBio.pieces (bio : ReadBio) : List Piece := vecPieces bio.sector bio.vecs

inductive ReadMode where
  | cowFile
  | baseDevice
  | mixed
  deriving DecidableEq, Repr

/-- The loop of `snap_read_bio_get_mode`; `none` is the mode before the first piece. -/
def snapReadGetMode : Option ReadMode → List Piece → CowM (Option ReadMode)
  | mode, [] => pure mode
  | mode, piece :: rest => do
      let mapping ← cowReadMapping piece.block
      match mode with
      | none =>
          snapReadGetMode (some (if mapping ≠ 0 then .cowFile else .baseDevice)) rest
      | some mode =>
          if (mode = .cowFile ∧ mapping = 0) ∨ (mode = .baseDevice ∧ mapping ≠ 0) then
            pure (some .mixed)
          else snapReadGetMode (some mode) rest

def snapReadBioGetMode (bio : ReadBio) : CowM (Option ReadMode) :=
  snapReadGetMode none bio.pieces

/-- The second loop of `snap_handle_read_bio`: what is mapped overwrites the data. -/
def snapReadOverlay : List Piece → (Nat → Nat) → CowM (Nat → Nat)
  | [], data => pure data
  | piece :: rest, data => do
      let mapping ← cowReadMapping piece.block
      if mapping ≠ 0 then do
        let words ← cowReadData mapping (piece.sector % sectorsPerBlock * sectorWords)
          (piece.count * sectorWords)
        snapReadOverlay rest fun word =>
          if piece.Covers word then words (word - piece.sector * sectorWords) else data word
      else snapReadOverlay rest data

end Moocbt.Device
