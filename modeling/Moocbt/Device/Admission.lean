import Moocbt.Device.Clones
import Moocbt.Device.Deferral

/-! Requests with their operation and their pages, as the tracing functions get them, and
which of them a device traces. -/

namespace Moocbt.Device

open Cow Program

/-- `req_op_t`. -/
inductive ReqOp where
  | read
  | write
  | flush
  | discard
  | secureErase
  | writeSame
  | writeZeroes
  deriving DecidableEq, Repr

namespace ReqOp

/-- `bio_data_dir`: whether the operation is a write. -/
def dataDir : ReqOp → Bool
  | read | flush => false
  | write | discard | secureErase | writeSame | writeZeroes => true

/-- `bio_is_discard`. -/
def isDiscard (op : ReqOp) : Bool := op == .discard || op == .secureErase

/-- Operations that come with pages of data. -/
def HasPages (op : ReqOp) : Prop := op = .write ∨ op = .writeSame

end ReqOp

/-- A bio with the inodes of its pages, by `page_get_inode`. The block layer has made its
sector one of the whole disk. -/
structure Request where
  op : ReqOp
  queue : Nat
  sector : Nat
  count : Nat
  pages : List (Option Nat)
  data : Nat → Nat
  carries : op.HasPages → 0 < count → pages ≠ []

namespace Request

/-- `bio_needs_cow`. -/
def bioNeedsCow (request : Request) (inode : Nat) : Bool :=
  request.op == .writeZeroes || request.pages.any (· != some inode)

/-- It can change stored sectors. -/
def Changes (request : Request) : Prop := request.op.dataDir = true ∧ 0 < request.count

/-- What `snap_trace_bio` reads of it. -/
def orig (request : Request) (inode : Nat) : OrigBio :=
  ⟨request.queue, request.sector, request.count, request.bioNeedsCow inode, request.data⟩

end Request

namespace Entry

/-- `tracer_is_bio_for_dev`. -/
def tracerIsBioForDev (entry : Entry) (request : Request) : Bool :=
  !entry.unverified && entry.active && entry.queue == request.queue &&
    decide (entry.sectOff ≤ request.sector) &&
    decide (request.sector < entry.sectOff + entry.size)

/-- `tracer_is_bio_for_dev_only_queue`. -/
def tracerIsBioForDevOnlyQueue (entry : Entry) (request : Request) : Bool :=
  !entry.unverified && entry.queue == request.queue && entry.active

/-- `tracer_should_trace_bio`. -/
def tracerShouldTraceBio (entry : Entry) (failed : Bool) (request : Request) : Bool :=
  !request.op.isDiscard && request.op.dataDir && decide (0 < request.count) && !failed &&
    decide (entry.sectOff ≤ request.sector) &&
    decide (request.sector < entry.sectOff + entry.size)

end Entry

/-- The loop over the devices, which ends at the one that traces the bio. -/
def tracingLoop (failed : Entry → Bool) (request : Request) :
    Bool → Nat → List Entry → Option Nat × Bool
  | flag, _, [] => (none, flag)
  | flag, index, entry :: rest =>
      if !entry.tracerIsBioForDev request then tracingLoop failed request flag (index + 1) rest
      else if flag then tracingLoop failed request false (index + 1) rest
      else if entry.tracerShouldTraceBio (failed entry) request then (some index, false)
      else tracingLoop failed request false (index + 1) rest

/-- `tracing_fn`, or `moocbt_trace_bio` with what its caller does next. -/
def Wiring.tracingFn (wiring : Wiring) (failed : Entry → Bool) (request : Request) (flag : Bool) :
    Handed :=
  match tracingLoop failed request flag 0 wiring.table with
  | (some index, _) => .tracer index
  | (none, flag) =>
      if wiring.build = .legacy ∧
          ¬ wiring.table.any (·.tracerIsBioForDevOnlyQueue request) then .nowhere
      else .driver flag

variable {failed : Entry → Bool} {request : Request} {table : List Entry} {entry : Entry}
  {wiring : Wiring} {index place inode : Nat}

/-- A discard is handed to the driver by every device. -/
theorem tracingLoop_discard (discard : request.op.isDiscard = true) (flag : Bool) :
    (tracingLoop failed request flag index table).1 = none := by
  induction table generalizing flag index with
  | nil => rfl
  | cons entry rest ih =>
      unfold tracingLoop
      simp only [Entry.tracerShouldTraceBio, discard, Bool.not_true, Bool.false_and,
        Bool.false_eq_true, if_false]
      split
      · exact ih _
      · split <;> exact ih _

end Moocbt.Device
