import Moocbt.Cow.DataArea
import Moocbt.Device.Tracking
import Moocbt.Tools.Merging

/-! An incremental backup: the image of one snapshot becomes one of the next when `update-img`
copies the blocks that the COW file of the first one names. -/

namespace Moocbt.Tools

open Cow Device Program

variable {job : Job} {call : Invocation} {merge : Merge} {block byte count : Nat}

/-- A block is read and written as a whole, or fails. -/
def Job.Unshortened (job : Job) : Prop :=
  ∀ block < job.totalBlocks, job.mapping block ≠ 0 →
    ∀ bytes, job.copied block = .ok bytes → bytes = cowBlockSize

theorem Job.Unshortened.arrived (whole : job.Unshortened) (below : block < job.totalBlocks)
    (changed : job.mapping block ≠ 0) (sound : ¬ ∃ error, job.copied block = .error error) :
    job.arrived block = cowBlockSize := by
  unfold Job.arrived
  cases copied : job.copied block with
  | error error => exact absurd ⟨error, copied⟩ sound
  | ok bytes => exact whole block below changed bytes copied

variable {wiring wiring' : Wiring} {elements elements' : Nat} {cow cow' : CowState}
  {base : Nat → Nat} {volume : Volume} {device : IncDevice} {site : Site} {snap : SnapDevice}
  {file : CowFile}

end Moocbt.Tools
