import Mathlib.Logic.Basic

/-! Change tracking: a content that differs from an earlier one at most at marked keys, and
the image of the earlier one that is brought up to date by copying these. -/

namespace ChangeTracking

variable {κ ν : Type} {original content content' image : κ → ν} {marked marked' exempt : κ → Prop}
  {key : κ}

/-- The content is the original one except at marked keys. -/
def Confined (original content : κ → ν) (marked : κ → Prop) : Prop :=
  ∀ key, ¬ marked key → content key = original key

/-- The marked keys are copied into an image. -/
def merge (marked : κ → Prop) [DecidablePred marked] (content image : κ → ν) : κ → ν := fun key =>
  if marked key then content key else image key

namespace Confined

theorem start : Confined original original marked := fun _ _ => rfl

theorem weaken (confined : Confined original content marked)
    (more : ∀ key, marked key → marked' key) : Confined original content marked' :=
  fun key unmarked => confined key fun held => unmarked (more key held)

/-- Marked keys are overwritten. -/
theorem write (confined : Confined original content marked)
    (kept : ∀ key, ¬ marked key → content' key = content key) :
    Confined original content' marked :=
  fun key unmarked => (kept key unmarked).trans (confined key unmarked)

end Confined

end ChangeTracking
