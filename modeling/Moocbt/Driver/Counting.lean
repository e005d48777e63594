import Moocbt.Driver.Running

/-! Copies of operations are counted by the devices that refer to them, as long as each reference is
given back. -/

namespace Moocbt.Driver

open Transition

variable {machine : Machine} {files : CowPath → Option Cow.CowFile} {kernel : Kernel}

/-- In every run in which each event meets its condition. -/
theorem opsRefs_count_holders (modern : machine.build ≠ .makeRequest)
    (reached : Transition.Reaches (Kernel.step machine)
      (fun kernel call => call.GivesBack machine kernel) (machine.boot files) kernel) :
    kernel.Counted := by
  let terms : Terms := ⟨True, False⟩
  have order : kernel.InOrder machine terms := by
    apply Kernel.Orderly.reached _ _ reached
    · exact fun _ _ _ _ gives => gives
    · exact fun never => never.elim
  exact order.counted trivial modern

/-- Two block devices of one disk. -/
def Machine.parted : Machine := { Machine.small with bdDisk := fun _ => 0 }

/-- An event whose calls all succeed. -/
def Event.fine (event : Event) : Call := ⟨event, fun _ => none, []⟩

/-- Both are traced and share the copy of operations, until one of them is destroyed. -/
theorem opsRefs_count_holders_parted :
    ∃ kernel, Transition.Reaches (Kernel.step .parted)
        (fun kernel call => call.GivesBack .parted kernel) (Machine.parted.boot fun _ => none) kernel ∧
      kernel.heldOps 0 = none ∧ kernel.heldOps 4 = some 2 ∧ kernel.opsRefs 2 = some 1 ∧
      kernel.Counted := by
  have ran : ((run
      (checked (Kernel.step .parted) fun kernel call => call.GivesBack .parted kernel)
      (Machine.parted.boot fun _ => none)
      [(Event.mount 1 (some .writable)).fine, (Event.mount 2 (some .writable)).fine,
        (Event.setupSnap 0 1 ⟨1, 7⟩ 1 0 0#128).fine, (Event.setupSnap 1 2 ⟨2, 7⟩ 1 0 0#128).fine,
        (Event.destroy 0).fine]).any fun kernel =>
      decide (kernel.heldOps 0 = none ∧ kernel.heldOps 4 = some 2 ∧ kernel.opsRefs 2 = some 1)) =
      true := by
    decide +kernel
  obtain ⟨kernel, reached, holds⟩ := Reaches.of_evaluated ran
  obtain ⟨gone, held, refs⟩ := of_decide_eq_true holds
  exact ⟨kernel, reached, gone, held, refs, opsRefs_count_holders (by decide) reached⟩

/-- A snapshot device that is changed to incremental mode is freed with its reference. -/
theorem opsRefs_count_holders_transition :
    ∃ kernel, run (Kernel.step .small) (Machine.small.boot fun _ => none)
        [(Event.mount 1 (some .writable)).fine, (Event.setupSnap 0 1 ⟨1, 7⟩ 1 0 0#128).fine,
          (Event.transitionInc 0).fine] = some kernel ∧
      kernel.opsRefs 2 = some 2 ∧ (RefCount.holders kernel.heldOps kernel.fresh 2).card = 1 ∧
      ¬ kernel.Counted := by
  have ran : ((run (Kernel.step .small) (Machine.small.boot fun _ => none)
      [(Event.mount 1 (some .writable)).fine, (Event.setupSnap 0 1 ⟨1, 7⟩ 1 0 0#128).fine,
        (Event.transitionInc 0).fine]).any fun kernel =>
      decide (kernel.opsRefs 2 = some 2 ∧
        (RefCount.holders kernel.heldOps kernel.fresh 2).card = 1)) = true := by
    decide +kernel
  obtain ⟨kernel, found, holds⟩ := (Option.any_eq_true _ _).mp ran
  obtain ⟨refs, card⟩ := of_decide_eq_true holds
  refine ⟨kernel, found, refs, card, fun counted => ?_⟩
  have same := counted.exact 2 2 refs
  rw [card] at same
  exact absurd same (by decide)

end Moocbt.Driver
