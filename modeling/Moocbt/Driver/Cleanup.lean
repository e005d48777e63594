import Moocbt.Driver.Counting

/-! When the driver is unloaded: the scan that destroys the devices comes to each of them, although
it changes the range it goes through. -/

namespace Moocbt.Driver

open Cow (Errno Outcome Stop)
open Program
open Occupancy (Bounds Meets each itemsFrom scan)

variable {machine : Machine} {kernel before after : Kernel} {dev : Address} {device : SnapDevice}
  {minor slot : Nat} {terms : Terms}

/-- `cleanup_snap_device_array`, but for the memory of the array. -/
def cleanupSnapDeviceArray (machine : Machine) : KernelM Unit := do
  let kernel ← .read
  scan Kernel.snapDevices Kernel.highestMinor (tracerDestroy machine) .oops
    (machine.maxSnapDevices + 1) kernel.lowestMinor

/-- The devices of the table, by their minors. -/
def Kernel.inTable (machine : Machine) (kernel : Kernel) : List Address :=
  (List.range machine.maxSnapDevices).filterMap kernel.snapDevices

theorem Kernel.inTable_eq (machine : Machine) (kernel : Kernel) :
    kernel.inTable machine = itemsFrom kernel.snapDevices machine.maxSnapDevices 0 := by
  unfold Kernel.inTable itemsFrom
  rw [List.range_eq_range', Nat.sub_zero]

/-- The devices up to a slot were destroyed. -/
structure Cleaning (machine : Machine) (before : Kernel) (slot : Nat) (kernel : Kernel) : Prop where
  range : kernel.RangeExact machine
  mounted : kernel.mounted = before.mounted
  faults : kernel.faults = before.faults
  table : ∀ other, slot ≤ other → kernel.snapDevices other = before.snapDevices other
  devices : ∀ other dev, slot ≤ other → before.snapDevices other = some dev →
    kernel.devices dev = before.devices dev
  released : (∀ minor device, before.tracing.slots minor = some device →
    before.LetsGo machine device) → ∀ other, other < slot → kernel.snapDevices other = none

namespace Cleaning

theorem begins (order : kernel.InOrder machine terms) : Cleaning machine kernel 0 kernel :=
  ⟨order.range, rfl, rfl, fun _ _ => rfl, fun _ _ _ _ => rfl, fun _ _ below =>
    absurd below (Nat.not_lt_zero _)⟩

theorem skip (here : Cleaning machine before slot kernel) (free : kernel.snapDevices slot = none) :
    Cleaning machine before (slot + 1) kernel where
  range := here.range
  mounted := here.mounted
  faults := here.faults
  table := fun other above => here.table other (Nat.le_of_succ_le above)
  devices := fun other dev above => here.devices other dev (Nat.le_of_succ_le above)
  released := by
    intro releases other below
    rcases Nat.lt_succ_iff_lt_or_eq.mp below with passed | same
    · exact here.released releases other passed
    · rw [same]
      exact free

theorem destroys (order : before.InOrder machine terms) (here : Cleaning machine before slot kernel)
    (held : kernel.snapDevices slot = some dev) :
    wp (tracerDestroy machine dev)
      (fun _ after => Cleaning machine before (slot + 1) after ∧
        ∀ other, slot < other → after.snapDevices other = kernel.snapDevices other)
      (fun _ _ => True) kernel := by
  have held' : before.snapDevices slot = some dev := (here.table slot (Nat.le_refl _)) ▸ held
  have same := here.devices slot dev (Nat.le_refl _) held'
  cases found : kernel.devices dev with
  | none =>
      unfold tracerDestroy tracerDestroyTracing
      rw [wp_bind, wp_bind, wp_getDev_freed found]
      trivial
  | some device =>
      have found' : before.devices dev = some device := same.symm.trans found
      have numbered := (order.settled slot dev device ⟨held', found'⟩ id).sdMinor
      apply wp_mono (tracerDestroy_left ⟨held, found⟩ numbered) _ fun _ _ _ => trivial
      intro _ after destroyed
      obtain ⟨ended, device', left, torn, _, _, cleared⟩ := destroyed
      have table : after.snapDevices = ended.snapDevices := torn.elsewhere.table
      have ahead : ∀ other, slot < other → after.snapDevices other = kernel.snapDevices other := by
        intro other above
        rw [table]
        exact (left.slots other).resolve_right fun here => absurd here.1 (Nat.ne_of_gt above)
      refine ⟨?_, ahead⟩
      constructor
      · unfold Kernel.RangeExact
        rw [table, torn.elsewhere.lowest, torn.elsewhere.highest]
        apply Bounds.recalculated
        intro other occupied
        obtain ⟨kept, slot'⟩ := Option.isSome_iff_exists.mp
          (show (ended.snapDevices other).isSome = true from occupied)
        exact here.range.within other (Kernel.occupied (left.slot slot'))
      · exact torn.elsewhere.mounted.trans (left.mounted.trans here.mounted)
      · exact torn.elsewhere.faults.trans (left.faults.trans here.faults)
      · exact fun other above => (ahead other above).trans (here.table other (Nat.le_of_succ_le above))
      · intro other dev' above slot'
        have away : dev' ≠ dev := by
          intro is
          rw [is] at slot'
          exact absurd (order.apart ⟨held', found'⟩ id slot') (Nat.ne_of_gt above)
        rw [torn.elsewhere.devices dev' away]
        exact (left.others dev' away).trans (here.devices other dev' (Nat.le_of_succ_le above) slot')
      · intro releases other below
        rw [table]
        rcases Nat.lt_succ_iff_lt_or_eq.mp below with passed | is
        · rcases left.slots other with kept | empty
          · rw [kept]
            exact here.released releases other passed
          · exact empty.2
        · rw [is]
          apply cleared
          intro traces bdev based
          unfold Kernel.Freezes
          rw [here.mounted, here.faults]
          exact releases slot device (Kernel.Holds.slot ⟨held', found'⟩) traces bdev based

/-- Nothing lies before the range. -/
theorem start (order : kernel.InOrder machine terms) :
    Cleaning machine kernel kernel.lowestMinor kernel :=
  { begins order with
    table := fun _ _ => rfl
    devices := fun _ _ _ _ => rfl
    released := fun _ _ below => order.range.free_below below }

end Cleaning

theorem low_le (range : kernel.RangeExact machine) : kernel.lowestMinor ≤ machine.maxSnapDevices := by
  by_cases any : (Occupancy.Occupied kernel.snapDevices).Nonempty
  · exact Nat.le_of_lt (range.within _ (range.inUse any).1.1)
  · rw [(range.unused (Set.not_nonempty_iff_eq_empty.mp any)).1]
    exact Nat.sub_le _ _

/-- The scan is one `tracer_destroy` after the other. -/
theorem cleanup_eq_each (order : kernel.InOrder machine terms)
    (positive : 0 < machine.maxSnapDevices) :
    cleanupSnapDeviceArray machine kernel =
      each (tracerDestroy machine) (kernel.inTable machine) kernel := by
  rw [kernel.inTable_eq, ← order.range.itemsFrom_low]
  change scan Kernel.snapDevices Kernel.highestMinor (tracerDestroy machine) .oops
    (machine.maxSnapDevices + 1) kernel.lowestMinor kernel = _
  apply @Occupancy.scan_eq_each _ machine.maxSnapDevices kernel.lowestMinor _ _
    Kernel.snapDevices (tracerDestroy machine) .oops Kernel.lowestMinor Kernel.highestMinor
    (Cleaning machine kernel) positive
  · exact fun _ _ here => here.range
  · exact fun _ _ here => here.skip
  · exact fun _ _ _ here => here.destroys order
  · exact .start order
  · exact low_le order.range
  · omega

/-- Each device is still allocated when its turn comes. -/
theorem cleanup_meets (order : kernel.InOrder machine terms) (live : terms.live) :
    Meets (tracerDestroy machine) (fun dev kernel => (kernel.devices dev).isSome = true)
      (Cleaning machine kernel machine.maxSnapDevices) (kernel.inTable machine) kernel := by
  rw [kernel.inTable_eq]
  apply Occupancy.meets_items _ _ (Cleaning.begins order) (Nat.zero_le _)
  · exact fun _ _ here => here.skip
  · intro slot state dev here held
    refine ⟨?_, here.destroys order held⟩
    have held' : kernel.snapDevices slot = some dev := (here.table slot (Nat.le_refl _)) ▸ held
    rw [here.devices slot dev (Nat.le_refl _) held']
    exact order.live live slot dev held'

/-- A device is destroyed once. -/
theorem inTable_nodup (order : kernel.InOrder machine terms) (live : terms.live) :
    (kernel.inTable machine).Nodup := by
  unfold Kernel.inTable
  apply List.Nodup.filterMap _ List.nodup_range
  intro slot other dev here there
  obtain ⟨device, found⟩ := Option.isSome_iff_exists.mp (order.live live slot dev here)
  exact order.apart ⟨there, found⟩ id here

/-- The devices that the scan when the driver is unloaded comes to: all, each of them once and
before it was freed. -/
structure Kernel.Cleaned (machine : Machine) (kernel : Kernel) : Prop where
  each : cleanupSnapDeviceArray machine kernel =
    each (tracerDestroy machine) (kernel.inTable machine) kernel
  once : (kernel.inTable machine).Nodup
  allocated : Meets (tracerDestroy machine) (fun dev kernel => (kernel.devices dev).isSome = true)
    (fun after =>
      (∀ minor device, kernel.tracing.slots minor = some device → kernel.LetsGo machine device) →
        ∀ minor, after.snapDevices minor = none)
    (kernel.inTable machine) kernel

theorem cleaned (order : kernel.InOrder machine terms) (live : terms.live)
    (positive : 0 < machine.maxSnapDevices) : kernel.Cleaned machine where
  each := cleanup_eq_each order positive
  once := inTable_nodup order live
  allocated := by
    apply (cleanup_meets order live).mono
    intro after here releases minor
    by_cases below : minor < machine.maxSnapDevices
    · exact here.released releases minor below
    · rw [here.table minor (Nat.le_of_not_lt below)]
      cases held : kernel.snapDevices minor with
      | none => rfl
      | some dev => exact absurd (order.bounded held) below

/-- The range is exact, a scan comes to each minor in use once, and whatever fails while the
driver is unloaded, that scan comes to each device. -/
structure Kernel.Scanned (machine : Machine) (kernel : Kernel) : Prop where
  range : kernel.RangeExact machine
  visits : ∀ minor dev, kernel.snapDevices minor = some dev → kernel.minors.count minor = 1
  cleanup : ∀ faults outcomes, Kernel.Cleaned machine { kernel with faults, outcomes }

theorem Kernel.Orderly.scanned (order : kernel.InOrder machine terms) (live : terms.live)
    (positive : 0 < machine.maxSnapDevices) : kernel.Scanned machine where
  range := order.range
  visits := fun _ _ held => order.range.count_slots held
  cleanup := by
    intro faults outcomes
    have order' : Kernel.InOrder machine terms { kernel with faults, outcomes } := { order with }
    exact cleaned order' live positive

section runs

variable {files : CowPath → Option Cow.CowFile}

/-- In every run, the range is exact and a scan comes to each minor in use once. -/
theorem range_exact {ok : Kernel → Call → Prop}
    (reached : Transition.Reaches (Kernel.step machine) ok (machine.boot files) kernel) :
    kernel.RangeExact machine ∧
      ∀ minor dev, kernel.snapDevices minor = some dev → kernel.minors.count minor = 1 := by
  let terms : Terms := ⟨False, False⟩
  have order : kernel.InOrder machine terms := .reached False.elim False.elim reached
  exact ⟨order.range, fun _ _ held => order.range.count_slots held⟩

/-- In every run in which each device that is destroyed leaves its slot. -/
theorem scans_miss_none (positive : 0 < machine.maxSnapDevices)
    (reached : Transition.Reaches (Kernel.step machine)
      (fun kernel call => call.Releases machine kernel) (machine.boot files) kernel) :
    kernel.Scanned machine := by
  let terms : Terms := ⟨False, True⟩
  have order : kernel.InOrder machine terms := by
    apply Kernel.Orderly.reached _ _ reached
    · exact False.elim
    · exact fun _ _ _ releases => releases
  exact order.scanned trivial positive

/-- Two devices are traced, and the first is destroyed. -/
theorem scans_miss_none_second :
    ∃ kernel, Transition.Reaches (Kernel.step .small)
        (fun kernel call => call.Releases .small kernel) (Machine.small.boot fun _ => none) kernel ∧
      kernel.snapDevices 0 = none ∧ kernel.snapDevices 1 = some 4 ∧ kernel.lowestMinor = 1 ∧
      kernel.Scanned .small := by
  have ran : ((Transition.run
      (Transition.checked (Kernel.step .small) fun kernel call => call.Releases .small kernel)
      (Machine.small.boot fun _ => none)
      [(Event.mount 1 (some .writable)).fine, (Event.mount 2 (some .writable)).fine,
        (Event.setupSnap 0 1 ⟨1, 7⟩ 1 0 0#128).fine, (Event.setupSnap 1 2 ⟨2, 7⟩ 1 0 0#128).fine,
        (Event.destroy 0).fine]).any fun kernel =>
      decide (kernel.snapDevices 0 = none ∧ kernel.snapDevices 1 = some 4 ∧
        kernel.lowestMinor = 1)) = true := by
    decide +kernel
  obtain ⟨kernel, reached, holds⟩ := Transition.Reaches.of_evaluated ran
  obtain ⟨gone, held, low⟩ := of_decide_eq_true holds
  exact ⟨kernel, reached, gone, held, low, scans_miss_none (by decide) reached⟩

/-- The freeze fails when the first of them is destroyed, so that its slot is kept; unloading the
driver then ends at it, before the second one. -/
theorem scans_miss_none_kept :
    ∃ kernel, Transition.run (Kernel.step .small) (Machine.small.boot fun _ => none)
        [(Event.mount 1 (some .writable)).fine, (Event.mount 2 (some .writable)).fine,
          (Event.setupSnap 0 1 ⟨1, 7⟩ 1 0 0#128).fine, (Event.setupSnap 1 2 ⟨2, 7⟩ 1 0 0#128).fine,
          ⟨.destroy 0, fun step => if step = .freeze then some .enomem else none, []⟩] =
        some kernel ∧
      kernel.inTable .small = [0, 4] ∧ (kernel.devices 0).isSome = false ∧
      (cleanupSnapDeviceArray .small { kernel with faults := fun _ => none }).1 = .error .oops ∧
      (cleanupSnapDeviceArray .small { kernel with faults := fun _ => none }).2.snapDevices 1 =
        some 4 ∧
      ¬ kernel.Scanned .small := by
  have ran : ((Transition.run (Kernel.step .small) (Machine.small.boot fun _ => none)
      [(Event.mount 1 (some .writable)).fine, (Event.mount 2 (some .writable)).fine,
        (Event.setupSnap 0 1 ⟨1, 7⟩ 1 0 0#128).fine, (Event.setupSnap 1 2 ⟨2, 7⟩ 1 0 0#128).fine,
        ⟨.destroy 0, fun step => if step = .freeze then some .enomem else none, []⟩]).any
      fun kernel =>
        let (result, after) := cleanupSnapDeviceArray .small { kernel with faults := fun _ => none }
        decide (kernel.inTable .small = [0, 4] ∧ (kernel.devices 0).isSome = false ∧
          result = .error .oops ∧ after.snapDevices 1 = some 4)) = true := by
    decide +kernel
  obtain ⟨kernel, found, holds⟩ := (Option.any_eq_true _ _).mp ran
  obtain ⟨table, freed, stopped, left⟩ := of_decide_eq_true holds
  refine ⟨kernel, found, table, freed, stopped, left, fun scanned => ?_⟩
  have met := (scanned.cleanup (fun _ => none) []).allocated
  rw [show Kernel.inTable .small { kernel with faults := fun _ => none, outcomes := [] } = [0, 4]
    from table] at met
  have there : (kernel.devices 0).isSome = true := met.1
  rw [freed] at there
  exact absurd there (by decide)

end runs

end Moocbt.Driver
