import Mathlib.Data.List.Basic

/-! Runs of marked items. Items with a size are laid out from a position on, and marked items
next to each other make up a run. -/

namespace Runs

variable {α : Type}

structure Run where
  start : Nat
  size : Nat
  deriving DecidableEq, Repr

def Run.Has (run : Run) (pos : Nat) : Prop := run.start ≤ pos ∧ pos < run.start + run.size

/-- The run that was opened, unless it is empty. -/
def close (opened : Option Nat) (pos : Nat) : List Run :=
  opened.elim [] fun start => if start < pos then [⟨start, pos - start⟩] else []

/-- The runs of the items, of which the first may continue an opened one. -/
def runs (marked : α → Bool) (size : α → Nat) : Option Nat → Nat → List α → List Run
  | opened, pos, [] => close opened pos
  | opened, pos, item :: rest =>
      if marked item then runs marked size (some (opened.getD pos)) (pos + size item) rest
      else close opened pos ++ runs marked size none (pos + size item) rest

/-- What the items put at each position. -/
def marks (marked : α → Bool) (size : α → Nat) (items : List α) : List Bool :=
  items.flatMap fun item => List.replicate (size item) (marked item)

variable {marked : α → Bool} {size : α → Nat} {item : α} {items rest : List α}

theorem marks_cons (item : α) (rest : List α) :
    marks marked size (item :: rest) =
      List.replicate (size item) (marked item) ++ marks marked size rest := rfl

theorem marks_here {index : Nat} (below : index < size item) :
    (marks marked size (item :: rest))[index]? = some (marked item) := by
  rw [marks_cons, List.getElem?_append_left (by rwa [List.length_replicate]),
    List.getElem?_replicate_of_lt below]

theorem marks_later (item : α) (rest : List α) (index : Nat) :
    (marks marked size (item :: rest))[size item + index]? =
      (marks marked size rest)[index]? := by
  rw [marks_cons, List.getElem?_append_right (by simp), List.length_replicate,
    Nat.add_sub_cancel_left]

theorem marks_cons_iff {index : Nat} :
    (marks marked size (item :: rest))[index]? = some true ↔
      index < size item ∧ marked item = true ∨
        size item ≤ index ∧ (marks marked size rest)[index - size item]? = some true := by
  by_cases here : index < size item
  · rw [marks_here here, Option.some.injEq]
    exact ⟨fun mark => .inl ⟨here, mark⟩, fun holds => holds.elim And.right fun behind => by omega⟩
  · obtain ⟨more, rfl⟩ := Nat.exists_eq_add_of_le (Nat.le_of_not_lt here)
    rw [marks_later, Nat.add_sub_cancel_left]
    exact ⟨fun mark => .inr ⟨Nat.le_add_right _ _, mark⟩,
      fun holds => holds.elim (fun first => absurd first.1 here) And.right⟩

theorem marks_unmarked {index : Nat} (none : ∀ item ∈ items, marked item = true → size item = 0) :
    (marks marked size items)[index]? ≠ some true := by
  induction items generalizing index with
  | nil => simp [marks]
  | cons item rest ih =>
      rw [List.forall_mem_cons] at none
      intro mark
      rcases marks_cons_iff.mp mark with here | behind
      · have empty := none.1 here.2
        omega
      · exact ih none.2 behind.2

variable {opened : Option Nat} {pos point : Nat} {run : Run}

theorem mem_close :
    (∃ run ∈ close opened pos, run.Has point) ↔ ∃ start ∈ opened, start ≤ point ∧ point < pos := by
  cases opened with
  | none => simp [close]
  | some start =>
      unfold close Run.Has
      by_cases filled : start < pos
      · simp only [Option.elim_some, filled, if_true, List.mem_singleton, exists_eq_left,
          Option.mem_def, Option.some.injEq, exists_eq_left']
        omega
      · simp only [Option.elim_some, filled, if_false, List.not_mem_nil, false_and, exists_false,
          Option.mem_def, Option.some.injEq, exists_eq_left', false_iff]
        omega

theorem close_start (member : run ∈ close opened pos) :
    opened = some run.start ∧ run.start + run.size = pos := by
  cases opened with
  | none => exact absurd member List.not_mem_nil
  | some start =>
      unfold close at member
      by_cases filled : start < pos
      · rw [Option.elim_some, if_pos filled, List.mem_singleton] at member
        rw [member]
        exact ⟨rfl, Nat.add_sub_cancel' (Nat.le_of_lt filled)⟩
      · rw [Option.elim_some, if_neg filled] at member
        exact absurd member List.not_mem_nil

theorem close_single : (close opened pos).Pairwise fun run next =>
    run.start + run.size ≤ next.start := by
  cases opened with
  | none => exact .nil
  | some start =>
      unfold close
      by_cases filled : start < pos
      · simp only [Option.elim_some, filled, if_true, List.pairwise_singleton]
      · simp only [Option.elim_some, filled, if_false, List.Pairwise.nil]

/-- The runs lie on the marked items, and an opened one before these. -/
theorem mem_runs (before : opened.getD pos ≤ pos) :
    (∃ run ∈ runs marked size opened pos items, run.Has point) ↔
      (∃ start ∈ opened, start ≤ point ∧ point < pos) ∨
        pos ≤ point ∧ (marks marked size items)[point - pos]? = some true := by
  induction items generalizing opened pos with
  | nil => simpa [runs, marks] using mem_close
  | cons item rest ih =>
      rw [marks_cons_iff, ← Nat.sub_add_eq]
      unfold runs
      by_cases mark : marked item = true
      · -- the run that is open covers the item as well
        have joined :
            (∃ start ∈ some (opened.getD pos), start ≤ point ∧ point < pos + size item) ↔
              (∃ start ∈ opened, start ≤ point ∧ point < pos) ∨
                pos ≤ point ∧ point < pos + size item := by
          cases opened with
          | none => simp
          | some start =>
              simp only [Option.getD_some, Option.mem_def, Option.some.injEq,
                exists_eq_left'] at before ⊢
              omega
        simp only [mark, if_true, and_true]
        rw [ih (Nat.le_add_right_of_le before), joined, or_assoc]
        refine or_congr_right ?_
        by_cases inside : pos ≤ point
        · have here : point < pos + size item ↔ point - pos < size item := by omega
          have behind : pos + size item ≤ point ↔ size item ≤ point - pos := by omega
          simp only [inside, here, behind, true_and]
        · have short : ¬ pos + size item ≤ point := by omega
          simp only [inside, short, false_and, or_false]
      · have unmarked : marked item = false := by simpa using mark
        have behind : pos + size item ≤ point ↔ pos ≤ point ∧ size item ≤ point - pos := by omega
        simp only [unmarked, Bool.false_eq_true, if_false, List.mem_append, or_and_right,
          exists_or, mem_close, and_false, false_or]
        rw [ih (Nat.le_refl _), behind, and_assoc]
        simp only [Option.not_mem_none, false_and, exists_false, false_or]

theorem start_le (before : opened.getD pos ≤ pos)
    (member : run ∈ runs marked size opened pos items) : opened.getD pos ≤ run.start := by
  have ended : ∀ {opened pos}, run ∈ close opened pos → opened.getD pos ≤ run.start := by
    intro opened pos found
    rw [(close_start found).1]
    exact Nat.le_refl _
  induction items generalizing opened pos with
  | nil => exact ended member
  | cons item rest ih =>
      unfold runs at member
      by_cases mark : marked item = true
      · rw [if_pos mark] at member
        exact @ih (some (opened.getD pos)) _ (Nat.le_add_right_of_le before) member
      · rw [if_neg mark, List.mem_append] at member
        rcases member with found | later
        · exact ended found
        · exact Nat.le_trans (Nat.le_add_right_of_le before) (ih (Nat.le_refl _) later)

/-- Each run ends before the next one starts. -/
theorem runs_ordered :
    (runs marked size opened pos items).Pairwise fun run next =>
      run.start + run.size ≤ next.start := by
  induction items generalizing opened pos with
  | nil => exact close_single
  | cons item rest ih =>
      unfold runs
      by_cases mark : marked item = true
      · rw [if_pos mark]
        exact ih
      · rw [if_neg mark, List.pairwise_append]
        refine ⟨close_single, ih, fun run found next later => ?_⟩
        have behind : pos + size item ≤ next.start := start_le (Nat.le_refl _) later
        rw [(close_start found).2]
        exact Nat.le_of_add_right_le behind

/-! The same items in a coarser unit, each size rounded down. -/

variable {unit : Nat}

/-- Up to the last marked item that is not empty, every size is a number of whole units. -/
def Aligned (unit : Nat) (marked : α → Bool) (size : α → Nat) : List α → Prop
  | [] => True
  | item :: rest =>
      ((∃ later ∈ item :: rest, marked later = true ∧ 0 < size later) → unit ∣ size item) ∧
        Aligned unit marked size rest

instance (unit : Nat) (marked : α → Bool) (size : α → Nat) (items : List α) :
    Decidable (Aligned unit marked size items) := by
  induction items with
  | nil => exact inferInstanceAs (Decidable True)
  | cons item rest ih =>
      exact @instDecidableAnd _ _ inferInstance ih

theorem exists_marked {index : Nat} (mark : (marks marked size items)[index]? = some true) :
    ∃ item ∈ items, marked item = true ∧ 0 < size item := by
  by_contra none
  refine marks_unmarked (fun item member marked => ?_) mark
  by_contra nonzero
  exact none ⟨item, member, marked, Nat.pos_of_ne_zero nonzero⟩

theorem Aligned.of_mark {index : Nat} (aligned : Aligned unit marked size (item :: rest))
    (mark : (marks marked size rest)[index]? = some true) : unit ∣ size item := by
  obtain ⟨later, member, filled⟩ := exists_marked mark
  exact aligned.1 ⟨later, List.mem_cons_of_mem _ member, filled⟩

/-- A marked unit has its mark from its first position on. -/
theorem Aligned.finer (aligned : Aligned unit marked size items) (positive : 0 < unit) {index : Nat}
    (mark : (marks marked (size · / unit) items)[index]? = some true) :
    (marks marked size items)[index * unit]? = some true := by
  induction items generalizing index with
  | nil => simp [marks] at mark
  | cons item rest ih =>
      rcases marks_cons_iff.mp mark with here | behind
      · have inside := Nat.lt_of_lt_of_le (Nat.mul_lt_mul_of_pos_right here.1 positive)
          (Nat.div_mul_le_self (size item) unit)
        exact marks_cons_iff.mpr (.inl ⟨inside, here.2⟩)
      · obtain ⟨past, mark⟩ := behind
        have earlier := ih aligned.2 mark
        obtain ⟨count, whole⟩ := aligned.of_mark earlier
        simp only [whole, Nat.mul_div_cancel_left _ positive] at past earlier
        refine marks_cons_iff.mpr (.inr ⟨?_, ?_⟩)
        · rw [whole, Nat.mul_comm]
          exact Nat.mul_le_mul_right unit past
        · rw [whole, Nat.mul_comm unit, ← Nat.sub_mul]
          exact earlier

/-- Every marked position is in a marked unit. -/
theorem Aligned.coarser (aligned : Aligned unit marked size items) (positive : 0 < unit)
    {index : Nat} (mark : (marks marked size items)[index]? = some true) :
    (marks marked (size · / unit) items)[index / unit]? = some true := by
  induction items generalizing index with
  | nil => simp [marks] at mark
  | cons item rest ih =>
      rcases marks_cons_iff.mp mark with here | behind
      · obtain ⟨count, whole⟩ := aligned.1 ⟨item, List.mem_cons_self, here.2, by omega⟩
        have inside := here.1
        refine marks_cons_iff.mpr (.inl ⟨?_, here.2⟩)
        rw [whole] at inside ⊢
        rw [Nat.mul_div_cancel_left _ positive]
        exact Nat.div_lt_of_lt_mul inside
      · obtain ⟨past, mark⟩ := behind
        obtain ⟨count, whole⟩ := aligned.of_mark mark
        have later := ih aligned.2 mark
        rw [whole] at past later
        rw [Nat.sub_mul_div] at later
        refine marks_cons_iff.mpr (.inr ?_)
        rw [whole, Nat.mul_div_cancel_left _ positive]
        exact ⟨(Nat.le_div_iff_mul_le positive).mpr (by rwa [Nat.mul_comm]), later⟩

theorem aligned_of_unmarked (none : ¬ ∃ item ∈ items, marked item = true ∧ 0 < size item) :
    Aligned unit marked size items := by
  induction items with
  | nil => trivial
  | cons item rest ih =>
      refine ⟨fun filled => absurd filled none, ih fun later => none ?_⟩
      obtain ⟨found, member, filled⟩ := later
      exact ⟨found, List.mem_cons_of_mem _ member, filled⟩

/-- No marked unit lies behind the last marked position, and what is lost by rounding on the
way puts the last of these before it. -/
theorem last_mark (filled : ∃ item ∈ items, marked item = true ∧ 0 < size item) :
    ∃ last units, (marks marked size items)[last]? = some true ∧
      (∀ index, (marks marked (size · / unit) items)[index]? = some true → index < units) ∧
      units * unit ≤ last + 1 ∧ (¬ Aligned unit marked size items → units * unit ≤ last) := by
  induction items with
  | nil =>
      obtain ⟨item, member, _⟩ := filled
      exact absurd member List.not_mem_nil
  | cons item rest ih =>
      have here := Nat.div_mul_le_self (size item) unit
      have lost : ¬ unit ∣ size item → size item / unit * unit < size item := fun broken =>
        Nat.lt_of_le_of_ne here fun same => broken ⟨_, by rw [Nat.mul_comm, same]⟩
      by_cases more : ∃ later ∈ rest, marked later = true ∧ 0 < size later
      · obtain ⟨last, units, mark, bound, joined, short⟩ := ih more
        refine ⟨size item + last, size item / unit + units, ?_, fun index found => ?_, ?_, ?_⟩
        · rwa [marks_later]
        · rcases marks_cons_iff.mp found with first | behind
          · omega
          · have later := bound _ behind.2
            omega
        · rw [Nat.add_mul]
          omega
        · intro broken
          rw [Nat.add_mul]
          by_cases whole : unit ∣ size item
          · have later := short fun aligned => broken ⟨fun _ => whole, aligned⟩
            omega
          · have rounded := lost whole
            omega
      · have first : marked item = true ∧ 0 < size item := by
          obtain ⟨found, member, filled⟩ := filled
          rcases List.mem_cons.mp member with same | later
          · rwa [same] at filled
          · exact absurd ⟨found, later, filled⟩ more
        have positive := first.2
        refine ⟨size item - 1, size item / unit, ?_, fun index found => ?_, by omega, ?_⟩
        · rw [marks_here (Nat.sub_lt positive Nat.one_pos), first.1]
        · rcases marks_cons_iff.mp found with inside | behind
          · exact inside.1
          · obtain ⟨later, member, mark, some⟩ := exists_marked behind.2
            exact absurd ⟨later, member, mark, Nat.pos_of_div_pos some⟩ more
        · intro broken
          have rounded := lost fun whole => broken ⟨fun _ => whole, aligned_of_unmarked more⟩
          omega

/-- Every marked position is in a marked unit exactly when the sizes are aligned. -/
theorem coarser_iff (positive : 0 < unit) :
    (∀ index, (marks marked size items)[index]? = some true →
        (marks marked (size · / unit) items)[index / unit]? = some true) ↔
      Aligned unit marked size items := by
  refine ⟨fun covered => ?_, fun aligned _ mark => aligned.coarser positive mark⟩
  by_contra broken
  have filled : ∃ item ∈ items, marked item = true ∧ 0 < size item := by
    by_contra none
    exact broken (aligned_of_unmarked none)
  obtain ⟨last, units, mark, bound, _, short⟩ := @last_mark _ _ _ _ unit filled
  have inside := bound _ (covered last mark)
  have before := (Nat.le_div_iff_mul_le positive).mpr (short broken)
  omega

end Runs
