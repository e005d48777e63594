import Mathlib.Data.Nat.Count

/-! How many of the first values of a sequence have a property. -/

variable {α : Type} {P : α → Prop} [DecidablePred P]

def tally (P : α → Prop) [DecidablePred P] (values : Nat → α) (bound : Nat) : Nat :=
  Nat.count (fun index => P (values index)) bound

namespace Tally

theorem zero (values : Nat → α) : tally P values 0 = 0 := Nat.count_zero _

theorem succ (values : Nat → α) (bound : Nat) :
    tally P values (bound + 1) = tally P values bound + if P (values bound) then 1 else 0 :=
  Nat.count_succ ..

theorem congr {Q : α → Prop} [DecidablePred Q] {values values' : Nat → α} {bound : Nat}
    (same : ∀ index < bound, P (values index) ↔ Q (values' index)) :
    tally P values bound = tally Q values' bound := by
  induction bound with
  | zero => rw [zero, zero]
  | succ bound ih =>
      rw [succ, succ, ih fun index below => same index (by omega)]
      simp only [same bound (Nat.lt_succ_self bound)]

theorem mono {values values' : Nat → α} {bound : Nat}
    (weaker : ∀ index < bound, P (values index) → P (values' index)) :
    tally P values bound ≤ tally P values' bound := by
  induction bound with
  | zero => exact Nat.le_refl _
  | succ bound ih =>
      have fewer := ih fun index below => weaker index (by omega)
      rw [succ, succ]
      by_cases here : P (values bound)
      · rw [if_pos here, if_pos (weaker bound (Nat.lt_succ_self bound) here)]
        omega
      · rw [if_neg here]
        omega

theorem bound_le (values : Nat → α) {fewer bound : Nat} (below : fewer ≤ bound) :
    tally P values fewer ≤ tally P values bound := Nat.count_monotone _ below

theorem eq_zero {values : Nat → α} {bound : Nat}
    (never : ∀ index < bound, ¬ P (values index)) : tally P values bound = 0 := by
  induction bound with
  | zero => exact zero values
  | succ bound ih =>
      rw [succ, ih fun index below => never index (by omega),
        if_neg (never bound (Nat.lt_succ_self bound))]

/-- A property of one value at most is counted once at most. -/
theorem le_one {values : Nat → α} {bound : Nat} (only : Nat)
    (single : ∀ index < bound, P (values index) → index = only) : tally P values bound ≤ 1 := by
  induction bound with
  | zero =>
      rw [zero]
      omega
  | succ bound ih =>
      rw [succ]
      by_cases here : P (values bound)
      · have last := single bound (Nat.lt_succ_self bound) here
        have none : tally P values bound = 0 := by
          refine eq_zero fun index below held => ?_
          have same := single index (by omega) held
          omega
        rw [none, if_pos here]
      · rw [if_neg here]
        exact ih fun index below => single index (by omega)

/-- A value past the bound is not counted. -/
theorem update_of_le {values : Nat → α} {bound index : Nat} (past : bound ≤ index) (value : α) :
    tally P (Function.update values index value) bound = tally P values bound := by
  refine congr fun other below => ?_
  rw [Function.update_of_ne (by omega)]

/-- A new value below the bound: what the old one counted leaves, what it counts comes. -/
theorem update (values : Nat → α) {bound index : Nat} (below : index < bound) (value : α) :
    tally P (Function.update values index value) bound + (if P (values index) then 1 else 0) =
      tally P values bound + if P value then 1 else 0 := by
  induction bound with
  | zero => contradiction
  | succ bound ih =>
      rw [succ, succ]
      by_cases last : index = bound
      · subst last
        rw [update_of_le (Nat.le_refl index), Function.update_self]
        omega
      · have earlier := ih (by omega)
        rw [Function.update_of_ne (Ne.symm last)]
        omega

end Tally
