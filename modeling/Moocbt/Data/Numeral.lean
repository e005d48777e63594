import Mathlib.Tactic.Ring

/-! Numbers from their digits, the most significant first, and what comes of reading a numeral
in a smaller base up to the first digit this base does not have. -/

namespace Numeral

variable {base small value value' length : Nat} {digits : List Nat}

/-- The number with these digits behind those of `value`. -/
def extend (base value : Nat) (digits : List Nat) : Nat :=
  digits.foldl (fun value digit => base * value + digit) value

/-- The number with these digits. -/
def number (base : Nat) (digits : List Nat) : Nat := extend base 0 digits

@[simp] theorem extend_nil : extend base value [] = value := rfl

@[simp] theorem extend_cons (digit : Nat) :
    extend base value (digit :: digits) = extend base (base * value + digit) digits := rfl

theorem extend_eq (base value : Nat) (digits : List Nat) :
    extend base value digits = value * base ^ digits.length + number base digits := by
  induction digits generalizing value with
  | nil => simp [number]
  | cons digit digits ih =>
      rw [number, extend_cons, extend_cons, ih, ih (base * 0 + digit), List.length_cons, pow_succ]
      ring

theorem number_cons (base digit : Nat) (digits : List Nat) :
    number base (digit :: digits) = digit * base ^ digits.length + number base digits := by
  rw [number, extend_cons, extend_eq, Nat.mul_zero, Nat.zero_add]

/-- A zero in front changes nothing. -/
theorem number_zero_cons (base : Nat) (digits : List Nat) :
    number base (0 :: digits) = number base digits := by
  rw [number_cons, Nat.zero_mul, Nat.zero_add]

theorem number_dropWhile_zero (base : Nat) (digits : List Nat) :
    number base (digits.dropWhile (· = 0)) = number base digits := by
  induction digits with
  | nil => rfl
  | cons digit digits ih =>
      rw [List.dropWhile_cons]
      split
      · rename_i zero
        have none : digit = 0 := of_decide_eq_true zero
        rw [ih, none, number_zero_cons]
      · rfl

theorem number_le (proper : ∀ digit ∈ digits, digit < base) :
    number base digits + 1 ≤ base ^ digits.length := by
  induction digits with
  | nil => simp [number]
  | cons digit digits ih =>
      have rest := ih fun other member => proper other (List.mem_cons_of_mem _ member)
      have here := proper digit List.mem_cons_self
      have more : (digit + 1) * base ^ digits.length ≤ base * base ^ digits.length :=
        Nat.mul_le_mul_right _ here
      rw [number_cons, List.length_cons, pow_succ, Nat.mul_comm (base ^ digits.length)]
      rw [Nat.succ_mul] at more
      omega

/-- The highest number of a length has the highest digit everywhere. -/
theorem number_eq_highest_iff (positive : 0 < base) (proper : ∀ digit ∈ digits, digit < base) :
    number base digits + 1 = base ^ digits.length ↔
      digits = List.replicate digits.length (base - 1) := by
  induction digits with
  | nil => simp [number]
  | cons digit digits ih =>
      have proper' : ∀ other ∈ digits, other < base :=
        fun other member => proper other (List.mem_cons_of_mem _ member)
      have here := proper digit List.mem_cons_self
      have rest := number_le proper'
      have power : 0 < base ^ digits.length := Nat.pow_pos positive
      have split : base * base ^ digits.length =
          (base - 1) * base ^ digits.length + base ^ digits.length := by
        rw [← Nat.succ_mul]
        congr 1
        omega
      rw [number_cons, List.length_cons, List.replicate_succ, List.cons.injEq, ← ih proper',
        pow_succ, Nat.mul_comm (base ^ digits.length)]
      constructor
      · intro highest
        have last : digit = base - 1 := by
          by_contra lower
          have less : (digit + 1 + 1) * base ^ digits.length ≤ base * base ^ digits.length :=
            Nat.mul_le_mul_right _ (by omega)
          rw [Nat.succ_mul, Nat.succ_mul] at less
          omega
        rw [last, split] at highest
        exact ⟨last, by omega⟩
      · intro both
        rw [both.1, split]
        omega

/-- Whether a numeral reaches the highest number of a length, seen from its digits. -/
theorem highest_le_number_iff (large : 1 < base) (proper : ∀ digit ∈ digits, digit < base)
    (leading : ∀ digit, digits.head? = some digit → digit ≠ 0) :
    base ^ length ≤ number base digits + 1 ↔
      length < digits.length ∨ digits = List.replicate length (base - 1) := by
  have positive : 0 < base := by omega
  have most := number_le proper
  rcases Nat.lt_trichotomy digits.length length with shorter | same | longer
  · have smaller : base ^ digits.length < base ^ length := Nat.pow_lt_pow_right large shorter
    constructor
    · intro reaches
      omega
    · intro full
      cases full with
      | inl more => omega
      | inr every =>
          have equal := congrArg List.length every
          rw [List.length_replicate] at equal
          omega
  · subst same
    rw [← number_eq_highest_iff positive proper]
    omega
  · refine ⟨fun _ => .inl longer, fun _ => ?_⟩
    cases digits with
    | nil => simp at longer
    | cons digit digits =>
        have front := leading digit rfl
        rw [List.length_cons] at longer
        have power : base ^ length ≤ base ^ digits.length :=
          Nat.pow_le_pow_right positive (by omega)
        have times : 1 * base ^ digits.length ≤ digit * base ^ digits.length :=
          Nat.mul_le_mul_right _ (by omega)
        rw [number_cons]
        omega

theorem le_extend (positive : 0 < base) (value : Nat) (digits : List Nat) :
    value ≤ extend base value digits := by
  induction digits generalizing value with
  | nil => exact Nat.le_refl _
  | cons digit digits ih =>
      have more : 1 * value ≤ base * value := Nat.mul_le_mul_right _ positive
      exact Nat.le_trans (by omega) (ih (base * value + digit))

theorem extend_takeWhile_le (positive : 0 < small) (smaller : small ≤ base)
    (behind : value ≤ value') :
    extend small value (digits.takeWhile (· < small)) ≤ extend base value' digits := by
  induction digits generalizing value value' with
  | nil => exact behind
  | cons digit digits ih =>
      rw [List.takeWhile_cons]
      split
      · refine ih ?_
        have step : small * value ≤ base * value' := Nat.mul_le_mul smaller behind
        change small * value + digit ≤ base * value' + digit
        omega
      · exact Nat.le_trans behind (le_extend (by omega) _ _)

theorem number_takeWhile_le (positive : 0 < small) (smaller : small ≤ base) (digits : List Nat) :
    number small (digits.takeWhile (· < small)) ≤ number base digits :=
  extend_takeWhile_le positive smaller (Nat.le_refl 0)

/-- A numeral that is behind after some digits stays behind. -/
theorem extend_takeWhile_lt (positive : 0 < small) (smaller : small ≤ base)
    (behind : value < value') :
    extend small value (digits.takeWhile (· < small)) < extend base value' digits := by
  induction digits generalizing value value' with
  | nil => exact behind
  | cons digit digits ih =>
      rw [List.takeWhile_cons]
      split
      · refine ih ?_
        have step : small * (value + 1) ≤ base * value' := Nat.mul_le_mul smaller behind
        rw [Nat.mul_succ] at step
        change small * value + digit < base * value' + digit
        omega
      · exact Nat.lt_of_lt_of_le behind (le_extend (by omega) _ _)

theorem number_takeWhile_of_lt (smaller : small ≤ base) (below : number base digits < small) :
    number small (digits.takeWhile (· < small)) = number base digits := by
  induction digits with
  | nil => rfl
  | cons digit digits ih =>
      rw [number, extend_cons, Nat.mul_zero, Nat.zero_add] at below
      have here : digit < small :=
        Nat.lt_of_le_of_lt (le_extend (by omega) digit digits) below
      rw [List.takeWhile_cons, if_pos (decide_eq_true here)]
      cases digit with
      | zero =>
          rw [number_zero_cons, number_zero_cons]
          exact ih below
      | succ digit =>
          cases digits with
          | nil => simp [number]
          | cons next digits =>
              have high : base * (digit + 1) + next ≤
                  extend base (base * (digit + 1) + next) digits := le_extend (by omega) _ digits
              rw [extend_cons] at below
              have more : base * 1 ≤ base * (digit + 1) := Nat.mul_le_mul_left _ (by omega)
              omega

/-- Reading a numeral in a smaller base gives its number exactly if the number is below that
base. -/
theorem number_takeWhile_iff (positive : 0 < small) (smaller : small < base) :
    number small (digits.takeWhile (· < small)) = number base digits ↔
      number base digits < small := by
  refine ⟨fun same => ?_, number_takeWhile_of_lt (Nat.le_of_lt smaller)⟩
  induction digits with
  | nil => exact positive
  | cons digit digits ih =>
      rw [List.takeWhile_cons] at same
      split at same
      · rename_i proper
        have here : digit < small := of_decide_eq_true proper
        cases digit with
        | zero =>
            rw [number_zero_cons, number_zero_cons] at same
            rw [number_zero_cons]
            exact ih same
        | succ digit =>
            cases digits with
            | nil => simpa [number] using here
            | cons next digits =>
                exfalso
                rw [number, number, extend_cons, extend_cons, extend_cons,
                  List.takeWhile_cons] at same
                have ahead : small * (digit + 1) + next < base * (digit + 1) + next := by
                  have step : (small + 1) * (digit + 1) ≤ base * (digit + 1) :=
                    Nat.mul_le_mul_right _ smaller
                  rw [Nat.succ_mul] at step
                  omega
                split at same
                · rw [extend_cons] at same
                  have less : extend small (small * (digit + 1) + next)
                        (digits.takeWhile (· < small)) <
                      extend base (base * (digit + 1) + next) digits :=
                    extend_takeWhile_lt positive (Nat.le_of_lt smaller) ahead
                  simp only [Nat.mul_zero, Nat.zero_add] at same
                  omega
                · have more : base * (digit + 1) + next ≤
                      extend base (base * (digit + 1) + next) digits := le_extend (by omega) _ digits
                  have step : small * 1 ≤ small * (digit + 1) :=
                    Nat.mul_le_mul_left _ (by omega)
                  have step' : 1 * (digit + 1) < base * (digit + 1) :=
                    Nat.mul_lt_mul_of_pos_right (by omega) (by omega)
                  simp only [extend_nil, Nat.mul_zero, Nat.zero_add] at same
                  omega
      · rename_i improper
        have here : ¬ digit < small := fun proper => improper (decide_eq_true proper)
        have more : digit ≤ extend base digit digits := le_extend (by omega) digit digits
        rw [number, number, extend_nil, extend_cons, Nat.mul_zero, Nat.zero_add] at same
        omega

end Numeral
