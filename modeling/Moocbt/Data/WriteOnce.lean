import Mathlib.Logic.Basic

/-! A store in which the first value recorded for a key stays. -/

namespace WriteOnce

variable {κ ν : Type} [DecidableEq κ] {content : κ → Option ν}

def record (content : κ → Option ν) (key : κ) (value : ν) : κ → Option ν :=
  fun other => if other = key then (content key).or (some value) else content other

def recordAll (content : κ → Option ν) (writes : List (κ × ν)) : κ → Option ν :=
  writes.foldl (fun content write => record content write.1 write.2) content

theorem record_self (content : κ → Option ν) (key : κ) (value : ν) :
    record content key value key = (content key).or (some value) := if_pos rfl

theorem record_of_ne {key other : κ} (apart : other ≠ key) (value : ν) :
    record content key value other = content other := if_neg apart

theorem record_of_some {key : κ} {old : ν} (found : content key = some old) (value : ν) :
    record content key value = content := by
  funext other
  by_cases same : other = key
  · rw [same, record_self, found]
    rfl
  · exact record_of_ne same value

/-- The value of a key is the one it had, or else the first one recorded. -/
theorem recordAll_eq (content : κ → Option ν) (writes : List (κ × ν)) (key : κ) :
    recordAll content writes key =
      (content key).or ((writes.find? fun write => write.1 = key).map Prod.snd) := by
  induction writes generalizing content with
  | nil => simp [recordAll]
  | cons write rest ih =>
      have step : recordAll content (write :: rest) key =
          recordAll (record content write.1 write.2) rest key := rfl
      rw [step, ih]
      by_cases same : write.1 = key
      · subst same
        rw [record_self]
        cases content write.1 <;> simp
      · rw [record_of_ne (Ne.symm same)]
        simp [same]

theorem recordAll_append (content : κ → Option ν) (left right : List (κ × ν)) :
    recordAll content (left ++ right) = recordAll (recordAll content left) right := by
  unfold recordAll
  rw [List.foldl_append]

/-- Writes of different keys change places. -/
theorem recordAll_comm {left right : List (κ × ν)}
    (apart : ∀ first ∈ left, ∀ second ∈ right, first.1 ≠ second.1) :
    recordAll content (left ++ right) = recordAll content (right ++ left) := by
  funext key
  rw [recordAll_eq, recordAll_eq, List.find?_append, List.find?_append]
  cases first : left.find? fun write => decide (write.1 = key) with
  | none => simp
  | some write =>
      cases second : right.find? fun write => decide (write.1 = key) with
      | none => simp
      | some other =>
          have same : write.1 = key := by simpa using List.find?_some first
          have same' : other.1 = key := by simpa using List.find?_some second
          exact absurd (same.trans same'.symm)
            (apart write (List.mem_of_find?_eq_some first) other (List.mem_of_find?_eq_some second))

theorem recordAll_isSome {writes : List (κ × ν)} {key : κ} :
    (recordAll content writes key).isSome = true ↔
      (content key).isSome = true ∨ ∃ value, (key, value) ∈ writes := by
  rw [recordAll_eq]
  cases content key with
  | some old => simp
  | none =>
      simp only [Option.none_or, Option.isSome_map, List.find?_isSome, decide_eq_true_eq,
        Option.isSome_none, Bool.false_eq_true, false_or]
      constructor
      · intro found
        obtain ⟨write, member, same⟩ := found
        exact ⟨write.2, by rw [← same]; exact member⟩
      · intro found
        obtain ⟨value, member⟩ := found
        exact ⟨_, member, rfl⟩

end WriteOnce
