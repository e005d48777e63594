import Mathlib.Data.List.Nodup
import Mathlib.Logic.Function.Basic

/-! Values scattered over memory: a sequence of positions is laid out over a list of
addresses, and a position may leave what is at its address. -/

namespace Scatter

variable {α β : Type} [DecidableEq α]

/-- Store `value pos`, `value (pos + 1)` and so on at the addresses. -/
def fill (value : Nat → Option β) : Nat → List α → (α → β) → α → β
  | _, [], memory => memory
  | pos, addr :: rest, memory =>
      fill value (pos + 1) rest ((value pos).elim memory (Function.update memory addr))

variable {value value' : Nat → Option β} {addrs : List α} {memory : α → β}

theorem fill_append (value : Nat → Option β) (pos : Nat) (before after : List α)
    (memory : α → β) :
    fill value pos (before ++ after) memory =
      fill value (pos + before.length) after (fill value pos before memory) := by
  induction before generalizing pos memory with
  | nil => rfl
  | cons addr before ih =>
      simp only [List.cons_append, fill, List.length_cons, ih]
      congr 1
      omega

/-- Only the values of the positions that are laid out count. -/
theorem fill_congr {pos pos' : Nat}
    (same : ∀ index < addrs.length, value (pos + index) = value' (pos' + index)) :
    fill value pos addrs memory = fill value' pos' addrs memory := by
  induction addrs generalizing pos pos' memory with
  | nil => rfl
  | cons addr addrs ih =>
      have here : value pos = value' pos' := same 0 (by simp)
      have later : ∀ index < addrs.length,
          value (pos + 1 + index) = value' (pos' + 1 + index) := by
        intro index below
        have next := same (index + 1) (by simpa using below)
        rwa [Nat.add_right_comm pos, Nat.add_right_comm pos']
      unfold fill
      rw [here, ih later]

theorem fill_none {pos : Nat} (none : ∀ index < addrs.length, value (pos + index) = none) :
    fill value pos addrs memory = memory := by
  induction addrs generalizing pos with
  | nil => rfl
  | cons addr addrs ih =>
      have here : value pos = Option.none := none 0 (by simp)
      unfold fill
      rw [here]
      refine ih fun index below => ?_
      rw [Nat.add_right_comm, Nat.add_assoc]
      exact none (index + 1) (by simpa using below)

theorem fill_outside {addr : α} (outside : addr ∉ addrs) (pos : Nat) :
    fill value pos addrs memory addr = memory addr := by
  induction addrs generalizing pos memory with
  | nil => rfl
  | cons first addrs ih =>
      rw [List.mem_cons, not_or] at outside
      unfold fill
      rw [ih outside.2]
      cases value pos with
      | none => rfl
      | some byte => exact Function.update_of_ne outside.1 _ _

/-- At distinct addresses every position finds its place. -/
theorem fill_at (distinct : addrs.Nodup) {pos index : Nat} {addr : α}
    (found : addrs[index]? = some addr) :
    fill value pos addrs memory addr = (value (pos + index)).getD (memory addr) := by
  induction addrs generalizing pos index memory with
  | nil => simp at found
  | cons first addrs ih =>
      obtain ⟨fresh, distinct⟩ := List.nodup_cons.mp distinct
      unfold fill
      cases index with
      | zero =>
          cases found
          rw [fill_outside fresh, Nat.add_zero]
          cases value pos with
          | none => rfl
          | some byte => exact Function.update_self ..
      | succ index =>
          have later : addrs[index]? = some addr := by simpa using found
          have other : addr ≠ first := fun same => fresh (same ▸ List.mem_of_getElem? later)
          rw [ih distinct later, Nat.add_right_comm, Nat.add_assoc]
          congr 1
          cases value pos with
          | none => rfl
          | some byte => exact Function.update_of_ne other _ _

/-- What is laid out twice keeps the first value where the second one is missing. -/
theorem fill_fill (distinct : addrs.Nodup) (pos : Nat) :
    fill value' pos addrs (fill value pos addrs memory) =
      fill (fun index => (value' index).or (value index)) pos addrs memory := by
  funext addr
  by_cases inside : addr ∈ addrs
  · obtain ⟨index, found⟩ := List.mem_iff_getElem?.mp inside
    rw [fill_at distinct found, fill_at distinct found, fill_at distinct found]
    cases value' (pos + index) <;> rfl
  · rw [fill_outside inside, fill_outside inside, fill_outside inside]

end Scatter
