import Mathlib.Data.Finset.Card
import Mathlib.Logic.Function.Basic

/-! Reference counts that are exact: a resource has as many references as holders, and it is there
as long as there is one. -/

namespace RefCount

variable {ρ : Type} [DecidableEq ρ] {held held' : Nat → Option ρ} {bound bound' holder : Nat}
  {resource : ρ} {refs refs' : ρ → Option Nat} {count : Nat}

/-- Who holds a resource. -/
def holders (held : Nat → Option ρ) (bound : Nat) (resource : ρ) : Finset Nat :=
  (Finset.range bound).filter fun holder => held holder = some resource

structure Counted (held : Nat → Option ρ) (bound : Nat) (refs : ρ → Option Nat) : Prop where
  within : ∀ holder resource, held holder = some resource → holder < bound
  exact : ∀ resource count, refs resource = some count →
    count = (holders held bound resource).card
  stored : ∀ resource, (refs resource).isSome ↔ (holders held bound resource).Nonempty

theorem mem_holders : holder ∈ holders held bound resource ↔
    holder < bound ∧ held holder = some resource := by
  unfold holders
  rw [Finset.mem_filter, Finset.mem_range]

namespace Counted

theorem mem_iff (counted : Counted held bound refs) :
    holder ∈ holders held bound resource ↔ held holder = some resource :=
  mem_holders.trans ⟨fun member => member.2, fun has => ⟨counted.within _ _ has, has⟩⟩

theorem empty (nobody : ∀ holder, held holder = none) (free : ∀ resource, refs resource = none) :
    Counted held bound refs where
  within := by
    intro holder resource has
    rw [nobody holder] at has
    contradiction
  exact := by
    intro resource count stored
    rw [free resource] at stored
    contradiction
  stored := by
    intro resource
    rw [free resource]
    constructor
    · exact fun stored => absurd stored (by simp)
    · intro any
      obtain ⟨holder, member⟩ := any
      have has := (mem_holders.mp member).2
      rw [nobody holder] at has
      contradiction

/-- The same holders of the same resources. -/
theorem congr (counted : Counted held bound refs) (same : held' = held) (counts : refs' = refs)
    (more : bound ≤ bound') : Counted held' bound' refs' := by
  subst same counts
  have holders' : ∀ resource, holders held' bound' resource = holders held' bound resource := by
    intro resource
    ext holder
    rw [counted.mem_iff, mem_holders]
    constructor
    · exact fun member => member.2
    · exact fun has => ⟨Nat.lt_of_lt_of_le (counted.within _ _ has) more, has⟩
  constructor
  · exact fun holder resource has => Nat.lt_of_lt_of_le (counted.within _ _ has) more
  · intro resource count stored
    rw [holders']
    exact counted.exact resource count stored
  · intro resource
    rw [holders']
    exact counted.stored resource

/-- One holder more of this resource, and of no other. -/
theorem holders_taken (free : held holder = none) (below : holder < bound) (other : ρ) :
    holders (Function.update held holder (some resource)) bound other =
      if other = resource then insert holder (holders held bound other)
      else holders held bound other := by
  ext another
  by_cases here : another = holder
  · subst here
    rw [mem_holders, Function.update_self]
    split
    · rename_i same
      subst same
      simp [below]
    · rename_i differs
      rw [mem_holders, free]
      simp [Ne.symm differs]
  · rw [mem_holders, Function.update_of_ne here, ← mem_holders]
    split
    · rw [Finset.mem_insert]
      exact ⟨.inr, fun member => member.resolve_left here⟩
    · rfl

theorem not_mem (free : held holder = none) : holder ∉ holders held bound resource := by
  intro member
  have has := (mem_holders.mp member).2
  rw [free] at has
  contradiction

/-- A reference to a resource is taken: one more, or the first. -/
theorem take (counted : Counted held bound refs) (free : held holder = none)
    (below : holder < bound) :
    Counted (Function.update held holder (some resource)) bound
      (Function.update refs resource (some ((refs resource).getD 0 + 1))) := by
  constructor
  · intro another other has
    by_cases here : another = holder
    · subst here
      exact below
    · rw [Function.update_of_ne here] at has
      exact counted.within another other has
  · intro other count stored
    rw [holders_taken free below]
    by_cases same : other = resource
    · subst same
      rw [Function.update_self] at stored
      rw [if_pos rfl, Finset.card_insert_of_notMem (not_mem free), ← Option.some.inj stored]
      cases known : refs other with
      | some before => rw [← counted.exact other before known, Option.getD_some]
      | none =>
          have none : holders held bound other = ∅ := by
            rw [← Finset.not_nonempty_iff_eq_empty, ← counted.stored other, known]
            simp
          rw [none, Finset.card_empty, Option.getD_none]
    · rw [Function.update_of_ne same] at stored
      rw [if_neg same]
      exact counted.exact other count stored
  · intro other
    rw [holders_taken free below]
    by_cases same : other = resource
    · subst same
      rw [Function.update_self, if_pos rfl]
      exact ⟨fun _ => Finset.insert_nonempty _ _, fun _ => rfl⟩
    · rw [Function.update_of_ne same, if_neg same]
      exact counted.stored other

theorem holders_put (other : ρ) :
    holders (Function.update held holder none) bound other =
      (holders held bound other).erase holder := by
  ext another
  rw [Finset.mem_erase, mem_holders, mem_holders]
  by_cases here : another = holder
  · subst here
    simp
  · rw [Function.update_of_ne here]
    exact ⟨fun member => ⟨here, member⟩, fun member => member.2⟩

/-- A reference is given back; the last one takes the resource with it. -/
theorem put (counted : Counted held bound refs) (has : held holder = some resource)
    (stored : refs resource = some count) :
    Counted (Function.update held holder none) bound
      (Function.update refs resource (if count - 1 = 0 then none else some (count - 1))) := by
  have member : holder ∈ holders held bound resource := counted.mem_iff.mpr has
  have card : (holders (Function.update held holder none) bound resource).card = count - 1 := by
    rw [holders_put, Finset.card_erase_of_mem member, ← counted.exact resource count stored]
  have others : ∀ other, other ≠ resource →
      holders (Function.update held holder none) bound other = holders held bound other := by
    intro other differs
    rw [holders_put, Finset.erase_eq_of_notMem]
    intro member
    have has' := counted.mem_iff.mp member
    rw [has] at has'
    exact differs (Option.some.inj has').symm
  constructor
  · intro another other kept
    by_cases here : another = holder
    · subst here
      rw [Function.update_self] at kept
      contradiction
    · rw [Function.update_of_ne here] at kept
      exact counted.within another other kept
  · intro other count' left
    by_cases same : other = resource
    · subst same
      rw [Function.update_self] at left
      rw [card]
      split at left
      · contradiction
      · exact (Option.some.inj left).symm
    · rw [Function.update_of_ne same] at left
      rw [others other same]
      exact counted.exact other count' left
  · intro other
    by_cases same : other = resource
    · subst same
      rw [Function.update_self, ← Finset.card_pos, card]
      split
      · rename_i last
        simp [last]
      · rename_i more
        simp [Nat.pos_of_ne_zero more]
    · rw [Function.update_of_ne same, others other same]
      exact counted.stored other

end Counted

end RefCount
