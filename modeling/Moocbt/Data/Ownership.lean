import Mathlib.Logic.Function.Basic

/-! Items in memory and those that refer to them: nobody refers to an item that was freed, as each
item has one owner. -/

namespace Ownership

variable {α : Type} {but : α → Prop} {held held' : α → Option Nat}
  {live live' : Nat → Prop} {fresh fresh' item : Nat} {owner other : α}

/-- Each item that is referred to is in memory, and has one owner but for these. -/
structure Owned (but : α → Prop) (held : α → Option Nat) (live : Nat → Prop) (fresh : Nat) :
    Prop where
  alive : ∀ owner item, held owner = some item → live item
  known : ∀ item, live item → item < fresh
  apart : ∀ owner other item, ¬ but owner → ¬ but other → held owner = some item →
    held other = some item → owner = other

namespace Owned

theorem empty (none : ∀ owner, held owner = none) (gone : ∀ item, ¬ live item) :
    Owned but held live fresh where
  alive := fun owner item refers => by simp [none owner] at refers
  known := fun item there => absurd there (gone item)
  apart := fun owner other item _ _ refers => by simp [none owner] at refers

/-- References are dropped, and items stay. -/
theorem mono (owned : Owned but held live fresh)
    (fewer : ∀ owner, held' owner = held owner ∨ held' owner = none)
    (same : ∀ item, live' item ↔ live item) (later : fresh ≤ fresh') :
    Owned but held' live' fresh' := by
  have before : ∀ {owner item}, held' owner = some item → held owner = some item := by
    intro owner item refers
    rcases fewer owner with kept | dropped
    · rw [← kept]
      exact refers
    · rw [dropped] at refers
      contradiction
  constructor
  · exact fun owner item refers => (same item).mpr (owned.alive owner item (before refers))
  · exact fun item there => Nat.lt_of_lt_of_le (owned.known item ((same item).mp there)) later
  · exact fun owner other item out out' refers refers' =>
      owned.apart owner other item out out' (before refers) (before refers')

/-- A new item, which nobody refers to. -/
theorem allocate (owned : Owned but held live fresh)
    (one : ∀ item, live' item ↔ item = fresh ∨ live item) :
    Owned but held live' (fresh + 1) ∧ ∀ owner, held owner ≠ some fresh := by
  constructor
  · constructor
    · exact fun owner item refers => (one item).mpr (.inr (owned.alive owner item refers))
    · intro item there
      rcases (one item).mp there with new | old
      · exact Nat.lt_succ_of_le (Nat.le_of_eq new)
      · exact Nat.lt_succ_of_lt (owned.known item old)
    · exact owned.apart
  · intro owner refers
    exact absurd (owned.known fresh (owned.alive owner fresh refers)) (Nat.lt_irrefl fresh)

/-- An item that nobody refers to is freed. -/
theorem discard (owned : Owned but held live fresh) (unheld : ∀ owner, held owner ≠ some item)
    (fewer : ∀ other, live' other ↔ other ≠ item ∧ live other) :
    Owned but held live' fresh where
  alive := by
    intro owner other refers
    refine (fewer other).mpr ⟨fun same => ?_, owned.alive owner other refers⟩
    rw [same] at refers
    exact unheld owner refers
  known := fun other there => owned.known other ((fewer other).mp there).2
  apart := owned.apart

/-- The one that was left out has gone. -/
theorem settle (owned : Owned (· = owner) held live fresh) (gone : held owner = none) :
    Owned (fun _ => False) held live fresh where
  alive := owned.alive
  known := owned.known
  apart := by
    intro first second item _ _ refers refers'
    apply owned.apart first second item _ _ refers refers'
    · intro here
      rw [here, gone] at refers
      contradiction
    · intro here
      rw [here, gone] at refers'
      contradiction

section updates

variable [DecidableEq α]

/-- An item that nobody refers to gets an owner. -/
theorem take (owned : Owned but held live fresh) (there : live item)
    (unheld : ∀ owner, held owner ≠ some item) :
    Owned but (Function.update held owner (some item)) live fresh := by
  constructor
  · intro other item' refers
    by_cases here : other = owner
    · subst here
      rw [Function.update_self, Option.some.injEq] at refers
      rw [← refers]
      exact there
    · rw [Function.update_of_ne here] at refers
      exact owned.alive other item' refers
  · exact owned.known
  · intro first second item' out out' refers refers'
    by_cases here : first = owner
    · by_cases here' : second = owner
      · exact here.trans here'.symm
      · rw [here, Function.update_self, Option.some.injEq] at refers
        rw [Function.update_of_ne here', ← refers] at refers'
        exact absurd refers' (unheld second)
    · rw [Function.update_of_ne here] at refers
      by_cases here' : second = owner
      · rw [here', Function.update_self, Option.some.injEq] at refers'
        rw [← refers'] at refers
        exact absurd refers (unheld first)
      · rw [Function.update_of_ne here'] at refers'
        exact owned.apart first second item' out out' refers refers'

/-- Its owner frees an item. -/
theorem free (owned : Owned (fun _ => False) held live fresh) (refers : held owner = some item)
    (fewer : ∀ other, live' other ↔ other ≠ item ∧ live other) :
    Owned (fun _ => False) (Function.update held owner none) live' fresh := by
  have dropped : Owned (fun _ => False) (Function.update held owner none) live fresh := by
    apply owned.mono _ (fun _ => Iff.rfl) (Nat.le_refl _)
    intro other
    by_cases here : other = owner
    · rw [here, Function.update_self]
      exact .inr rfl
    · exact .inl (Function.update_of_ne here _ _)
  apply dropped.discard _ fewer
  intro other refers'
  by_cases here : other = owner
  · rw [here, Function.update_self] at refers'
    contradiction
  · rw [Function.update_of_ne here] at refers'
    exact here (owned.apart other owner item id id refers' refers)

/-- A second one gets hold of an item: each of the two may be left out. -/
theorem share (owned : Owned (fun _ => False) held live fresh) (refers : held owner = some item) :
    Owned (· = other) (Function.update held other (some item)) live fresh ∧
      Owned (· = owner) (Function.update held other (some item)) live fresh := by
  have alive : ∀ third item', Function.update held other (some item) third = some item' →
      live item' := by
    intro third item' refers'
    by_cases here : third = other
    · rw [here, Function.update_self, Option.some.injEq] at refers'
      rw [← refers']
      exact owned.alive owner item refers
    · rw [Function.update_of_ne here] at refers'
      exact owned.alive third item' refers'
  constructor
  · refine ⟨alive, owned.known, fun first second item' out out' refers' refers'' => ?_⟩
    rw [Function.update_of_ne out] at refers'
    rw [Function.update_of_ne out'] at refers''
    exact owned.apart first second item' id id refers' refers''
  · have only : ∀ third item', third ≠ owner → third ≠ other →
        Function.update held other (some item) third = some item' → item' ≠ item := by
      intro third item' away away' refers' same
      rw [Function.update_of_ne away', same] at refers'
      exact away (owned.apart third owner item id id refers' refers)
    refine ⟨alive, owned.known, fun first second item' out out' refers' refers'' => ?_⟩
    by_cases here : first = other
    · by_cases here' : second = other
      · exact here.trans here'.symm
      · rw [here, Function.update_self, Option.some.injEq] at refers'
        exact absurd refers'.symm (only second item' out' here' refers'')
    · by_cases here' : second = other
      · rw [here', Function.update_self, Option.some.injEq] at refers''
        exact absurd refers''.symm (only first item' out here refers')
      · rw [Function.update_of_ne here] at refers'
        rw [Function.update_of_ne here'] at refers''
        exact owned.apart first second item' id id refers' refers''

end updates

end Owned

end Ownership
