import Moocbt.Data.WriteOnce

/-! A base that is overwritten, beside a write-once store of what its keys had before. -/

namespace CopyOnWrite

open WriteOnce

variable {κ ν : Type} {original : κ → ν → Prop} {guarded guarded' : κ → Prop} {base base' : κ → ν}
  {content content' : κ → Option ν} {pending pending' : κ → ν → Prop}

/-- Every guarded key still has its original value: in the store, or else in the base and in
everything that is on its way into the store. -/
structure Frozen (original : κ → ν → Prop) (guarded : κ → Prop) (base : κ → ν)
    (content : κ → Option ν) (pending : κ → ν → Prop) : Prop where
  stored : ∀ {key value}, guarded key → content key = some value → original key value
  fresh : ∀ {key}, guarded key → content key = none → original key (base key)
  brought : ∀ {key value}, guarded key → content key = none → pending key value →
    original key value

/-- What a reader makes of the store and the base. -/
def view (content : κ → Option ν) (base : κ → ν) (key : κ) : ν := (content key).getD (base key)

namespace Frozen

theorem start (same : ∀ key, original key (base key)) :
    Frozen original guarded base (fun _ => none) fun _ _ => False where
  stored _ found := by cases found
  fresh _ _ := same _
  brought _ _ := False.elim

theorem weaken (frozen : Frozen original guarded base content pending)
    (fewer : ∀ key, guarded' key → guarded key)
    (less : ∀ key value, guarded' key → pending' key value → pending key value) :
    Frozen original guarded' base content pending' where
  stored inside found := frozen.stored (fewer _ inside) found
  fresh inside absent := frozen.fresh (fewer _ inside) absent
  brought inside absent coming := frozen.brought (fewer _ inside) absent (less _ _ inside coming)

/-- Values are read from the base, to be stored. -/
theorem read (frozen : Frozen original guarded base content pending)
    (pending' : κ → ν → Prop) (origin : ∀ key value, guarded key → pending' key value →
      pending key value ∨ (original key (base key) → original key value)) :
    Frozen original guarded base content pending' where
  stored := frozen.stored
  fresh := frozen.fresh
  brought inside absent coming := by
    rcases origin _ _ inside coming with before | read
    · exact frozen.brought inside absent before
    · exact read (frozen.fresh inside absent)

/-- A store that differs outside of the guarded keys. -/
theorem congr (frozen : Frozen original guarded base content pending)
    (same : ∀ key, guarded key → content' key = content key) :
    Frozen original guarded base content' pending where
  stored inside found := frozen.stored inside ((same _ inside).symm.trans found)
  fresh inside absent := frozen.fresh inside ((same _ inside).symm.trans absent)
  brought inside absent := frozen.brought inside ((same _ inside).symm.trans absent)

/-- The base is overwritten where the store has a value. -/
theorem write (frozen : Frozen original guarded base content pending)
    (kept : ∀ key, guarded key → content key = none → original key (base key) →
      original key (base' key)) :
    Frozen original guarded base' content pending where
  stored := frozen.stored
  fresh inside absent := kept _ inside absent (frozen.fresh inside absent)
  brought := frozen.brought

/-- Values that were on their way are stored, each where there is none. -/
theorem store [DecidableEq κ] (frozen : Frozen original guarded base content pending)
    (writes : List (κ × ν)) (origin : ∀ key value, (key, value) ∈ writes → pending key value) :
    Frozen original guarded base (recordAll content writes) pending where
  stored {key value} inside found := by
    rw [recordAll_eq] at found
    cases old : content key with
    | some first =>
        rw [old] at found
        cases found
        exact frozen.stored inside old
    | none =>
        rw [old, Option.none_or] at found
        obtain ⟨write, searched, same⟩ := Option.map_eq_some_iff.mp found
        have here : write.1 = key := by simpa using List.find?_some searched
        refine frozen.brought inside old (origin key value ?_)
        rw [← here, ← same]
        exact List.mem_of_find?_eq_some searched
  fresh {key} inside absent := by
    rw [recordAll_eq, Option.or_eq_none_iff] at absent
    exact frozen.fresh inside absent.1
  brought inside absent coming := by
    rw [recordAll_eq, Option.or_eq_none_iff] at absent
    exact frozen.brought inside absent.1 coming

/-- A reader finds the original values. -/
theorem view (frozen : Frozen original guarded base content pending) {key : κ}
    (inside : guarded key) : original key (view content base key) := by
  unfold CopyOnWrite.view
  cases found : content key with
  | none => exact frozen.fresh inside found
  | some value => exact frozen.stored inside found

end Frozen

end CopyOnWrite
