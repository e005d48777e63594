import Mathlib.Data.List.Sort
import Mathlib.Order.Bounds.Basic
import Moocbt.Logic.Program

/-! The slots of a table that are in use, the range that is kept so that a scan need not go
through all of them, and a scan whose body changes the table and the range. -/

namespace Occupancy

variable {α : Type} {slots : Nat → Option α} {count low high slot : Nat}

def Occupied (slots : Nat → Option α) : Set Nat := { slot | (slots slot).isSome = true }

/-- The first and the last slot in use; an inverted range when there is none. -/
structure Bounds (slots : Nat → Option α) (count low high : Nat) : Prop where
  within : ∀ slot ∈ Occupied slots, slot < count
  inUse : (Occupied slots).Nonempty → IsLeast (Occupied slots) low ∧ IsGreatest (Occupied slots) high
  unused : Occupied slots = ∅ → low = count - 1 ∧ high = 0

/-- The slots in use among the first ones, in order. -/
def used (slots : Nat → Option α) (count : Nat) : List Nat :=
  (List.range count).filter fun slot => (slots slot).isSome

theorem used_sorted (slots : Nat → Option α) (count : Nat) :
    (used slots count).Pairwise (· < ·) := List.Pairwise.filter _ List.pairwise_lt_range

theorem mem_used : slot ∈ used slots count ↔ slot < count ∧ slot ∈ Occupied slots := by
  unfold used
  rw [List.mem_filter, List.mem_range]
  exact Iff.rfl

theorem empty_of_isEmpty (none : ∀ slot, slots slot = none) : Occupied slots = ∅ := by
  apply Set.eq_empty_of_forall_notMem
  intro slot held
  have free : (slots slot).isSome = false := by rw [none slot, Option.isSome_none]
  exact absurd held (by simp [Occupied, free])

theorem occupied_update (slots : Nat → Option α) (slot : Nat) (item : α) :
    Occupied (Function.update slots slot (some item)) = insert slot (Occupied slots) := by
  ext other
  rw [Set.mem_insert_iff]
  change (Function.update slots slot (some item) other).isSome = true ↔
    other = slot ∨ (slots other).isSome = true
  by_cases here : other = slot
  · subst here
    rw [Function.update_self]
    exact ⟨fun _ => .inl rfl, fun _ => rfl⟩
  · rw [Function.update_of_ne here]
    exact ⟨.inr, fun held => held.resolve_left here⟩

theorem Bounds.congr {β : Type} {slots' : Nat → Option β} (bounds : Bounds slots count low high)
    (same : Occupied slots' = Occupied slots) : Bounds slots' count low high where
  within := by
    rw [same]
    exact bounds.within
  inUse := by
    rw [same]
    exact bounds.inUse
  unused := by
    rw [same]
    exact bounds.unused

theorem Bounds.empty (none : ∀ slot, slots slot = none) :
    Bounds slots count (count - 1) 0 where
  within := by
    rw [empty_of_isEmpty none]
    exact fun _ held => held.elim
  inUse := by
    rw [empty_of_isEmpty none]
    exact fun held => absurd held Set.not_nonempty_empty
  unused := fun _ => ⟨rfl, rfl⟩

/-- A slot that is filled is added to the range. -/
theorem Bounds.insert (bounds : Bounds slots count low high) (below : slot < count)
    (item : α) :
    Bounds (Function.update slots slot (some item)) count (min slot low) (max slot high) := by
  constructor
  · rw [occupied_update]
    intro other held
    rcases Set.mem_insert_iff.mp held with rfl | held'
    · exact below
    · exact bounds.within other held'
  · intro _
    rw [occupied_update]
    by_cases any : (Occupied slots).Nonempty
    · obtain ⟨least, greatest⟩ := bounds.inUse any
      exact ⟨least.insert slot, greatest.insert slot⟩
    · have none := Set.not_nonempty_iff_eq_empty.mp any
      obtain ⟨atLast, atFirst⟩ := bounds.unused none
      rw [none, atLast, atFirst, Nat.min_eq_left (Nat.le_sub_one_of_lt below),
        Nat.max_eq_left (Nat.zero_le slot), insert_empty_eq]
      exact ⟨isLeast_singleton, isGreatest_singleton⟩
  · intro none
    rw [occupied_update] at none
    exact absurd none (Set.insert_nonempty slot _).ne_empty

section recalculated

variable {inOrder : List Nat} {default : Nat}

theorem headD_le (sorted : inOrder.Pairwise (· < ·)) (member : slot ∈ inOrder) :
    inOrder.headD default ≤ slot := by
  cases inOrder with
  | nil => exact absurd member (by simp)
  | cons first rest =>
      rcases List.mem_cons.mp member with rfl | later
      · exact Nat.le_refl _
      · exact Nat.le_of_lt ((List.pairwise_cons.mp sorted).1 slot later)

theorem le_getLastD (sorted : inOrder.Pairwise (· < ·)) (member : slot ∈ inOrder) :
    slot ≤ inOrder.getLastD default := by
  induction inOrder generalizing default slot with
  | nil => exact absurd member (by simp)
  | cons first rest ih =>
      obtain ⟨above, sorted'⟩ := List.pairwise_cons.mp sorted
      rw [List.getLastD_cons]
      rcases List.mem_cons.mp member with rfl | later
      · cases rest with
        | nil => exact Nat.le_refl _
        | cons second rest =>
            have next : second ∈ second :: rest := List.mem_cons_self
            exact Nat.le_trans (Nat.le_of_lt (above second next)) (ih sorted' next)
      · exact ih sorted' later

theorem getLastD_mem {first : Nat} {rest : List Nat} :
    (first :: rest).getLastD default ∈ first :: rest := by
  rw [List.getLastD_cons]
  cases rest with
  | nil => exact List.mem_cons_self
  | cons second rest =>
      rw [List.getLastD_eq_getLast?, List.getLast?_eq_some_getLast (List.cons_ne_nil _ _)]
      exact List.mem_cons_of_mem _ (List.getLast_mem _)

theorem Bounds.unique {low' high' : Nat} (bounds : Bounds slots count low high)
    (bounds' : Bounds slots count low' high') : low = low' ∧ high = high' := by
  by_cases any : (Occupied slots).Nonempty
  · obtain ⟨least, greatest⟩ := bounds.inUse any
    obtain ⟨least', greatest'⟩ := bounds'.inUse any
    exact ⟨least.unique least', greatest.unique greatest'⟩
  · have free : Occupied slots = ∅ := Set.not_nonempty_iff_eq_empty.mp any
    obtain ⟨low_eq, high_eq⟩ := bounds.unused free
    obtain ⟨low_eq', high_eq'⟩ := bounds'.unused free
    exact ⟨low_eq.trans low_eq'.symm, high_eq.trans high_eq'.symm⟩

/-- The range as a pass through the whole table finds it. -/
theorem Bounds.recalculated (within : ∀ slot ∈ Occupied slots, slot < count) :
    Bounds slots count (min ((used slots count).headD (count - 1)) (count - 1))
      ((used slots count).getLastD 0) := by
  have sorted := used_sorted slots count
  have members : ∀ slot, slot ∈ used slots count ↔ slot ∈ Occupied slots :=
    fun slot => mem_used.trans ⟨fun held => held.2, fun held => ⟨within slot held, held⟩⟩
  refine ⟨within, ?_, ?_⟩
  · intro any
    obtain ⟨slot, held⟩ := any
    cases listed : used slots count with
    | nil =>
        have member := (members slot).mpr held
        rw [listed] at member
        exact absurd member (by simp)
    | cons first rest =>
        rw [listed] at sorted members
        have least : first ∈ Occupied slots := (members first).mp List.mem_cons_self
        rw [List.headD_cons, Nat.min_eq_left (Nat.le_sub_one_of_lt (within first least))]
        constructor
        · refine ⟨least, fun other held => ?_⟩
          have below : (first :: rest).headD 0 ≤ other := headD_le sorted ((members other).mpr held)
          exact below
        · exact ⟨(members _).mp getLastD_mem,
            fun other held => le_getLastD sorted ((members other).mpr held)⟩
  · intro none
    cases listed : used slots count with
    | nil => exact ⟨Nat.min_self _, rfl⟩
    | cons first rest =>
        have member := (members first).mp (by rw [listed]; exact List.mem_cons_self)
        rw [none] at member
        exact member.elim

end recalculated

/-- A scan from some slot in front of the range to its end meets every slot in use, once and in
order. -/
theorem Bounds.scanned_from {first : Nat} (bounds : Bounds slots count low high)
    (before : (Occupied slots).Nonempty → first ≤ low) :
    (List.range' first (high + 1 - first)).filter (fun slot => (slots slot).isSome) =
      used slots count := by
  have scanned : ((List.range' first (high + 1 - first)).filter
      fun slot => (slots slot).isSome).Pairwise (· < ·) :=
    List.Pairwise.filter _ List.pairwise_lt_range'
  apply scanned.eq_of_mem_iff (used_sorted slots count)
  intro slot
  rw [List.mem_filter, mem_used, List.mem_range'_1]
  constructor
  · exact fun met => ⟨bounds.within slot met.2, met.2⟩
  · intro held
    obtain ⟨least, greatest⟩ := bounds.inUse ⟨slot, held.2⟩
    have starts := before ⟨slot, held.2⟩
    have above := least.2 held.2
    have below := greatest.2 held.2
    exact ⟨⟨Nat.le_trans starts above, by omega⟩, held.2⟩

/-- So does the scan of the range. -/
theorem Bounds.scanned (bounds : Bounds slots count low high) :
    (List.range' low (high + 1 - low)).filter (fun slot => (slots slot).isSome) =
      used slots count := bounds.scanned_from fun _ => Nat.le_refl _

/-- The first slot in use is the start of the range. -/
theorem Bounds.used_first (bounds : Bounds slots count low high)
    (any : (Occupied slots).Nonempty) :
    ∃ rest, used slots count = low :: rest ∧ ∀ slot ∈ rest, slot ≠ low := by
  obtain ⟨least, _⟩ := bounds.inUse any
  have sorted := used_sorted slots count
  have member := mem_used.mpr ⟨bounds.within low least.1, least.1⟩
  cases listed : used slots count with
  | nil =>
      rw [listed] at member
      exact absurd member (by simp)
  | cons first rest =>
      rw [listed] at sorted member
      have there : first ∈ Occupied slots :=
        (mem_used.mp (by rw [listed]; exact List.mem_cons_self : first ∈ used slots count)).2
      have below : (first :: rest).headD 0 ≤ low := headD_le sorted member
      have same : first = low := Nat.le_antisymm below (least.2 there)
      refine ⟨rest, by rw [same], fun slot later => ?_⟩
      have above := (List.pairwise_cons.mp sorted).1 slot later
      rw [← same]
      exact Nat.ne_of_gt above

/-- The last one is its end. -/
theorem Bounds.used_last (bounds : Bounds slots count low high)
    (any : (Occupied slots).Nonempty) :
    ∃ front, used slots count = front ++ [high] ∧ ∀ slot ∈ front, slot ≠ high := by
  obtain ⟨_, greatest⟩ := bounds.inUse any
  have sorted := used_sorted slots count
  have member := mem_used.mpr ⟨bounds.within high greatest.1, greatest.1⟩
  have nonempty : used slots count ≠ [] := List.ne_nil_of_mem member
  have there := (mem_used.mp (List.getLast_mem nonempty)).2
  have above : high ≤ (used slots count).getLastD 0 := le_getLastD sorted member
  rw [List.getLastD_eq_getLast?, List.getLast?_eq_some_getLast nonempty] at above
  have same : (used slots count).getLast nonempty = high :=
    Nat.le_antisymm (greatest.2 there) above
  have split := List.dropLast_append_getLast nonempty
  rw [same] at split
  refine ⟨(used slots count).dropLast, split.symm, fun slot earlier => ?_⟩
  rw [← split, List.pairwise_append] at sorted
  exact Nat.ne_of_lt (sorted.2.2 slot earlier high List.mem_cons_self)

section scan

variable {ε σ : Type}

/-- Run `body` on one item after the other. -/
def each (body : α → Program ε σ Unit) : List α → Program ε σ Unit
  | [] => pure ()
  | item :: rest => do
      body item
      each body rest

def visit (body : α → Program ε σ Unit) : Option α → Program ε σ Unit
  | none => pure ()
  | some item => body item

/-- A scan that looks up its end, and what the next slot holds, anew at each step. -/
def scan (table : σ → Nat → Option α) (high : σ → Nat) (body : α → Program ε σ Unit) (lost : ε) :
    Nat → Nat → Program ε σ Unit
  | 0, _ => .stop lost
  | fuel + 1, slot => do
      let state ← .read
      if slot ≤ high state then do
        visit body (table state slot)
        scan table high body lost fuel (slot + 1)
      else pure ()

variable {table : σ → Nat → Option α} {body : α → Program ε σ Unit} {lost : ε}

theorem Bounds.high_lt (bounds : Bounds slots count low high) (positive : 0 < count) :
    high < count := by
  by_cases any : (Occupied slots).Nonempty
  · exact bounds.within high (bounds.inUse any).2.1
  · rw [(bounds.unused (Set.not_nonempty_iff_eq_empty.mp any)).2]
    exact positive

theorem Bounds.free_above (bounds : Bounds slots count low high) (above : high < slot) :
    slots slot = none := by
  cases held : slots slot with
  | none => rfl
  | some item =>
      have occupied : slot ∈ Occupied slots := by
        change (slots slot).isSome = true
        rw [held, Option.isSome_some]
      have below := (bounds.inUse ⟨slot, occupied⟩).2.2 occupied
      omega

/-- The scan of the range comes to a slot in use once. -/
theorem Bounds.count_slots {item : α} (bounds : Bounds slots count low high)
    (held : slots slot = some item) : (List.range' low (high + 1 - low)).count slot = 1 := by
  apply List.count_eq_one_of_mem List.nodup_range'
  have occupied : slot ∈ Occupied slots := by
    change (slots slot).isSome = true
    rw [held, Option.isSome_some]
  obtain ⟨least, greatest⟩ := bounds.inUse ⟨slot, occupied⟩
  have above := least.2 occupied
  have below := greatest.2 occupied
  exact List.mem_range'_1.mpr ⟨above, by omega⟩

/-- The items from a slot on. -/
def itemsFrom (slots : Nat → Option α) (count slot : Nat) : List α :=
  (List.range' slot (count - slot)).filterMap slots

theorem itemsFrom_step (below : slot < count) :
    itemsFrom slots count slot = (slots slot).toList ++ itemsFrom slots count (slot + 1) := by
  unfold itemsFrom
  rw [show count - slot = count - (slot + 1) + 1 by omega, List.range'_succ, List.filterMap_cons]
  cases slots slot <;> rfl

theorem itemsFrom_congr {slots' : Nat → Option α}
    (same : ∀ other, slot ≤ other → slots' other = slots other) :
    itemsFrom slots' count slot = itemsFrom slots count slot := by
  apply List.filterMap_congr
  intro other member
  exact same other (List.mem_range'_1.mp member).1

theorem itemsFrom_eq_nil (none : ∀ other, slot ≤ other → slots other = none) :
    itemsFrom slots count slot = [] := by
  unfold itemsFrom
  rw [List.filterMap_eq_nil_iff]
  exact fun other member => none other (List.mem_range'_1.mp member).1

/-- A scan whose body leaves the slots ahead alone, and keeps the range, comes to every item. -/
theorem scan_eq_each {low high : σ → Nat} {Inv : Nat → σ → Prop} (positive : 0 < count)
    (bounds : ∀ slot state, Inv slot state → Bounds (table state) count (low state) (high state))
    (free : ∀ slot state, Inv slot state → table state slot = none → Inv (slot + 1) state)
    (step : ∀ slot state item, Inv slot state → table state slot = some item →
      Program.wp (body item) (fun _ after => Inv (slot + 1) after ∧
        ∀ other, slot < other → table after other = table state other) (fun _ _ => True) state)
    {fuel : Nat} {state : σ} (holds : Inv slot state) (within : slot ≤ count)
    (enough : count + 1 ≤ fuel + slot) :
    scan table high body lost fuel slot state =
      each body (itemsFrom (table state) count slot) state := by
  induction fuel generalizing slot state with
  | zero => omega
  | succ fuel ih =>
      have last := (bounds slot state holds).high_lt positive
      by_cases below : slot ≤ high state
      · have inside : slot < count := Nat.lt_of_le_of_lt below last
        have goesOn : scan table high body lost (fuel + 1) slot state =
            (visit body (table state slot) >>= fun _ =>
              scan table high body lost fuel (slot + 1)) state := by
          change (if slot ≤ high state then _ else _ : Program ε σ Unit) state = _
          rw [if_pos below]
        rw [goesOn, itemsFrom_step inside]
        cases held : table state slot with
        | none => exact ih (free slot state holds held) inside (by omega)
        | some item =>
            have left := step slot state item holds held
            change (body item >>= fun _ => scan table high body lost fuel (slot + 1)) state =
              (body item >>= fun _ => each body (itemsFrom (table state) count (slot + 1))) state
            unfold Program.wp at left
            simp only [bind]
            rcases ran : body item state with ⟨_ | _, after⟩
            · rfl
            · rw [ran] at left
              obtain ⟨holds', ahead⟩ := left
              rw [← itemsFrom_congr ahead]
              exact ih holds' inside (by omega)
      · have ended : scan table high body lost (fuel + 1) slot state =
            (pure () : Program ε σ Unit) state := by
          change (if slot ≤ high state then _ else _ : Program ε σ Unit) state = _
          rw [if_neg below]
        rw [ended, itemsFrom_eq_nil]
        · rfl
        · exact fun other above => (bounds slot state holds).free_above (by omega)

theorem itemsFrom_skip {first : Nat} (ordered : first ≤ slot)
    (free : ∀ other, other < slot → slots other = none) :
    itemsFrom slots count first = itemsFrom slots count slot := by
  induction slot, ordered using Nat.le_induction with
  | base => rfl
  | succ slot _ ih =>
      rw [ih fun other below => free other (Nat.lt_succ_of_lt below)]
      by_cases inside : slot < count
      · rw [itemsFrom_step inside, free slot (Nat.lt_succ_self slot)]
        rfl
      · unfold itemsFrom
        rw [show count - slot = 0 by omega, show count - (slot + 1) = 0 by omega]
        rfl

theorem Bounds.free_below (bounds : Bounds slots count low high) (below : slot < low) :
    slots slot = none := by
  cases held : slots slot with
  | none => rfl
  | some item =>
      have occupied : slot ∈ Occupied slots := by
        change (slots slot).isSome = true
        rw [held, Option.isSome_some]
      have above := (bounds.inUse ⟨slot, occupied⟩).1.2 occupied
      omega

/-- From the start of the range on, these are all items. -/
theorem Bounds.itemsFrom_low (bounds : Bounds slots count low high) :
    itemsFrom slots count low = itemsFrom slots count 0 :=
  (itemsFrom_skip (Nat.zero_le low) fun _ below => bounds.free_below below).symm

/-- `body` comes to one item after the other, to each in a state that is good for it, and ends as
`done` says, unless it stops on the way. -/
def Meets (body : α → Program ε σ Unit) (good : α → σ → Prop) (done : σ → Prop) :
    List α → σ → Prop
  | [], state => done state
  | item :: rest, state => good item state ∧
      Program.wp (body item) (fun _ => Meets body good done rest) (fun _ _ => True) state

theorem Meets.each {good : α → σ → Prop} {done : σ → Prop} {items : List α} {state : σ}
    (meets : Meets body good done items state) :
    Program.wp (each body items) (fun _ => done) (fun _ _ => True) state := by
  induction items generalizing state with
  | nil => exact meets
  | cons item rest ih =>
      unfold Occupancy.each
      rw [Program.wp_bind]
      exact Program.wp_mono meets.2 (fun _ _ => ih) fun _ _ => id

theorem Meets.mono {good : α → σ → Prop} {done done' : σ → Prop} {items : List α} {state : σ}
    (meets : Meets body good done items state) (stronger : ∀ state, done state → done' state) :
    Meets body good done' items state := by
  induction items generalizing state with
  | nil => exact stronger state meets
  | cons item rest ih => exact ⟨meets.1, Program.wp_mono meets.2 (fun _ _ => ih) fun _ _ => id⟩

/-- It comes to the items of the table so, if each leaves the slots ahead alone. -/
theorem meets_items {Inv : Nat → σ → Prop} {good : α → σ → Prop}
    (free : ∀ slot state, Inv slot state → table state slot = none → Inv (slot + 1) state)
    (step : ∀ slot state item, Inv slot state → table state slot = some item →
      good item state ∧
      Program.wp (body item) (fun _ after => Inv (slot + 1) after ∧
        ∀ other, slot < other → table after other = table state other) (fun _ _ => True) state)
    {state : σ} (holds : Inv slot state) (within : slot ≤ count) :
    Meets body good (Inv count) (itemsFrom (table state) count slot) state := by
  induction within using Nat.decreasingInduction generalizing state with
  | self =>
      unfold itemsFrom
      rw [Nat.sub_self]
      exact holds
  | of_succ slot below ih =>
      rw [itemsFrom_step below]
      cases held : table state slot with
      | none => exact ih (free slot state holds held)
      | some item =>
          obtain ⟨fine, left⟩ := step slot state item holds held
          refine ⟨fine, ?_⟩
          apply Program.wp_mono left _ fun _ _ => id
          intro _ after next
          rw [← itemsFrom_congr next.2]
          exact ih next.1

end scan

end Occupancy
