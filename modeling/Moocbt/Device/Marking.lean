import Moocbt.Cow.Steady
import Moocbt.Device.Incremental

/-! Marking the blocks of a sector set, against the map of the index. -/

namespace Moocbt.Device

open Cow Program

variable {elements pos : Nat} {state : CowState} {map : Nat → Nat}

theorem incMarkBlocks_steady (count block : Nat) : Steady (incMarkBlocks count block) := by
  induction count generalizing block with
  | zero => exact .pure ()
  | succ count ih => exact .bind (.cowWriteMapping block 1) fun _ => ih (block + 1)

theorem fillerMapping_spec (live : Live elements state) (agrees : Agrees map state) :
    wp (cowWriteFillerMapping pos)
      (fun _ after => Covered elements pos ∧ Tended elements state after ∧
        Agrees (Function.update map pos 1) after)
      (fun _ after => Abandoned state (Covered elements pos) after) state := by
  rcases access_cases state pos with ⟨sects, found, inside⟩ | invalid
  · have covered := (inRange_iff_covered live).mp inside
    refine wp_mono (cowWriteMapping_spec 1 live.inv found inside) ?_ ?_
    · intro _ after assigned
      exact ⟨covered, .of_traffic live assigned.traffic assigned.inv, agrees.of_assigned assigned⟩
    · intro reason after stop
      obtain ⟨changed, traffic⟩ := stop.traffic
      exact ⟨.of_traffic traffic, fun ready none => absurd none (stop.excuse.failure ready)⟩
  · have outside : ¬ Covered elements pos := by
      intro covered
      rcases invalid with gone | outside
      · have array := live.array
        rw [gone] at array
        contradiction
      · exact outside ((inRange_iff_covered live).mpr covered)
    unfold cowWriteFillerMapping cowWriteMapping
    rw [wp_bind, wp_getCm, wp_bind, wp_sectAt_invalid invalid]
    exact ⟨.of_same rfl, fun _ _ => outside⟩

/-- The map after the blocks of a range were marked. -/
def mark (map : Nat → Nat) (blocks : List Nat) : Nat → Nat :=
  fun block => if block ∈ blocks then 1 else map block

theorem mark_nil (map : Nat → Nat) : mark map [] = map := by
  funext block
  simp [mark]

theorem mark_cons (map : Nat → Nat) (block : Nat) (blocks : List Nat) :
    mark map (block :: blocks) = mark (Function.update map block 1) blocks := by
  funext other
  unfold mark
  by_cases later : other ∈ blocks
  · simp [later]
  · by_cases same : other = block
    · subst same
      simp
    · simp [later, same]

theorem mark_ne_zero {blocks : List Nat} {block : Nat} :
    mark map blocks block ≠ 0 ↔ block ∈ blocks ∨ map block ≠ 0 := by
  unfold mark
  split <;> simp_all

theorem incMarkBlocks_spec {count block : Nat} (live : Live elements state)
    (agrees : Agrees map state) :
    wp (incMarkBlocks count block)
      (fun _ after => (∀ pos ∈ List.range' block count, Covered elements pos) ∧
        Tended elements state after ∧ Agrees (mark map (List.range' block count)) after)
      (fun _ after =>
        Abandoned state (∀ pos ∈ List.range' block count, Covered elements pos) after)
      state := by
  induction count generalizing block state map with
  | zero => exact ⟨by simp, .refl live, by rw [List.range'_zero, mark_nil]; exact agrees⟩
  | succ count ih =>
      have first : ∀ {pos}, pos ∈ List.range' block (count + 1) ↔
          pos = block ∨ pos ∈ List.range' (block + 1) count := by
        intro pos
        rw [List.range'_succ, List.mem_cons]
      unfold incMarkBlocks
      rw [wp_bind]
      refine wp_mono (fillerMapping_spec live agrees) ?_ ?_
      · intro _ middle marked
        obtain ⟨covered, tended, agrees'⟩ := marked
        refine wp_mono (ih tended.live agrees') ?_ ?_
        · intro _ after rest
          obtain ⟨inside, tended', agrees''⟩ := rest
          refine ⟨?_, tended.trans live tended', ?_⟩
          · intro pos member
            rcases first.mp member with same | later
            · rw [same]
              exact covered
            · exact inside pos later
          · rw [List.range'_succ, mark_cons]
            exact agrees''
        · intro _ after abandoned
          exact abandoned.later live tended fun inside pos member =>
            inside pos (first.mpr (.inr member))
      · intro _ after abandoned
        exact abandoned.weaken fun _ _ inside => inside block (first.mpr (.inl rfl))

theorem incHandleSset_spec {sset : SectorSet} (live : Live elements state)
    (agrees : Agrees map state) :
    wp (incHandleSset sset)
      (fun _ after => (∀ block ∈ sset.blocks, Covered elements block) ∧
        Tended elements state after ∧ Agrees (mark map sset.blocks) after)
      (fun _ after => Abandoned state (∀ block ∈ sset.blocks, Covered elements block) after)
      state := incMarkBlocks_spec live agrees

end Moocbt.Device
