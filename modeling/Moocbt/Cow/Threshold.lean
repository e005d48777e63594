import Moocbt.Cow.Eviction
import Moocbt.Logic.Transition

/-! The search for the usage threshold on machine words: `unsigned long` counters, sums and
differences modulo 2^64. -/

namespace Moocbt.Cow

open Program Transition

variable {usage : Nat → BitVec 64} {total count : Nat}

/-- `thresh` after the first loop of `__cow_cleanup_mappings`. -/
def mostUsed (usage : Nat → BitVec 64) : Nat → BitVec 64
  | 0 => 0
  | i + 1 => if usage i > mostUsed usage i then usage i else mostUsed usage i

/-- `less` and `greater` after the counting loop. -/
structure UsageCounts where
  less : BitVec 64
  greater : BitVec 64
deriving DecidableEq

def countUsages (usage : Nat → BitVec 64) (thresh : BitVec 64) : Nat → UsageCounts
  | 0 => ⟨0, 0⟩
  | i + 1 =>
      let counts := countUsages usage thresh i
      if usage i ≤ thresh then { counts with less := counts.less + 1 }
      else { counts with greater := counts.greater + 1 }

/-- What a turn of the search begins with. -/
structure Bisection where
  granularity : BitVec 64
  thresh : BitVec 64
deriving DecidableEq

/-- A turn of the search, `none` where the loop ends or is left. -/
def Bisection.turn (usage : Nat → BitVec 64) (total : BitVec 64) (search : Bisection)
    (_ : Unit) : Option Bisection :=
  if search.granularity > 0 then
    let granularity := search.granularity >>> 1
    let counts := countUsages usage search.thresh total.toNat
    if counts.greater > counts.less then some ⟨granularity, search.thresh + granularity⟩
    else if counts.greater < counts.less then some ⟨granularity, search.thresh - granularity⟩
    else none
  else none

def Bisection.start (usage : Nat → BitVec 64) (total : BitVec 64) : Bisection :=
  let thresh := mostUsed usage total.toNat / 2
  ⟨thresh, thresh⟩

/-- The operations of the turn that begins here have their mathematical results. -/
structure Bisection.Exact (usage : Nat → BitVec 64) (total : BitVec 64) (search : Bisection) :
    Prop where
  sum : (search.thresh + search.granularity >>> 1).toNat =
    search.thresh.toNat + search.granularity.toNat / 2
  difference : (search.thresh - search.granularity >>> 1).toNat + search.granularity.toNat / 2 =
    search.thresh.toNat
  less : (countUsages usage search.thresh total.toNat).less.toNat =
    ((List.range total.toNat).filter fun idx => usage idx ≤ search.thresh).length
  greater : (countUsages usage search.thresh total.toNat).greater.toNat =
    ((List.range total.toNat).filter fun idx => search.thresh < usage idx).length

/-- The sections with these counters, as the model of the manager has them. -/
def CowSection.Counts (usage : Nat → BitVec 64) (total : Nat) (sects : Nat → CowSection) :
    Prop :=
  ∀ idx < total, (sects idx).usage = (usage idx).toNat

variable {sects : Nat → CowSection}

theorem CowSection.Counts.earlier (counts : CowSection.Counts usage (total + 1) sects) :
    CowSection.Counts usage total sects :=
  fun idx below => counts idx (by omega)

theorem mostUsed_toNat (counts : CowSection.Counts usage total sects) :
    (mostUsed usage total).toNat = maxUsage sects total := by
  induction total with
  | zero => rfl
  | succ total ih =>
      have before := ih counts.earlier
      have here := counts total (Nat.lt_succ_self total)
      simp only [mostUsed, maxUsage, GT.gt, BitVec.lt_def, before, here]
      split
      · rfl
      · exact before

theorem counter_succ {counter : BitVec 64} (room : counter.toNat + 1 < 2 ^ 64) :
    (counter + 1).toNat = counter.toNat + 1 := by
  have one : (1 : BitVec 64).toNat = 1 := rfl
  rw [BitVec.toNat_add, one, Nat.mod_eq_of_lt room]

theorem countUsages_bounded (usage : Nat → BitVec 64) (thresh : BitVec 64)
    (bounded : count < 2 ^ 64) :
    (countUsages usage thresh count).less.toNat +
      (countUsages usage thresh count).greater.toNat = count := by
  induction count with
  | zero => rfl
  | succ count ih =>
      have before := ih (by omega)
      simp only [countUsages]
      split
      · have room : (countUsages usage thresh count).less.toNat + 1 < 2 ^ 64 := by omega
        simp only [counter_succ room]
        omega
      · have room : (countUsages usage thresh count).greater.toNat + 1 < 2 ^ 64 := by omega
        simp only [counter_succ room]
        omega

theorem countUsages_less (usage : Nat → BitVec 64) (thresh : BitVec 64)
    (bounded : count < 2 ^ 64) :
    (countUsages usage thresh count).less.toNat =
      ((List.range count).filter fun idx => usage idx ≤ thresh).length := by
  induction count with
  | zero => rfl
  | succ count ih =>
      have before := ih (by omega)
      have smaller : count < 2 ^ 64 := by omega
      have few := countUsages_bounded usage thresh smaller
      rw [List.range_succ, List.filter_append, List.length_append, ← before]
      simp only [countUsages]
      split
      · rename_i low
        rw [counter_succ (by omega)]
        simp [low]
      · rename_i high
        simp [high]

theorem countUsages_greater (usage : Nat → BitVec 64) (thresh : BitVec 64)
    (bounded : count < 2 ^ 64) :
    (countUsages usage thresh count).greater.toNat =
      ((List.range count).filter fun idx => thresh < usage idx).length := by
  induction count with
  | zero => rfl
  | succ count ih =>
      have before := ih (by omega)
      have smaller : count < 2 ^ 64 := by omega
      have few := countUsages_bounded usage thresh smaller
      rw [List.range_succ, List.filter_append, List.length_append, ← before]
      simp only [countUsages]
      split
      · rename_i low
        have not_high : ¬ thresh < usage count := by
          rw [BitVec.lt_def, Nat.not_lt]
          exact low
        simp [not_high]
      · rename_i high
        have above : thresh < usage count := by
          rw [BitVec.lt_def, ← Nat.not_le]
          exact high
        rw [counter_succ (by omega)]
        simp [above]

theorem countUsages_toNat (thresh : BitVec 64) (bounded : total < 2 ^ 64)
    (counts : CowSection.Counts usage total sects) :
    (countUsages usage thresh total).less.toNat = countAtMost sects thresh.toNat total := by
  induction total with
  | zero => rfl
  | succ total ih =>
      have before := ih (by omega) counts.earlier
      have smaller : total < 2 ^ 64 := by omega
      have few := countUsages_bounded usage thresh smaller
      have here := counts total (Nat.lt_succ_self total)
      simp only [countUsages, countAtMost, BitVec.le_def, here]
      split
      · rw [counter_succ (by omega), before]
      · exact before

/-- What holds of the search whenever a turn begins: the threshold keeps its distance from
zero and from the highest usage `most`. -/
structure Bisection.Between (most : Nat) (search : Bisection) : Prop where
  above : search.granularity.toNat ≤ search.thresh.toNat
  below : search.thresh.toNat + search.granularity.toNat ≤ most
  inside : 2 ≤ most → 1 ≤ search.thresh.toNat ∧ search.thresh.toNat < most
  least : most < 2 → search.thresh.toNat = 0

variable {most : Nat} {search next : Bisection} {words : BitVec 64}

theorem Bisection.start_between (usage : Nat → BitVec 64) (words : BitVec 64) :
    (start usage words).Between (mostUsed usage words.toNat).toNat := by
  have half : (mostUsed usage words.toNat / 2).toNat = (mostUsed usage words.toNat).toNat / 2 :=
    BitVec.toNat_udiv
  simp only [start]
  constructor
  · exact Nat.le_refl _
  · rw [half]
    omega
  · intro high
    rw [half]
    omega
  · intro low
    rw [half]
    omega

theorem Bisection.granularity_half (search : Bisection) :
    (search.granularity >>> 1).toNat = search.granularity.toNat / 2 := by
  rw [BitVec.toNat_ushiftRight, Nat.shiftRight_eq_div_pow, Nat.pow_one]

theorem Bisection.Between.sum (between : search.Between most) (word : most < 2 ^ 64) :
    (search.thresh + search.granularity >>> 1).toNat =
      search.thresh.toNat + search.granularity.toNat / 2 := by
  have below := between.below
  rw [BitVec.toNat_add, search.granularity_half, Nat.mod_eq_of_lt (by omega)]

theorem Bisection.Between.difference (between : search.Between most) :
    (search.thresh - search.granularity >>> 1).toNat + search.granularity.toNat / 2 =
      search.thresh.toNat := by
  have above := between.above
  have smaller : search.granularity >>> 1 ≤ search.thresh := by
    rw [BitVec.le_def, search.granularity_half]
    omega
  rw [BitVec.toNat_sub_of_le smaller, search.granularity_half]
  omega

theorem Bisection.Between.exact (between : search.Between most) (word : most < 2 ^ 64) :
    search.Exact usage words :=
  ⟨between.sum word, between.difference, countUsages_less usage search.thresh words.isLt,
    countUsages_greater usage search.thresh words.isLt⟩

/-- What a turn that does not end the search can do. -/
theorem Bisection.turned (taken : search.turn usage words () = some next) :
    0 < search.granularity.toNat ∧
      (next = ⟨search.granularity >>> 1, search.thresh + search.granularity >>> 1⟩ ∨
        next = ⟨search.granularity >>> 1, search.thresh - search.granularity >>> 1⟩) := by
  simp only [turn] at taken
  split at taken
  · rename_i positive
    refine ⟨positive, ?_⟩
    split at taken
    · cases taken
      exact .inl rfl
    · split at taken
      · cases taken
        exact .inr rfl
      · contradiction
  · contradiction

theorem Bisection.Between.kept (between : search.Between most) (word : most < 2 ^ 64)
    (taken : search.turn usage words () = some next) : next.Between most := by
  obtain ⟨positive, moved⟩ := turned taken
  have above := between.above
  have below := between.below
  have inside := between.inside
  have least := between.least
  have half := search.granularity_half
  cases moved with
  | inl up =>
      subst up
      have sum := between.sum word
      constructor <;> simp only [half, sum] <;> omega
  | inr down =>
      subst down
      have difference := between.difference
      constructor <;> simp only [half] <;> omega

theorem Bisection.Between.reached
    (reached : Reachable (turn usage words) (start usage words) search) :
    search.Between (mostUsed usage words.toNat).toNat := by
  have word : (mostUsed usage words.toNat).toNat < 2 ^ 64 := (mostUsed usage words.toNat).isLt
  induction reached with
  | refl => exact start_between usage words
  | next _ _ taken between => exact between.kept word taken

/-- The search comes to an end, and on the threshold the model of the manager computes. -/
theorem Bisection.settles (counts : CowSection.Counts usage words.toNat sects) {rounds : Nat}
    (between : search.Between most) (word : most < 2 ^ 64)
    (enough : search.granularity.toNat ≤ rounds) :
    ∃ last, Reachable (turn usage words) search last ∧ last.turn usage words () = none ∧
      last.thresh.toNat =
        medianUsage sects words.toNat rounds search.granularity.toNat search.thresh.toNat := by
  induction rounds generalizing search with
  | zero =>
      have fine : ¬ search.granularity > 0 := fun positive => by
        have above : 0 < search.granularity.toNat := positive
        omega
      exact ⟨search, .refl, by simp only [turn, if_neg fine], rfl⟩
  | succ rounds ih =>
      have less := countUsages_toNat search.thresh words.isLt counts
      have all := countUsages_bounded usage search.thresh words.isLt
      have greater : (countUsages usage search.thresh words.toNat).greater.toNat =
          words.toNat - countAtMost sects search.thresh.toNat words.toNat := by omega
      have half := search.granularity_half
      have next_settles {next : Bisection} (taken : search.turn usage words () = some next)
          (narrower : next.granularity.toNat = search.granularity.toNat / 2) :
          ∃ last, Reachable (turn usage words) search last ∧ last.turn usage words () = none ∧
            last.thresh.toNat = medianUsage sects words.toNat rounds
              next.granularity.toNat next.thresh.toNat := by
        have positive := (turned taken).1
        obtain ⟨last, reached, ended, settled⟩ := ih (between.kept word taken) (by omega)
        exact ⟨last, (Reaches.next .refl trivial taken).trans reached, ended, settled⟩
      by_cases positive : search.granularity > 0
      · have positive' : search.granularity.toNat > 0 := positive
        by_cases more : (countUsages usage search.thresh words.toNat).greater >
            (countUsages usage search.thresh words.toNat).less
        · have more' : words.toNat - countAtMost sects search.thresh.toNat words.toNat >
              countAtMost sects search.thresh.toNat words.toNat := by
            rw [← greater, ← less]
            exact more
          have taken : search.turn usage words () =
              some ⟨search.granularity >>> 1, search.thresh + search.granularity >>> 1⟩ := by
            simp only [turn, if_pos positive, if_pos more]
          have settled := next_settles taken half
          simp only [half, between.sum word] at settled
          simpa only [medianUsage, if_pos positive', if_pos more'] using settled
        · have more' : ¬ words.toNat - countAtMost sects search.thresh.toNat words.toNat >
              countAtMost sects search.thresh.toNat words.toNat := by
            rw [← greater, ← less]
            exact more
          by_cases fewer : (countUsages usage search.thresh words.toNat).greater <
              (countUsages usage search.thresh words.toNat).less
          · have fewer' : words.toNat - countAtMost sects search.thresh.toNat words.toNat <
                countAtMost sects search.thresh.toNat words.toNat := by
              rw [← greater, ← less]
              exact fewer
            have taken : search.turn usage words () =
                some ⟨search.granularity >>> 1, search.thresh - search.granularity >>> 1⟩ := by
              simp only [turn, if_pos positive, if_neg more, if_pos fewer]
            have settled := next_settles taken half
            have lower : (search.thresh - search.granularity >>> 1).toNat =
                search.thresh.toNat - search.granularity.toNat / 2 := by
              have difference := between.difference
              omega
            simp only [half, lower] at settled
            simpa only [medianUsage, if_pos positive', if_neg more', if_pos fewer'] using settled
          · have fewer' : ¬ words.toNat - countAtMost sects search.thresh.toNat words.toNat <
                countAtMost sects search.thresh.toNat words.toNat := by
              rw [← greater, ← less]
              exact fewer
            refine ⟨search, .refl, ?_, ?_⟩
            · simp only [turn, if_pos positive, if_neg more, if_neg fewer]
            · simp only [medianUsage, if_pos positive', if_neg more', if_neg fewer']
      · have positive' : ¬ search.granularity.toNat > 0 := positive
        refine ⟨search, .refl, ?_, ?_⟩
        · simp only [turn, if_neg positive]
        · simp only [medianUsage, if_neg positive']

/-- Sections that have nothing but these counters. -/
def countedSections (usage : Nat → BitVec 64) (idx : Nat) : CowSection :=
  ⟨false, (usage idx).toNat, none⟩

theorem countedSections_counts (usage : Nat → BitVec 64) (total : Nat) :
    CowSection.Counts usage total (countedSections usage) :=
  fun _ _ => rfl

theorem CowSection.Counts.countAtMost_eq {other : Nat → CowSection} (thresh : Nat)
    (counts : CowSection.Counts usage total sects)
    (counts' : CowSection.Counts usage total other) :
    countAtMost sects thresh total = countAtMost other thresh total := by
  induction total with
  | zero => rfl
  | succ total ih =>
      have here := counts total (Nat.lt_succ_self total)
      have here' := counts' total (Nat.lt_succ_self total)
      simp only [countAtMost, here, here', ih counts.earlier counts'.earlier]

theorem CowSection.Counts.medianUsage_eq {other : Nat → CowSection}
    (rounds granularity thresh : Nat) (counts : CowSection.Counts usage total sects)
    (counts' : CowSection.Counts usage total other) :
    medianUsage sects total rounds granularity thresh =
      medianUsage other total rounds granularity thresh := by
  induction rounds generalizing granularity thresh with
  | zero => rfl
  | succ rounds ih => simp only [medianUsage, ih, counts.countAtMost_eq thresh counts']

theorem CowSection.Counts.usageCutoff_eq {other : Nat → CowSection}
    (counts : CowSection.Counts usage total sects)
    (counts' : CowSection.Counts usage total other) :
    usageCutoff sects total = usageCutoff other total := by
  have most : maxUsage sects total = maxUsage other total := by
    rw [← mostUsed_toNat counts, mostUsed_toNat counts']
  simp only [usageCutoff, most]
  exact counts.medianUsage_eq _ _ _ counts'

/-- The highest counter is the highest usage. -/
theorem mostUsed_greatest {highest : BitVec 64}
    (greatest : IsGreatest {used | ∃ idx < total, usage idx = used} highest) :
    (mostUsed usage total).toNat = highest.toNat := by
  have counts := countedSections_counts usage total
  obtain ⟨member, upper⟩ := greatest
  obtain ⟨idx, below, same⟩ := member
  rw [mostUsed_toNat counts]
  apply Nat.le_antisymm
  · refine maxUsage_le_iff.mpr fun other inside => ?_
    exact upper ⟨other, inside, rfl⟩
  · have high := maxUsage_le_iff.mp (Nat.le_refl (maxUsage (countedSections usage) total))
    rw [← same]
    exact high idx below

/-- The search for the threshold ends without a wrapped word on the way, strictly between zero
and the highest usage where a section was used twice, and the sections are freed by what it
found. -/
theorem threshold_search_in_range (usage : Nat → BitVec 64) (totalSects : BitVec 64) :
    ∃ last : Bisection,
      Reachable (Bisection.turn usage totalSects) (.start usage totalSects) last ∧
      last.turn usage totalSects () = none ∧
      (∀ search, Reachable (Bisection.turn usage totalSects) (.start usage totalSects) search →
        search.Exact usage totalSects) ∧
      (∀ highest, IsGreatest {used | ∃ idx < totalSects.toNat, usage idx = used} highest →
        2 ≤ highest → 1 ≤ last.thresh ∧ last.thresh < highest) ∧
      (last.thresh = 0 ↔ ∀ idx < totalSects.toNat, usage idx ≤ 1) ∧
      ∀ state sects, state.cm.sects = some sects → state.cm.totalSects = totalSects.toNat →
        CowSection.Counts usage totalSects.toNat sects →
        cowCleanupMappings state = cowSyncAndFreeSections last.thresh.toNat state := by
  have counts := countedSections_counts usage totalSects.toNat
  have word : (mostUsed usage totalSects.toNat).toNat < 2 ^ 64 :=
    (mostUsed usage totalSects.toNat).isLt
  have start := Bisection.start_between usage totalSects
  obtain ⟨last, reached, ended, settled⟩ := Bisection.settles counts start word (Nat.le_refl _)
  have between := Bisection.Between.reached reached
  have half : (mostUsed usage totalSects.toNat / 2).toNat =
      maxUsage (countedSections usage) totalSects.toNat / 2 := by
    rw [← mostUsed_toNat counts]
    exact BitVec.toNat_udiv
  have cutoff : last.thresh.toNat = usageCutoff (countedSections usage) totalSects.toNat := by
    simp only [Bisection.start, half] at settled
    exact settled
  refine ⟨last, reached, ended, ?_, ?_, ?_, ?_⟩
  · intro search turned
    exact (Bisection.Between.reached turned).exact word
  · intro highest greatest twice
    have same := mostUsed_greatest greatest
    have twice' : 2 ≤ (mostUsed usage totalSects.toNat).toNat := by
      rw [same]
      exact twice
    obtain ⟨positive, smaller⟩ := between.inside twice'
    exact ⟨positive, by rw [BitVec.lt_def, ← same]; exact smaller⟩
  · rw [BitVec.toNat_eq, cutoff]
    exact usageCutoff_eq_zero_iff
  · intro state sects found total counts'
    have cleans : cowCleanupMappings state =
        cowSyncAndFreeSections (usageCutoff sects state.cm.totalSects) state := by
      simp only [cowCleanupMappings, getCm, bind, Program.read, pure, found, usageCutoff]
    rw [cleans, total, cutoff, counts.usageCutoff_eq counts']

end Moocbt.Cow
