import Moocbt.Device.Site
import Moocbt.Device.Teardown

/-! The read clones of a traced write: which blocks they cover, and where each of them is. -/

namespace Moocbt.Device

open Cow Program WriteOnce

theorem fillVecs_blocks (data : Nat → Nat) (block sector count len : Nat) :
    (vecCaptures block (fillVecs data sector (List.replicate count len))).map Prod.fst =
      List.range' block (count * (len / cowBlockSize)) := by
  induction count generalizing block sector with
  | zero => simp [fillVecs, vecCaptures]
  | succ count ih =>
      have first : ((List.range' block (len / cowBlockSize)).map fun block =>
          (block, fun word => data (sector * sectorWords + word))).map Prod.fst =
            List.range' block (len / cowBlockSize) := by
        rw [List.map_map]
        exact List.map_id _
      simp only [List.replicate_succ, fillVecs, vecCaptures, List.map_append, first, ih]
      rw [List.range'_append_1, Nat.succ_mul, Nat.add_comm]

/-- The blocks a clone captures, whatever it reads. -/
theorem fill_blocks (data : Nat → Nat) (sector count : Nat) :
    (ReadBio.fill ⟨sector, List.replicate count pageSize⟩ data).blocks =
      List.range' (sector / sectorsPerBlock) count := by
  have one : count * (pageSize / cowBlockSize) = count := Nat.mul_one count
  have blocks := fillVecs_blocks data (sector / sectorsPerBlock) sector count pageSize
  rw [one] at blocks
  exact blocks

/-- The blocks of a write, from the start of the device. -/
def Life.blocks (life : Life) (sectOff : Nat) : List Nat :=
  List.range' ((life.range sectOff).1 / sectorsPerBlock) (life.range sectOff).2

/-- The first blocks of a range have clones that were submitted. -/
def Sent (sent : List ReadBio) (first count : Nat) : Prop :=
  ∀ block, first ≤ block → block < first + count →
    ∃ clone ∈ sent, ∀ data, block ∈ (clone.fill data).blocks

/-- How far a write is covered by clones, unless an allocation failed. -/
def Life.Covers (sectOff : Nat) (life : Life) : Prop :=
  let first := (life.range sectOff).1 / sectorsPerBlock
  let total := (life.range sectOff).2
  match life.pc with
  | .makeClone sector pages =>
      ∃ count, sector = (first + count) * sectorsPerBlock ∧ count + pages = total ∧
        Sent life.sent first count
  | .addClone clone sector pages | .count clone sector pages | .submit clone sector pages =>
      ∃ count fits, clone = ⟨(first + count) * sectorsPerBlock, List.replicate fits pageSize⟩ ∧
        sector = (first + count + fits) * sectorsPerBlock ∧ count + fits + pages = total ∧
        Sent life.sent first count
  | .drop | .returned true => Sent life.sent first total
  | .freeClone | .abandon => False
  | _ => True

variable {wiring : Wiring} {life : Life} {turn : Turn} {sectOff id : Nat}

theorem Sent.append {sent : List ReadBio} {first count fits : Nat} (before : Sent sent first count) :
    Sent (sent ++ [⟨(first + count) * sectorsPerBlock, List.replicate fits pageSize⟩]) first
      (count + fits) := by
  intro block lower upper
  by_cases early : block < first + count
  · obtain ⟨clone, member, inside⟩ := before block lower early
    exact ⟨clone, List.mem_append_left _ member, inside⟩
  · refine ⟨_, List.mem_append_right _ (List.mem_singleton_self _), fun data => ?_⟩
    rw [fill_blocks, List.mem_range'_1]
    have exact : (first + count) * sectorsPerBlock / sectorsPerBlock = first + count := by
      unfold sectorsPerBlock
      omega
    omega

/-- A step of the tracing function covers more, or tells of a failure. -/
theorem Life.Covers.trace {failing : Bool} {fits : Nat} (covers : life.Covers wiring.sectOff)
    (taken : life.trace wiring failing fits = some turn)
    (sound : ∀ error, turn.told ≠ some (.fail error)) : turn.life.Covers wiring.sectOff := by
  unfold Life.Covers at covers
  cases Life.traced taken with
  | marked => trivial
  | passed => trivial
  | checked => trivial
  | unallocated => exact absurd rfl (sound _)
  | lost => exact absurd rfl (sound _)
  | unmade => exact absurd rfl (sound _)
  | unadded => exact absurd rfl (sound _)
  | allocated =>
      refine ⟨0, ?_, Nat.zero_add _, fun block lower upper => by omega⟩
      unfold Life.range sectorsPerBlock
      dsimp only
      omega
  | made here =>
      rw [here] at covers
      obtain ⟨count, start, total, sent⟩ := covers
      refine ⟨count, fits, by rw [start]; rfl, ?_, ?_, sent⟩
      · rw [start, ← Nat.add_mul]
        rfl
      · change count + fits + (_ - fits) = (life.range wiring.sectOff).2
        omega
  | added here =>
      rw [here] at covers
      exact covers
  | counted here =>
      rw [here] at covers
      exact covers
  | @sends clone sector pages here =>
      rw [here] at covers
      obtain ⟨count, fits, same, start, total, sent⟩ := covers
      subst same
      have more := @Sent.append _ _ _ fits sent
      by_cases rest : 0 < pages
      · simp only [rest, if_true]
        refine ⟨count + fits, ?_, total, more⟩
        rw [start, Nat.add_assoc]
        rfl
      · simp only [rest, if_false]
        have all : (life.range wiring.sectOff).2 = count + fits := by omega
        change Sent _ _ (life.range wiring.sectOff).2
        rw [all]
        exact more
  | dropped here =>
      rw [here] at covers
      exact covers
  | freed here =>
      rw [here] at covers
      contradiction
  | abandoned here =>
      rw [here] at covers
      contradiction

/-- A completion handler that has not passed its clone on. -/
def HandlerPc.Carries (clone : ReadBio) : HandlerPc → Prop
  | .queue bio => ∃ data, bio = clone.fill data
  | .fail _ => True
  | .count | .put => False

/-- A clone of the write that was submitted is at the base device, in the hands of its
completion handler, or was passed on. -/
def Life.Accounted (passed : WriteBio → Prop) (life : Life) : Prop :=
  ∀ clone ∈ life.sent, clone ∈ life.flight ∨
    (∃ handler ∈ life.handlers, handler.Carries clone) ∨ ∃ data, passed (clone.fill data)

/-- A completion handler that has not passed its clone on, with data that was read. -/
def HandlerPc.Brings (seen : (Nat → Nat) → Prop) (clone : ReadBio) : HandlerPc → Prop
  | .queue bio => ∃ data, seen data ∧ bio = clone.fill data
  | .fail _ => True
  | .count | .put => False

/-- As `Life.Accounted`, with what the clones read. -/
def Life.Brings (seen : (Nat → Nat) → Prop) (passed : WriteBio → Prop) (life : Life) : Prop :=
  ∀ clone ∈ life.sent, clone ∈ life.flight ∨
    (∃ handler ∈ life.handlers, handler.Brings seen clone) ∨
    ∃ data, seen data ∧ passed (clone.fill data)

section brings

variable {seen seen' : (Nat → Nat) → Prop} {passed passed' : WriteBio → Prop} {index fits : Nat}
  {failing : Bool}

theorem HandlerPc.Brings.weaken {clone : ReadBio} {handler : HandlerPc}
    (brings : handler.Brings seen clone) (more : ∀ data, seen data → seen' data) :
    handler.Brings seen' clone := by
  cases handler with
  | queue bio =>
      obtain ⟨data, read, same⟩ := brings
      exact ⟨data, more data read, same⟩
  | fail error => trivial
  | count => exact brings
  | put => exact brings

theorem Life.Brings.weaken (brings : life.Brings seen passed)
    (more : ∀ data, seen data → seen' data) (kept : ∀ bio, passed bio → passed' bio) :
    life.Brings seen' passed' := by
  intro clone member
  rcases brings clone member with flies | ⟨handler, inside, carried⟩ | ⟨data, read, done⟩
  · exact .inl flies
  · exact .inr (.inl ⟨handler, inside, carried.weaken more⟩)
  · exact .inr (.inr ⟨data, more data read, kept _ done⟩)

/-- Turns that leave the clones of the write alone. -/
theorem Life.Brings.of_same {next : Life} (brings : life.Brings seen passed)
    (flight : next.flight = life.flight) (handlers : next.handlers = life.handlers)
    (sent : next.sent = life.sent) : next.Brings seen passed := by
  intro clone member
  rw [sent] at member
  rw [flight, handlers]
  exact brings clone member

theorem Life.Brings.trace (brings : life.Brings seen passed)
    (taken : life.trace wiring failing fits = some turn) : turn.life.Brings seen passed := by
  cases Life.traced taken with
  | sends =>
      intro other member
      rcases List.mem_append.mp member with before | last
      · rcases brings other before with flies | rest
        · exact .inl (List.mem_append_left _ flies)
        · exact .inr rest
      · exact .inl (List.mem_append_right _ last)
  | _ => exact brings.of_same rfl rfl rfl

theorem mem_eraseIdx_or {α : Type} {items : List α} {index : Nat} {chosen item : α}
    (found : items[index]? = some chosen) (member : item ∈ items) :
    item = chosen ∨ item ∈ items.eraseIdx index := by
  induction items generalizing index with
  | nil => contradiction
  | cons first rest ih =>
      cases index with
      | zero =>
          cases found
          exact List.mem_cons.mp member
      | succ index =>
          rcases List.mem_cons.mp member with same | later
          · exact .inr (List.mem_cons.mpr (.inl same))
          · rcases ih (by simpa using found) later with same | left
            · exact .inl same
            · exact .inr (List.mem_cons_of_mem _ left)

theorem mem_set_or {α : Type} {items : List α} {index : Nat} {chosen item : α} (new : α)
    (found : items[index]? = some chosen) (member : item ∈ items) :
    item = chosen ∨ item ∈ items.set index new := by
  induction items generalizing index with
  | nil => contradiction
  | cons first rest ih =>
      cases index with
      | zero =>
          cases found
          rcases List.mem_cons.mp member with same | later
          · exact .inl same
          · exact .inr (List.mem_cons_of_mem _ later)
      | succ index =>
          rcases List.mem_cons.mp member with same | later
          · exact .inr (List.mem_cons.mpr (.inl same))
          · rcases ih (by simpa using found) later with same | left
            · exact .inl same
            · exact .inr (List.mem_cons_of_mem _ left)

theorem Life.Brings.serve {result : Except Errno (Nat → Nat)} (brings : life.Brings seen passed)
    (read : ∀ data, result = .ok data → seen data)
    (taken : life.serve index result = some turn) : turn.life.Brings seen passed := by
  obtain ⟨clone, found, same⟩ := Option.map_eq_some_iff.mp taken
  subst same
  intro other member
  rcases brings other member with flies | ⟨handler, inside, carries⟩ | done
  · rcases mem_eraseIdx_or found flies with same | left
    · subst same
      refine .inr (.inl ⟨_, List.mem_append_right _ (List.mem_singleton_self _), ?_⟩)
      cases result with
      | ok data => exact ⟨data, read data rfl, rfl⟩
      | error error => trivial
    · exact .inl left
  · exact .inr (.inl ⟨handler, List.mem_append_left _ inside, carries⟩)
  · exact .inr (.inr done)

/-- A completion handler passes its clone to the queue of the thread, or reports that
the base device failed. -/
theorem Life.Brings.complete (brings : life.Brings seen passed)
    (taken : life.complete index = some turn) (sound : ∀ error, turn.told ≠ some (.fail error))
    (more : ∀ bio, passed bio → passed' bio)
    (adds : ∀ bio, turn.told = some (.addBio (.write bio)) → passed' bio) :
    turn.life.Brings seen passed' := by
  obtain ⟨handler, found, same⟩ := Option.map_eq_some_iff.mp taken
  subst same
  intro other member
  have member : other ∈ life.sent := by cases handler <;> exact member
  rcases brings other member with flies | ⟨inner, inside, carries⟩ | ⟨data, read, done⟩
  · left
    cases handler <;> exact flies
  · cases handler with
    | queue bio =>
        rcases mem_set_or .count found inside with same | left
        · subst same
          obtain ⟨data, read, same⟩ := carries
          exact .inr (.inr ⟨data, read, same ▸ adds bio rfl⟩)
        · exact .inr (.inl ⟨inner, left, carries⟩)
    | count =>
        rcases mem_set_or .put found inside with same | left
        · subst same
          exact carries.elim
        · exact .inr (.inl ⟨inner, left, carries⟩)
    | fail error => exact absurd rfl (sound error)
    | put =>
        rcases mem_eraseIdx_or found inside with same | left
        · subst same
          exact carries.elim
        · exact .inr (.inl ⟨inner, left, carries⟩)
  · exact .inr (.inr ⟨data, read, more _ done⟩)

theorem HandlerPc.brings_iff {clone : ReadBio} {handler : HandlerPc} :
    handler.Brings (fun _ => True) clone ↔ handler.Carries clone := by
  cases handler with
  | queue bio => simp [HandlerPc.Brings, HandlerPc.Carries]
  | _ => exact Iff.rfl

theorem Life.brings_iff : life.Brings (fun _ => True) passed ↔ life.Accounted passed := by
  simp [Life.Brings, Life.Accounted, HandlerPc.brings_iff]

theorem Life.Accounted.weaken (accounted : life.Accounted passed)
    (more : ∀ bio, passed bio → passed' bio) : life.Accounted passed' :=
  Life.brings_iff.mp ((Life.brings_iff.mpr accounted).weaken (fun _ => id) more)

theorem Life.Accounted.of_same {next : Life} (accounted : life.Accounted passed)
    (flight : next.flight = life.flight) (handlers : next.handlers = life.handlers)
    (sent : next.sent = life.sent) : next.Accounted passed :=
  Life.brings_iff.mp ((Life.brings_iff.mpr accounted).of_same flight handlers sent)

theorem Life.Accounted.trace (accounted : life.Accounted passed)
    (taken : life.trace wiring failing fits = some turn) : turn.life.Accounted passed :=
  Life.brings_iff.mp ((Life.brings_iff.mpr accounted).trace taken)

theorem Life.Accounted.serve {result : Except Errno (Nat → Nat)}
    (accounted : life.Accounted passed) (taken : life.serve index result = some turn) :
    turn.life.Accounted passed :=
  Life.brings_iff.mp ((Life.brings_iff.mpr accounted).serve (fun _ _ => trivial) taken)

theorem Life.Accounted.complete (accounted : life.Accounted passed)
    (taken : life.complete index = some turn) (sound : ∀ error, turn.told ≠ some (.fail error))
    (more : ∀ bio, passed bio → passed' bio)
    (adds : ∀ bio, turn.told = some (.addBio (.write bio)) → passed' bio) :
    turn.life.Accounted passed' :=
  Life.brings_iff.mp ((Life.brings_iff.mpr accounted).complete taken sound more adds)

end brings

variable {front after : Front}

/-- What holds of every write and is kept by its turns holds after a step. -/
theorem Front.Stepped.lives {event : FrontEvent} {before kept : Life → Prop}
    (stepped : front.Stepped wiring event after)
    (holds : ∀ life ∈ front.lives, before life)
    (weaker : ∀ life, before life → kept life)
    (begins : ∀ bio, kept (.begin bio wiring.snapshot))
    (hands : ∀ life handed, kept life → kept (life.hand handed))
    (traces : ∀ {life turn failing fits}, before life →
      life.trace wiring failing fits = some turn → turn.told = front.told wiring event →
      kept turn.life)
    (serves : ∀ {life turn index result}, before life → life.serve index result = some turn →
      kept turn.life)
    (completes : ∀ {life turn index}, before life → life.complete index = some turn →
      turn.told = front.told wiring event → kept turn.life) :
    ∀ life ∈ after.lives, kept life := by
  have sets : ∀ {id : Nat} {turn : Turn}, kept turn.life →
      ∀ life ∈ (front.settle id turn).lives, kept life := by
    intro id turn turned life member
    rcases List.mem_or_eq_of_mem_set member with before | same
    · exact weaker life (holds life before)
    · exact same ▸ turned
  cases stepped with
  | start accepted =>
      intro life member
      rcases List.mem_append.mp member with before | last
      · exact weaker life (holds life before)
      · rw [List.mem_singleton.mp last]
        exact begins _
  | trace found ran =>
      have same := Front.told_trace found ran
      exact sets (traces (holds _ (List.mem_of_getElem? found)) ran same.symm)
  | serve found ran => exact sets (serves (holds _ (List.mem_of_getElem? found)) ran)
  | complete found ran =>
      have same : front.told wiring _ = _ := Front.told_complete found ran
      exact sets (completes (holds _ (List.mem_of_getElem? found)) ran same.symm)
  | @mrf failed _ ran =>
      have same : ∀ life ∈ front.lives, kept life := fun life member =>
        weaker life (holds life member)
      unfold Front.mrfStep at ran
      split at ran
      · cases ran
        exact same
      · cases ran
        exact same
      · split at ran
        · cases ran
          exact same
        · contradiction
      · cases ran
        exact same
      · split at ran
        · contradiction
        · cases ran
          exact same
      · obtain ⟨life, found, equal⟩ := Option.map_eq_some_iff.mp ran
        subst equal
        intro other member
        rcases List.mem_or_eq_of_mem_set member with before | last
        · exact same other before
        · rw [last]
          exact hands _ _ (same life (List.mem_of_getElem? found))
      · contradiction

theorem Front.Stepped.accounted {event : FrontEvent} {passed passed' : WriteBio → Prop}
    (stepped : front.Stepped wiring event after)
    (sound : ∀ error, front.told wiring event ≠ some (.fail error))
    (more : ∀ bio, passed bio → passed' bio)
    (adds : ∀ bio, front.told wiring event = some (.addBio (.write bio)) → passed' bio)
    (holds : ∀ life ∈ front.lives, life.Accounted passed) :
    ∀ life ∈ after.lives, life.Accounted passed' := by
  refine stepped.lives holds (fun _ accounted => accounted.weaken more) ?_ ?_ ?_ ?_ ?_
  · intro bio clone member
    contradiction
  · exact fun life handed accounted => accounted.of_same rfl rfl rfl
  · exact fun accounted ran _ => (accounted.trace ran).weaken more
  · exact fun accounted ran => (accounted.serve ran).weaken more
  · intro life turn index accounted ran told
    rw [← told] at sound adds
    exact accounted.complete ran sound more adds

theorem Front.Stepped.covers {event : FrontEvent} (stepped : front.Stepped wiring event after)
    (sound : ∀ error, front.told wiring event ≠ some (.fail error))
    (holds : ∀ life ∈ front.lives, life.Covers wiring.sectOff) :
    ∀ life ∈ after.lives, life.Covers wiring.sectOff := by
  refine stepped.lives holds (fun _ => id) ?_ (fun _ _ => id) ?_ ?_ ?_
  · intro bio
    unfold Life.begin
    cases wiring.snapshot <;> trivial
  · intro life turn failing fits covers ran told
    rw [← told] at sound
    exact covers.trace ran sound
  · intro life turn index result covers ran
    obtain ⟨clone, _, same⟩ := Option.map_eq_some_iff.mp ran
    subst same
    exact covers
  · intro life turn index covers ran _
    obtain ⟨handler, _, same⟩ := Option.map_eq_some_iff.mp ran
    subst same
    cases handler <;> exact covers

/-- What the tracing side can tell the device, with the counters of both. -/
inductive Told (front after : Front) : Option SnapEvent → Prop
  | nothing : after.submitted = front.submitted → after.received = front.received →
      Told front after none
  | submit : after.submitted = front.submitted + 1 → after.received = front.received →
      Told front after (some .submit)
  | receive : after.submitted = front.submitted → after.received = front.received + 1 →
      Told front after (some .receive)
  | fail {error : Errno} : after.submitted = front.submitted → after.received = front.received →
      Told front after (some (.fail error))
  | add {bio : WriteBio} : after.submitted = front.submitted → after.received = front.received →
      Told front after (some (.addBio (.write bio)))

theorem Life.trace_told {failing : Bool} {fits : Nat}
    (taken : life.trace wiring failing fits = some turn) :
    turn.told = none ∨ turn.told = some .submit ∨ ∃ error, turn.told = some (.fail error) := by
  cases Life.traced taken with
  | unallocated => exact .inr (.inr ⟨_, rfl⟩)
  | lost => exact .inr (.inr ⟨_, rfl⟩)
  | unmade => exact .inr (.inr ⟨_, rfl⟩)
  | unadded => exact .inr (.inr ⟨_, rfl⟩)
  | counted => exact .inr (.inl rfl)
  | _ => exact .inl rfl

theorem Told.settle (front : Front) (id : Nat) (turn : Turn)
    (cases : turn.told = none ∨ turn.told = some .submit ∨ turn.told = some .receive ∨
      (∃ error, turn.told = some (.fail error)) ∨ ∃ bio, turn.told = some (.addBio (.write bio))) :
    Told front (front.settle id turn) turn.told := by
  have submitted : (front.settle id turn).submitted = front.submitted + turn.submitted := rfl
  have received : (front.settle id turn).received = front.received + turn.received := rfl
  unfold Turn.submitted at submitted
  unfold Turn.received at received
  rcases cases with told | told | told | ⟨error, told⟩ | ⟨bio, told⟩
  · rw [told] at submitted received ⊢
    exact .nothing submitted received
  · rw [told] at submitted received ⊢
    exact .submit submitted received
  · rw [told] at submitted received ⊢
    exact .receive submitted received
  · rw [told] at submitted received ⊢
    exact .fail submitted received
  · rw [told] at submitted received ⊢
    exact .add submitted received

theorem Front.Stepped.told {event : FrontEvent} (stepped : front.Stepped wiring event after) :
    Told front after (front.told wiring event) := by
  cases stepped with
  | start accepted => exact .nothing rfl rfl
  | trace found ran =>
      rw [Front.told_trace found ran]
      apply Told.settle
      rcases Life.trace_told ran with none | submit | fail
      · exact .inl none
      · exact .inr (.inl submit)
      · exact .inr (.inr (.inr (.inl fail)))
  | serve found ran =>
      rw [Front.told_serve found ran]
      obtain ⟨clone, _, same⟩ := Option.map_eq_some_iff.mp ran
      subst same
      exact .settle _ _ _ (.inl rfl)
  | complete found ran =>
      rw [Front.told_complete found ran]
      obtain ⟨handler, _, same⟩ := Option.map_eq_some_iff.mp ran
      subst same
      apply Told.settle
      cases handler with
      | queue bio => exact .inr (.inr (.inr (.inr ⟨bio, rfl⟩)))
      | count => exact .inr (.inr (.inl rfl))
      | put => exact .inl rfl
      | fail error => exact .inr (.inr (.inr (.inl ⟨error, rfl⟩)))
  | mrf ran =>
      have counts := front.mrfStep_counts ran
      exact .nothing counts.1 counts.2.1

theorem Front.Stepped.add_weight {event : FrontEvent} {bio : CowBio}
    (stepped : front.Stepped wiring event after)
    (told : front.told wiring event = some (.addBio bio)) : 0 < front.weight := by
  cases stepped with
  | start accepted => contradiction
  | trace found ran =>
      rw [Front.told_trace found ran] at told
      rcases Life.trace_told ran with none | submit | ⟨error, fail⟩
      · rw [none] at told
        contradiction
      · rw [submit] at told
        cases told
      · rw [fail] at told
        cases told
  | serve found ran =>
      rw [Front.told_serve found ran] at told
      obtain ⟨clone, _, same⟩ := Option.map_eq_some_iff.mp ran
      subst same
      contradiction
  | @complete id index life turn found ran =>
      rw [Front.told_complete found ran] at told
      obtain ⟨handler, here, same⟩ := Option.map_eq_some_iff.mp ran
      subst same
      have uncounted : handler.isPut = false := by
        cases handler with
        | put => cases told
        | queue bio => rfl
        | count => rfl
        | fail error => rfl
      have some : 0 < Moocbt.Device.uncounted life.handlers := by
        refine List.countP_pos_iff.mpr ⟨handler, List.mem_of_getElem? here, ?_⟩
        simp [uncounted]
      have bound := le_sum_of_mem (List.mem_of_getElem? found)
      have heavy : 0 < life.weight := by
        unfold Life.weight
        omega
      exact heavy.trans_le bound
  | mrf ran => contradiction

end Moocbt.Device
