import Moocbt.Device.Deferral

/-! `__tracer_destroy_snap`: the wait for the read clones, and the end of the thread that
submits the deferred writes. -/

namespace Moocbt.Device

open Cow Program

/-- Where `__tracer_destroy_snap` is. -/
inductive DestroyPc where
  | idle
  | waiting
  | stopping
  | done
  deriving DecidableEq, Repr

/-- The tracing side of a device with the thread that tears it down. -/
structure Teardown where
  front : Front
  pc : DestroyPc

inductive TeardownEvent where
  | front (event : FrontEvent)
  | destroy

def Life.Returned (life : Life) : Prop := ∃ deferred, life.pc = .returned deferred

instance (life : Life) : Decidable life.Returned :=
  match here : life.pc with
  | .returned deferred => .isTrue ⟨deferred, here⟩
  | .mark | .check | .alloc | .makeClone _ _ | .addClone _ _ _ | .count _ _ _ | .submit _ _ _
  | .drop | .freeClone | .abandon => .isFalse (by simp [Life.Returned, here])

namespace Teardown

/-- A step of `__tracer_destroy_snap`. Its callers have taken the device out of the table
and no write is being traced when it begins. Only the build with the hook waits for the
clones; it reads both counters again and again. -/
def destroy (wiring : Wiring) (teardown : Teardown) : Option Teardown :=
  match teardown.pc with
  | .idle =>
      if ∀ life ∈ teardown.front.lives, life.Returned then some { teardown with pc := .waiting }
      else none
  | .waiting =>
      if wiring.build = .hook ∧ teardown.front.submitted ≠ teardown.front.received then
        some teardown
      else some ⟨{ teardown.front with mrfStop := true }, .stopping⟩
  | .stopping => if teardown.front.mrf = .exited then some { teardown with pc := .done } else none
  | .done => none

def step (wiring : Wiring) (teardown : Teardown) : TeardownEvent → Option Teardown
  | .front (.start failed bio) =>
      if teardown.pc = .idle then
        (teardown.front.step wiring (.start failed bio)).map ({ teardown with front := · })
      else none
  | .front event => (teardown.front.step wiring event).map ({ teardown with front := · })
  | .destroy => teardown.destroy wiring

end Teardown

/-- A handler that counted its clone and still holds the reference. -/
def HandlerPc.isPut : HandlerPc → Bool
  | .put => true
  | _ => false

/-- The handlers that have not counted their clone. -/
def uncounted (handlers : List HandlerPc) : Nat := handlers.countP fun handler => !handler.isPut

/-- The clones of a write that `sd_submitted_cnt` counts and `sd_received_cnt` does not. -/
def Life.weight (life : Life) : Nat :=
  (match life.pc with
    | .submit _ _ _ => 1
    | _ => 0) + life.flight.length + uncounted life.handlers

variable {wiring : Wiring} {life : Life} {turn : Turn} {front next : Front}

/-- The weight goes up with the first counter and down with the second. -/
theorem Life.trace_weight {failing : Bool} {fits : Nat}
    (taken : life.trace wiring failing fits = some turn) :
    turn.life.weight + turn.received = life.weight + turn.submitted := by
  cases Life.traced taken with
  | counted here =>
      simp only [Life.weight, Turn.received, Turn.submitted, here]
      omega
  | @sends clone sector pages here =>
      by_cases more : 0 < pages <;>
        simp [Life.weight, Turn.received, Turn.submitted, here, more] <;> omega
  | _ =>
      simp [Life.weight, Life.pass, Life.hand, Life.tpPut, Turn.received, Turn.submitted, *]

theorem Life.serve_weight {index : Nat} {result : Except Errno (Nat → Nat)}
    (taken : life.serve index result = some turn) :
    turn.life.weight + turn.received = life.weight + turn.submitted := by
  obtain ⟨clone, found, same⟩ := Option.map_eq_some_iff.mp taken
  subst same
  obtain ⟨bound, _⟩ := List.getElem?_eq_some_iff.mp found
  have shorter : (life.flight.eraseIdx index).length + 1 = life.flight.length := by
    simp only [List.length_eraseIdx, bound, if_true]
    omega
  cases result <;>
    simp only [Life.weight, Turn.received, Turn.submitted, uncounted, List.countP_append,
      List.countP_singleton, HandlerPc.isPut, Bool.not_false, if_true] <;>
    omega

theorem countP_set {α : Type} {p : α → Bool} {items : List α} {index : Nat} {old : α} (new : α)
    (found : items[index]? = some old) :
    (items.set index new).countP p + (if p old then 1 else 0) =
      items.countP p + if p new then 1 else 0 := by
  induction items generalizing index with
  | nil => simp at found
  | cons first rest ih =>
      cases index with
      | zero =>
          cases found
          simp only [List.set_cons_zero, List.countP_cons]
          omega
      | succ index =>
          have later := ih (by simpa using found)
          simp only [List.set_cons_succ, List.countP_cons]
          omega

theorem countP_eraseIdx {α : Type} {p : α → Bool} {items : List α} {index : Nat} {old : α}
    (found : items[index]? = some old) :
    (items.eraseIdx index).countP p + (if p old then 1 else 0) = items.countP p := by
  induction items generalizing index with
  | nil => simp at found
  | cons first rest ih =>
      cases index with
      | zero =>
          cases found
          simp only [List.eraseIdx_cons_zero, List.countP_cons]
      | succ index =>
          have later := ih (by simpa using found)
          simp only [List.eraseIdx_cons_succ, List.countP_cons]
          omega

/-- The handlers that have not counted, when one of them goes on. -/
theorem uncounted_set {handlers : List HandlerPc} {index : Nat} {handler after : HandlerPc}
    (found : handlers[index]? = some handler) :
    uncounted (handlers.set index after) + (if handler.isPut then 0 else 1) =
      uncounted handlers + if after.isPut then 0 else 1 := by
  have counts := @countP_set _ (fun handler : HandlerPc => !handler.isPut) _ _ _ after found
  unfold uncounted
  cases before : handler.isPut <;> cases now : after.isPut <;>
    simpa [before, now] using counts

theorem uncounted_eraseIdx {handlers : List HandlerPc} {index : Nat}
    (found : handlers[index]? = some .put) :
    uncounted (handlers.eraseIdx index) = uncounted handlers :=
  countP_eraseIdx (p := fun handler : HandlerPc => !handler.isPut) found

theorem Life.complete_weight {index : Nat} (taken : life.complete index = some turn) :
    turn.life.weight + turn.received ≤ life.weight + turn.submitted := by
  obtain ⟨handler, found, same⟩ := Option.map_eq_some_iff.mp taken
  subst same
  cases handler with
  | queue bio =>
      have kept := @uncounted_set _ _ _ .count found
      simp only [HandlerPc.isPut, Bool.false_eq_true, if_false] at kept
      simp only [Life.weight, Turn.received]
      omega
  | count =>
      have kept := @uncounted_set _ _ _ .put found
      simp only [HandlerPc.isPut, Bool.false_eq_true, if_true, if_false] at kept
      simp only [Life.weight, Turn.received]
      omega
  | fail error =>
      have kept := @uncounted_set _ _ _ .put found
      simp only [HandlerPc.isPut, Bool.false_eq_true, if_true, if_false] at kept
      simp only [Life.weight, Turn.received]
      omega
  | put =>
      have kept := uncounted_eraseIdx found
      simp only [Life.weight, Life.tpPut, Turn.received]
      omega

def Front.weight (front : Front) : Nat := (front.lives.map Life.weight).sum

theorem sum_map_set {α : Type} (f : α → Nat) {items : List α} {index : Nat} {old : α} (new : α)
    (found : items[index]? = some old) :
    ((items.set index new).map f).sum + f old = (items.map f).sum + f new := by
  induction items generalizing index with
  | nil => simp at found
  | cons first rest ih =>
      cases index with
      | zero =>
          cases found
          simp only [List.set_cons_zero, List.map_cons, List.sum_cons]
          omega
      | succ index =>
          have later := ih (by simpa using found)
          simp only [List.set_cons_succ, List.map_cons, List.sum_cons]
          omega

theorem le_sum_of_mem {items : List Life} (member : life ∈ items) :
    life.weight ≤ (items.map Life.weight).sum := by
  induction items with
  | nil => contradiction
  | cons first rest ih =>
      simp only [List.map_cons, List.sum_cons]
      rcases List.mem_cons.mp member with same | later
      · subst same
        omega
      · have bound := ih later
        omega

/-- A step moves clones between the counters and the lives, and loses none. -/
structure Balanced (front next : Front) : Prop where
  clones : next.weight + next.received + front.submitted ≤
    front.weight + front.received + next.submitted
  received : front.received ≤ next.received

theorem Balanced.settle {id : Nat} (found : front.lives[id]? = some life)
    (lighter : turn.life.weight + turn.received ≤ life.weight + turn.submitted) :
    Balanced front (front.settle id turn) := by
  have sum := sum_map_set Life.weight turn.life found
  refine ⟨?_, Nat.le_add_right _ _⟩
  unfold Front.weight
  simp only [Front.settle]
  omega

/-- A life back in the tracing function counts no more clones, and stays there. -/
theorem Front.Stepped.returned {event : FrontEvent} (stepped : front.Stepped wiring event next)
    (returned : ∀ life ∈ front.lives, life.Returned) (ended : ∀ failed bio, event ≠ .start failed bio) :
    (∀ life ∈ next.lives, life.Returned) ∧ next.submitted = front.submitted := by
  have settles : ∀ {id : Nat} {turn : Turn}, turn.life.Returned → turn.submitted = 0 →
      (∀ life ∈ (front.settle id turn).lives, life.Returned) ∧
        (front.settle id turn).submitted = front.submitted := by
    intro id turn back none
    refine ⟨fun life member => ?_, ?_⟩
    · rcases List.mem_or_eq_of_mem_set member with before | same
      · exact returned life before
      · rw [same]
        exact back
    · change front.submitted + turn.submitted = front.submitted
      rw [none, Nat.add_zero]
  cases stepped with
  | start accepted => exact absurd rfl (ended _ _)
  | @trace id fits failing life turn found ran =>
      obtain ⟨deferred, here⟩ := returned life (List.mem_of_getElem? found)
      unfold Life.trace at ran
      rw [here] at ran
      contradiction
  | @serve id index result life turn found ran =>
      have back := returned life (List.mem_of_getElem? found)
      obtain ⟨clone, _, same⟩ := Option.map_eq_some_iff.mp ran
      subst same
      exact settles back rfl
  | @complete id index life turn found ran =>
      have back := returned life (List.mem_of_getElem? found)
      obtain ⟨handler, _, same⟩ := Option.map_eq_some_iff.mp ran
      subst same
      cases handler <;> exact settles back rfl
  | @mrf failed next ran =>
      unfold Front.mrfStep at ran
      split at ran
      · cases ran
        exact ⟨returned, rfl⟩
      · cases ran
        exact ⟨returned, rfl⟩
      · split at ran
        · cases ran
          exact ⟨returned, rfl⟩
        · contradiction
      · cases ran
        exact ⟨returned, rfl⟩
      · split at ran
        · contradiction
        · cases ran
          exact ⟨returned, rfl⟩
      · rename_i id _
        obtain ⟨life, found, same⟩ := Option.map_eq_some_iff.mp ran
        subst same
        refine ⟨fun other member => ?_, rfl⟩
        rcases List.mem_or_eq_of_mem_set member with before | same
        · exact returned other before
        · rw [same]
          exact returned life (List.mem_of_getElem? found)
      · contradiction

/-- The thread touches the lives only where it hands one on. -/
theorem Front.mrfStep_sum {failed : Entry → Bool} (f : Life → Nat)
    (blind : ∀ (life : Life) (handed : Handed), f (life.hand handed) = f life)
    (ran : front.mrfStep wiring failed = some next) :
    (next.lives.map f).sum = (front.lives.map f).sum := by
  unfold Front.mrfStep at ran
  split at ran
  · cases ran
    rfl
  · cases ran
    rfl
  · split at ran
    · cases ran
      rfl
    · contradiction
  · cases ran
    rfl
  · split at ran
    · contradiction
    · cases ran
      rfl
  · obtain ⟨life, found, same⟩ := Option.map_eq_some_iff.mp ran
    subst same
    have sum := sum_map_set f (life.hand (wiring.pass failed life.bio true)) found
    rw [blind] at sum
    exact Nat.add_right_cancel sum
  · contradiction

theorem Front.mrfStep_counts {failed : Entry → Bool}
    (ran : front.mrfStep wiring failed = some next) :
    next.submitted = front.submitted ∧ next.received = front.received ∧
      next.weight = front.weight ∧ next.mrfStop = front.mrfStop := by
  have weight : next.weight = front.weight := mrfStep_sum Life.weight (fun _ _ => rfl) ran
  unfold Front.mrfStep at ran
  split at ran
  · cases ran
    exact ⟨rfl, rfl, weight, rfl⟩
  · cases ran
    exact ⟨rfl, rfl, weight, rfl⟩
  · split at ran
    · cases ran
      exact ⟨rfl, rfl, weight, rfl⟩
    · contradiction
  · cases ran
    exact ⟨rfl, rfl, weight, rfl⟩
  · split at ran
    · contradiction
    · cases ran
      exact ⟨rfl, rfl, weight, rfl⟩
  · obtain ⟨life, found, same⟩ := Option.map_eq_some_iff.mp ran
    subst same
    exact ⟨rfl, rfl, weight, rfl⟩
  · contradiction

theorem Front.Stepped.balanced {event : FrontEvent} (stepped : front.Stepped wiring event next) :
    Balanced front next := by
  cases stepped with
  | @start failed bio accepted =>
      have none : (Life.begin bio wiring.snapshot).weight = 0 := by
        unfold Life.begin
        split <;> rfl
      refine ⟨?_, Nat.le_refl _⟩
      simp [Front.weight, none]
  | trace found ran => exact .settle found (Life.trace_weight ran).le
  | serve found ran => exact .settle found (Life.serve_weight ran).le
  | complete found ran => exact .settle found (Life.complete_weight ran)
  | mrf ran =>
      obtain ⟨submitted, received, weight, _⟩ := front.mrfStep_counts ran
      exact ⟨by omega, by omega⟩

/-- All clones were answered and counted. -/
theorem Life.light (none : life.weight = 0) :
    life.flight = [] ∧ ∀ handler ∈ life.handlers, handler.isPut = true := by
  unfold Life.weight at none
  refine ⟨List.eq_nil_of_length_eq_zero (by omega), fun handler member => ?_⟩
  have zero : uncounted life.handlers = 0 := by omega
  have put := List.countP_eq_zero.mp zero handler member
  simpa using put

/-- What holds of a device while it is torn down. -/
structure Teardown.Sound (wiring : Wiring) (teardown : Teardown) : Prop where
  front : teardown.front.Sound wiring
  counted : teardown.front.received + teardown.front.weight ≤ teardown.front.submitted
  returned : teardown.pc ≠ .idle → ∀ life ∈ teardown.front.lives, life.Returned
  stopped : teardown.front.mrfStop = true → teardown.pc ≠ .idle ∧ teardown.front.weight = 0
  tested : teardown.front.mrf = .testQueue ∨ teardown.front.mrf = .exited →
    teardown.front.mrfStop = true
  drained : teardown.front.mrf = .exited →
    teardown.front.origBios = [] ∧ ∀ life ∈ teardown.front.lives, life.handlers = []

/-- The thread behind the deferred writes does not end while a handler that counted its
clone still holds its reference. -/
def TeardownEvent.Released (teardown : Teardown) : TeardownEvent → Prop
  | .front (.mrf _) => teardown.front.mrf = .testQueue → teardown.front.origBios = [] →
      ∀ life ∈ teardown.front.lives, ∀ handler ∈ life.handlers, handler.isPut = false
  | _ => True

variable {teardown after : Teardown}

/-- Once the thread has ended nothing moves. -/
theorem Teardown.Sound.still {event : FrontEvent} (sound : teardown.Sound wiring)
    (exited : teardown.front.mrf = .exited) (ended : ∀ failed bio, event ≠ .start failed bio)
    (stepped : teardown.front.Stepped wiring event next) : False := by
  have stop := sound.tested (.inr exited)
  obtain ⟨begun, weight⟩ := sound.stopped stop
  have light : ∀ {id : Nat} {life : Life}, teardown.front.lives[id]? = some life →
      life.flight = [] ∧ life.handlers = [] := by
    intro id life found
    have member := List.mem_of_getElem? found
    have bound := le_sum_of_mem member
    unfold Front.weight at weight
    exact ⟨(Life.light (by omega)).1, (sound.drained exited).2 life member⟩
  cases stepped with
  | start accepted => exact absurd rfl (ended _ _)
  | @trace id fits failing life turn found ran =>
      obtain ⟨deferred, here⟩ := sound.returned begun life (List.mem_of_getElem? found)
      unfold Life.trace at ran
      rw [here] at ran
      contradiction
  | @serve id index result life turn found ran =>
      obtain ⟨clone, here, _⟩ := Option.map_eq_some_iff.mp ran
      rw [(light found).1] at here
      contradiction
  | @complete id index life turn found ran =>
      obtain ⟨handler, here, _⟩ := Option.map_eq_some_iff.mp ran
      rw [(light found).2] at here
      contradiction
  | mrf ran =>
      unfold Front.mrfStep at ran
      rw [exited] at ran
      contradiction

/-- Only the thread itself changes its place. -/
theorem Front.Stepped.mrf_eq {event : FrontEvent} (stepped : front.Stepped wiring event next)
    (other : ∀ failed, event ≠ .mrf failed) :
    next.mrf = front.mrf ∧ next.mrfStop = front.mrfStop := by
  cases stepped with
  | mrf ran => exact absurd rfl (other _)
  | _ => exact ⟨rfl, rfl⟩

theorem Teardown.Sound.mrf (sound : teardown.Sound wiring)
    (released : ∀ failed, TeardownEvent.Released teardown (.front (.mrf failed)))
    {failed : Entry → Bool} (ran : teardown.front.mrfStep wiring failed = some next) :
    (next.mrf = .testQueue ∨ next.mrf = .exited → next.mrfStop = true) ∧
      (next.mrf = .exited → next.origBios = [] ∧ ∀ life ∈ next.lives, life.handlers = []) := by
  unfold Front.mrfStep at ran
  cases here : teardown.front.mrf with
  | testStop =>
      rw [here] at ran
      cases ran
      cases stop : teardown.front.mrfStop <;> simp
  | testQueue =>
      have stop := sound.tested (.inl here)
      rw [here] at ran
      cases ran
      refine ⟨fun _ => stop, fun exited => ?_⟩
      have empty : teardown.front.origBios = [] := by
        cases queue : teardown.front.origBios with
        | nil => rfl
        | cons id rest => simp [queue] at exited
      refine ⟨empty, fun life member => ?_⟩
      have weight := (sound.stopped stop).2
      have member : life ∈ teardown.front.lives := member
      have bound := le_sum_of_mem member
      unfold Front.weight at weight
      have put := (Life.light (by omega : life.weight = 0)).2
      apply List.eq_nil_iff_forall_not_mem.mpr
      intro handler inside
      have clear := released failed here empty life member handler inside
      rw [put handler inside] at clear
      contradiction
  | waitEvent =>
      rw [here] at ran
      simp only at ran
      split at ran
      · cases ran
        simp
      · contradiction
  | testEmpty =>
      rw [here] at ran
      cases ran
      cases queue : teardown.front.origBios <;> simp
  | dequeue =>
      rw [here] at ran
      simp only at ran
      split at ran
      · contradiction
      · cases ran
        simp
  | submit id =>
      rw [here] at ran
      obtain ⟨life, _, same⟩ := Option.map_eq_some_iff.mp ran
      subst same
      simp
  | exited =>
      rw [here] at ran
      contradiction

theorem Teardown.Sound.front_step (hook : wiring.build = .hook) (sound : teardown.Sound wiring)
    {event : FrontEvent} (released : TeardownEvent.Released teardown (.front event))
    (ended : teardown.pc ≠ .idle → ∀ failed bio, event ≠ .start failed bio)
    (taken : teardown.front.step wiring event = some next) :
    Teardown.Sound wiring { teardown with front := next } := by
  have keeps : event.Keeps wiring teardown.front := by
    cases event with
    | trace id failing fits =>
        intro life _ loses
        rw [hook] at loses
        exact absurd loses.1 (by simp)
    | _ => trivial
  have stepped := Front.stepped taken
  have balanced := stepped.balanced
  have returned : teardown.pc ≠ .idle → (∀ life ∈ next.lives, life.Returned) ∧
      next.submitted = teardown.front.submitted := fun begun =>
    stepped.returned (sound.returned begun) (ended begun)
  have counted : next.received + next.weight ≤ next.submitted := by
    have before := sound.counted
    have moved := balanced.clones
    omega
  have stopped : teardown.front.mrfStop = true → teardown.pc ≠ .idle ∧ next.weight = 0 := by
    intro stop
    obtain ⟨begun, light⟩ := sound.stopped stop
    have same := (returned begun).2
    have moved := balanced.clones
    have more := balanced.received
    exact ⟨begun, by omega⟩
  by_cases thread : ∃ failed, event = .mrf failed
  · obtain ⟨failed, same⟩ := thread
    subst same
    have ran : teardown.front.mrfStep wiring failed = some next := taken
    have ends := sound.mrf (fun _ => released) ran
    have stop := (teardown.front.mrfStep_counts ran).2.2.2
    exact ⟨sound.front.step keeps taken, counted, fun begun => (returned begun).1,
      fun stops => stopped (stop ▸ stops), ends.1, ends.2⟩
  · have still := stepped.mrf_eq fun failed same => thread ⟨failed, same⟩
    refine ⟨sound.front.step keeps taken, counted, fun begun => (returned begun).1,
      fun stops => stopped (still.2 ▸ stops), ?_, fun exited => ?_⟩
    · dsimp only
      rw [still.1, still.2]
      exact sound.tested
    · have exited : teardown.front.mrf = .exited := still.1 ▸ exited
      have begun := (sound.stopped (sound.tested (.inr exited))).1
      exact (sound.still exited (ended begun) stepped).elim

theorem Teardown.Sound.step (hook : wiring.build = .hook) (sound : teardown.Sound wiring)
    {event : TeardownEvent} (released : event.Released teardown)
    (taken : teardown.step wiring event = some after) :
    after.Sound wiring := by
  cases event with
  | front event =>
      cases event with
      | start failed bio =>
          simp only [Teardown.step] at taken
          split at taken
          · rename_i idle
            obtain ⟨next, ran, same⟩ := Option.map_eq_some_iff.mp taken
            subst same
            exact sound.front_step hook released (fun begun => absurd idle begun) ran
          · contradiction
      | _ =>
          obtain ⟨next, ran, same⟩ := Option.map_eq_some_iff.mp taken
          subst same
          exact sound.front_step hook released (by simp) ran
  | destroy =>
      have taken : teardown.destroy wiring = some after := taken
      unfold Teardown.destroy at taken
      split at taken
      · rename_i idle
        split at taken
        · rename_i returned
          cases taken
          exact { sound with
            returned := fun _ => returned
            stopped := fun stop => ⟨by simp, (sound.stopped stop).2⟩ }
        · contradiction
      · rename_i waiting
        split at taken
        · cases taken
          exact sound
        · rename_i counted
          cases taken
          have equal : teardown.front.submitted = teardown.front.received := by
            simpa [hook] using counted
          have begun : teardown.pc ≠ .idle := by simp [waiting]
          have light := sound.counted
          have front : Front.Sound wiring { teardown.front with mrfStop := true } :=
            ⟨sound.front.lives, sound.front.known⟩
          refine ⟨front, sound.counted, fun _ => sound.returned begun, fun _ => ⟨by simp, ?_⟩,
            fun _ => rfl, sound.drained⟩
          change teardown.front.weight = 0
          omega
      · rename_i stopping
        split at taken
        · cases taken
          exact { sound with
            returned := fun _ => sound.returned (by simp [stopping])
            stopped := fun stop => ⟨by simp, (sound.stopped stop).2⟩ }
        · contradiction
      · contradiction

/-- The deferred writes were submitted when the thread behind them has ended, unless it
ended before a handler dropped its reference. They reach the driver with that, if no two devices
of a queue have a sector in common. -/
theorem deferred_write_submitted (hook : wiring.build = .hook)
    (reached : Transition.Reaches (Teardown.step wiring)
      (fun teardown event => event.Released teardown) ⟨.fresh, .idle⟩ teardown)
    (exited : teardown.front.mrf = .exited) {id : Nat}
    (found : teardown.front.lives[id]? = some life) (deferred : life.pc = .returned true) :
    life.handed.length = 1 ∧
      (wiring.table.Pairwise Entry.Apart → life.handed = [.driver false]) := by
  have sound : teardown.Sound wiring := by
    refine reached.invariant ?_ fun sound released taken => sound.step hook released taken
    exact ⟨.fresh, by simp [Front.fresh, Front.weight], by simp, by simp [Front.fresh],
      by simp [Front.fresh], by simp [Front.fresh]⟩
  have member := List.mem_of_getElem? found
  have weight := (sound.stopped (sound.tested (.inr exited))).2
  have bound := le_sum_of_mem member
  unfold Front.weight at weight
  have drained := sound.drained exited
  have settled : teardown.front.Settled id life := by
    refine ⟨⟨true, deferred⟩, (Life.light (by omega)).1, drained.2 life member, ?_, ?_⟩
    · rw [drained.1]
      exact List.not_mem_nil
    · simp [exited]
  have once := (sound.front.lives found).handed_of_settled settled
  exact ⟨once, fun apart => (sound.front.lives found).driver_of_handed apart once⟩

instance (teardown : Teardown) (event : TeardownEvent) : Decidable (event.Released teardown) :=
  match event with
  | .front (.mrf _) =>
      inferInstanceAs (Decidable (teardown.front.mrf = .testQueue → teardown.front.origBios = [] →
        ∀ life ∈ teardown.front.lives, ∀ handler ∈ life.handlers, handler.isPut = false))
  | .destroy | .front (.start _ _) | .front (.trace _ _ _) | .front (.serve _ _ _)
  | .front (.complete _ _) => .isTrue trivial

/-- A write with one clone, up to the two first steps of its completion handler, and the
start of the teardown. -/
def countedOne : List TeardownEvent :=
  .front (.start (fun _ => false) twoBlocks) ::
    List.replicate 7 (.front (.trace 0 false 2)) ++
    [.front (.serve 0 0 (.ok fun _ => 0)), .front (.complete 0 0), .front (.complete 0 0), .destroy,
      .destroy]

/-- The handler drops its reference before the thread looks at its queue. -/
theorem deferred_write_submitted_drained :
    ∃ (teardown : Teardown) (life : Life), teardown.front.mrf = .exited ∧
      teardown.front.lives[0]? = some life ∧ life.handed = [.driver false] := by
  have apart : (Wiring.alone .hook).table.Pairwise Entry.Apart := List.pairwise_singleton _ _
  have ran : (Transition.run (Transition.checked (Teardown.step (.alone .hook))
      fun teardown event => event.Released teardown) ⟨.fresh, .idle⟩
      (countedOne ++ .front (.complete 0 0) ::
        List.replicate 8 (.front (.mrf fun _ => false)))).any
      (fun teardown => teardown.front.mrf = .exited ∧
        teardown.front.lives[0]?.any fun life => life.pc = .returned true) = true := by
    decide +kernel
  obtain ⟨teardown, reached, ended⟩ := Transition.Reaches.of_evaluated ran
  obtain ⟨exited, alive⟩ := of_decide_eq_true ended
  obtain ⟨life, found, deferred⟩ := (Option.any_eq_true _ _).mp alive
  exact ⟨teardown, life, exited, found,
    (deferred_write_submitted rfl reached exited found (of_decide_eq_true deferred)).2 apart⟩

/-- The wait ends between the second and the third step of the handler: the thread finds
an empty queue and ends, and the write is queued for nobody. -/
theorem deferred_write_submitted_late :
    ∃ (teardown : Teardown) (life : Life),
      Transition.Reachable (Teardown.step (.alone .hook)) ⟨.fresh, .idle⟩ teardown ∧
      teardown.front.mrf = .exited ∧ teardown.pc = .done ∧ teardown.front.lives[0]? = some life ∧
      life.pc = .returned true ∧ life.handed = [] ∧ teardown.front.origBios = [0] := by
  have ran : (Transition.run (Transition.checked (Teardown.step (.alone .hook)) fun _ _ => True)
      ⟨.fresh, .idle⟩
      (countedOne ++ List.replicate 2 (.front (.mrf fun _ => false)) ++
        [.destroy, .front (.complete 0 0)])).any
      (fun teardown => teardown.front.mrf = .exited ∧ teardown.pc = .done ∧
        teardown.front.origBios = [0] ∧
        teardown.front.lives[0]?.any fun life => life.pc = .returned true ∧ life.handed = []) =
      true := by
    decide +kernel
  obtain ⟨teardown, reached, ended⟩ := Transition.Reaches.of_evaluated ran
  obtain ⟨exited, done, queued, alive⟩ := of_decide_eq_true ended
  obtain ⟨life, found, lost⟩ := (Option.any_eq_true _ _).mp alive
  obtain ⟨deferred, unhanded⟩ := of_decide_eq_true lost
  exact ⟨teardown, life, reached, exited, done, found, deferred, unhanded, queued⟩

end Moocbt.Device
