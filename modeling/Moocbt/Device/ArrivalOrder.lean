import Mathlib.Data.List.Perm.Subperm
import Moocbt.Device.BioQueue

/-! The order in which captured bios leave their queue: a run of calls, with the number that
every bio got when it was added. -/

namespace Moocbt.Device

open LinkedQueue BioQueue Transition

/-- Two writes with a sector in common. -/
def WriteBio.shares (first second : WriteBio) : Bool :=
  max first.sector second.sector <
    min (first.sector + first.size / sectorSize) (second.sector + second.size / sectorSize)

def CowBio.shares : CowBio → CowBio → Bool
  | .write first, .write second => first.shares second
  | _, _ => false

/-- A queue with its history: the bios that were added, which of them is at an address, and
the numbers of those that left. -/
structure Line where
  links : Links CowBio
  arrivals : List CowBio
  number : Nat → Nat
  left : List Nat

namespace Line

def fresh : Line := ⟨.empty, [], id, []⟩

/-- A bio is added at an address that is not in use, and released once it was returned. -/
def step (line : Line) : QueueEvent → Option Line
  | .add addr bio =>
      if (line.links.cells addr).isNone then
        some
          { links := line.links.add addr bio
            arrivals := line.arrivals ++ [bio]
            number := Function.update line.number addr line.arrivals.length
            left := line.left }
      else none
  | .dequeue =>
      (dequeueDelayRead line.arrivals.length line.links).map fun taken =>
        { line with
          links := taken.2.free taken.1.1
          left := line.left ++ [line.number taken.1.1] }

/-- No write left before an earlier one with which it has a sector in common. -/
def InOrder (line : Line) : Prop :=
  ∀ earlier later : Nat, earlier < later → ∀ first second,
    line.arrivals[earlier]? = some first → line.arrivals[later]? = some second →
    first.shares second = true →
    ∀ place : Nat, line.left[place]? = some later → earlier ∈ line.left.take place

/-- The bios in the queue, as their links run. -/
def bios (line : Line) : List CowBio :=
  (Links.walk line.links.cells line.arrivals.length line.links.head).map Prod.snd

end Line

/-- The first write that the read at the head has to wait for has no sector in common with
the writes before it. -/
def takenInTurn : List CowBio → Bool
  | .read bio :: rest =>
      (rest.find? (delays bio)).all fun chosen =>
        (rest.takeWhile fun other => !delays bio other).all fun passed => !passed.shares chosen
  | _ => true

/-- The condition on a call: a dequeue takes its bio in turn. -/
def QueueEvent.inTurn (line : Line) : QueueEvent → Bool
  | .add _ _ => true
  | .dequeue => takenInTurn line.bios

def CowBio.isWrite : CowBio → Bool
  | .write _ => true
  | .read _ => false

/-- What holds of a queue and its history. -/
structure Line.Sound (line : Line) (queue : LinkedQueue CowBio) : Prop where
  links : queue.links = line.links
  arrived : ∀ entry ∈ queue.entries, line.arrivals[line.number entry.1]? = some entry.2
  sorted : queue.entries.Pairwise fun first second =>
    first.2.isWrite = true → second.2.isWrite = true → line.number first.1 < line.number second.1
  whole : ∀ index < line.arrivals.length,
    index ∈ line.left ∨ ∃ entry ∈ queue.entries, line.number entry.1 = index
  apart : ∀ entry ∈ queue.entries, line.number entry.1 ∉ line.left
  distinct : (queue.entries.map fun entry => line.number entry.1).Nodup
  known : ∀ index ∈ line.left, index < line.arrivals.length

def Line.Proper (line : Line) : Prop := ∃ queue, line.Sound queue

variable {line next : Line} {queue : LinkedQueue CowBio}

theorem Line.Sound.number_lt (sound : line.Sound queue) {entry : Nat × CowBio}
    (member : entry ∈ queue.entries) : line.number entry.1 < line.arrivals.length :=
  (List.getElem?_eq_some_iff.mp (sound.arrived entry member)).1

theorem Line.Sound.length_le (sound : line.Sound queue) :
    queue.entries.length ≤ line.arrivals.length := by
  have inside : queue.entries.map (fun entry => line.number entry.1) ⊆
      List.range line.arrivals.length := by
    intro number member
    obtain ⟨entry, here, same⟩ := List.mem_map.mp member
    subst same
    exact List.mem_range.mpr (sound.number_lt here)
  have bound := (sound.distinct.subperm inside).length_le
  simpa using bound

theorem Line.Sound.bios (sound : line.Sound queue) : line.bios = queue.values := by
  have linked := queue.linked
  rw [sound.links] at linked
  exact congrArg (List.map Prod.snd) (linked.walk_eq sound.length_le)

theorem Line.Sound.add (sound : line.Sound queue) {addr : Nat} (bio : CowBio)
    (fresh : queue.Fresh addr) :
    Line.Sound
      { links := line.links.add addr bio
        arrivals := line.arrivals ++ [bio]
        number := Function.update line.number addr line.arrivals.length
        left := line.left } (queue.add addr bio fresh) := by
  have outside := fresh.apart
  have same : ∀ entry ∈ queue.entries,
      Function.update line.number addr line.arrivals.length entry.1 = line.number entry.1 := by
    intro entry member
    refine Function.update_of_ne (fun here => outside ?_) _ _
    exact here ▸ List.mem_map_of_mem member
  have numbers : queue.entries.map (fun entry =>
      Function.update line.number addr line.arrivals.length entry.1) =
      queue.entries.map fun entry => line.number entry.1 := List.map_congr_left same
  constructor
  case links => exact congrArg (fun links => Links.add links addr bio) sound.links
  case arrived =>
      intro entry member
      rcases List.mem_append.mp member with before | last
      · have old := sound.arrived entry before
        simp only [same entry before, List.getElem?_append_left (sound.number_lt before), old]
      · cases List.mem_singleton.mp last
        simp
  case sorted =>
      refine List.pairwise_append.mpr ⟨?_, List.pairwise_singleton _ _, ?_⟩
      · refine sound.sorted.imp_of_mem fun inside inside' ordered => ?_
        simp only [same _ inside, same _ inside']
        exact ordered
      · intro entry member last isLast _ _
        cases List.mem_singleton.mp isLast
        simp only [same entry member, Function.update_self]
        exact sound.number_lt member
  case whole =>
      intro index below
      simp only [List.length_append, List.length_singleton] at below
      by_cases last : index = line.arrivals.length
      · exact .inr ⟨(addr, bio), List.mem_append_right _ List.mem_cons_self, by simp [last]⟩
      · rcases sound.whole index (by omega) with gone | ⟨entry, member, here⟩
        · exact .inl gone
        · exact .inr ⟨entry, List.mem_append_left _ member, (same entry member).trans here⟩
  case apart =>
      intro entry member
      rcases List.mem_append.mp member with before | last
      · simp only [same entry before]
        exact sound.apart entry before
      · cases List.mem_singleton.mp last
        simp only [Function.update_self]
        exact fun gone => Nat.lt_irrefl _ (sound.known _ gone)
  case distinct =>
      simp only [LinkedQueue.add, List.map_append, numbers, List.map_cons, List.map_nil,
        Function.update_self]
      refine List.nodup_append.mpr ⟨sound.distinct, List.nodup_singleton _, ?_⟩
      intro number member last isLast same
      obtain ⟨entry, inside, here⟩ := List.mem_map.mp member
      have below := sound.number_lt inside
      cases List.mem_singleton.mp isLast
      omega
  case known =>
      intro index gone
      have below := sound.known index gone
      simp only [List.length_append, List.length_singleton]
      omega

theorem dequeue_empty {fuel : Nat} (empty : queue.entries = []) :
    dequeueDelayRead fuel queue.links = none := by
  have head := queue.head_eq
  rw [empty] at head
  simp only [dequeueDelayRead, Links.pop, head, List.head?_nil, Option.map_none]

/-- What a dequeue does to a queue and its history. -/
theorem Line.Sound.dequeued (sound : line.Sound queue)
    (taken : line.step .dequeue = some next) :
    ∃ (chosen : Nat × CowBio) (queue' : LinkedQueue CowBio),
      Dequeued queue.entries chosen queue'.entries ∧
      next = { line with
        links := queue'.links
        left := line.left ++ [line.number chosen.1] } := by
  obtain ⟨result, ran, same⟩ := Option.map_eq_some_iff.mp taken
  rw [← sound.links] at ran
  have filled : queue.entries ≠ [] := by
    intro empty
    rw [dequeue_empty empty] at ran
    contradiction
  obtain ⟨chosen, rest, ran', dequeued, _⟩ := dequeue_spec filled sound.length_le
  cases ran'.symm.trans ran
  exact ⟨chosen, rest.free chosen.1 (dequeued.apart queue.distinct), dequeued, same.symm⟩

/-- Who was in the queue before a dequeue: the bio that left and the ones that are still in it. -/
theorem BioQueue.Dequeued.mem_iff {entries rest : List (Nat × CowBio)} {chosen : Nat × CowBio}
    (dequeued : Dequeued entries chosen rest) (entry : Nat × CowBio) :
    entry ∈ entries ↔ entry = chosen ∨ entry ∈ rest :=
  dequeued.perm.mem_iff.trans List.mem_cons

/-- The writes that stay keep their order. -/
theorem BioQueue.Dequeued.pairwise {entries rest : List (Nat × CowBio)} {chosen : Nat × CowBio}
    {R : Nat × CowBio → Nat × CowBio → Prop} (dequeued : Dequeued entries chosen rest)
    (sorted : entries.Pairwise fun first second =>
      first.2.isWrite = true → second.2.isWrite = true → R first second) :
    rest.Pairwise fun first second =>
      first.2.isWrite = true → second.2.isWrite = true → R first second := by
  cases dequeued with
  | write => exact (List.pairwise_cons.mp sorted).2
  | read free => exact (List.pairwise_cons.mp sorted).2
  | @delayed addr tmp bio write before after free overlaps =>
      obtain ⟨front, back, across⟩ := List.pairwise_append.mp (List.pairwise_cons.mp sorted).2
      refine List.pairwise_append.mpr ⟨front, List.pairwise_cons.mpr ⟨?_, ?_⟩, ?_⟩
      · exact fun second _ isWrite => absurd isWrite Bool.false_ne_true
      · exact (List.pairwise_cons.mp back).2
      · intro first inside second member
        rcases List.mem_cons.mp member with same | later
        · subst same
          exact fun _ isWrite => absurd isWrite Bool.false_ne_true
        · exact across first inside second (List.mem_cons_of_mem _ later)

/-- The bio that left had a number of its own. -/
theorem Line.Sound.alone (sound : line.Sound queue) {chosen : Nat × CowBio}
    {rest : List (Nat × CowBio)} (dequeued : Dequeued queue.entries chosen rest) :
    (rest.map fun entry => line.number entry.1).Nodup ∧
      ∀ entry ∈ rest, line.number entry.1 ≠ line.number chosen.1 := by
  have distinct := (dequeued.perm.map fun entry => line.number entry.1).nodup_iff.mp sound.distinct
  obtain ⟨alone, distinct⟩ := List.nodup_cons.mp distinct
  exact ⟨distinct, fun entry member same => alone (List.mem_map.mpr ⟨entry, member, same⟩)⟩

theorem Line.Sound.dequeue (sound : line.Sound queue) {chosen : Nat × CowBio}
    {queue' : LinkedQueue CowBio} (dequeued : Dequeued queue.entries chosen queue'.entries) :
    Line.Sound
      { line with
        links := queue'.links
        left := line.left ++ [line.number chosen.1] } queue' := by
  have stays : ∀ entry ∈ queue'.entries, entry ∈ queue.entries :=
    fun entry member => (dequeued.mem_iff entry).mpr (.inr member)
  have leaves : chosen ∈ queue.entries := (dequeued.mem_iff chosen).mpr (.inl rfl)
  obtain ⟨distinct, alone⟩ := sound.alone dequeued
  constructor
  case links => rfl
  case arrived => exact fun entry member => sound.arrived entry (stays entry member)
  case sorted => exact dequeued.pairwise sound.sorted
  case whole =>
      intro index below
      rcases sound.whole index below with gone | ⟨entry, member, same⟩
      · exact .inl (List.mem_append_left _ gone)
      · rcases (dequeued.mem_iff entry).mp member with here | still
        · subst here
          exact .inl (List.mem_append_right _ (by simp [same]))
        · exact .inr ⟨entry, still, same⟩
  case apart =>
      intro entry member gone
      rcases List.mem_append.mp gone with before | last
      · exact sound.apart entry (stays entry member) before
      · exact alone entry member (List.mem_singleton.mp last)
  case distinct => exact distinct
  case known =>
      intro index gone
      rcases List.mem_append.mp gone with before | last
      · exact sound.known index before
      · rw [List.mem_singleton.mp last]
        exact sound.number_lt leaves

theorem CowBio.shares_writes {first second : CowBio} (shares : first.shares second = true) :
    first.isWrite = true ∧ second.isWrite = true := by
  cases first <;> cases second <;> first | exact ⟨rfl, rfl⟩ | contradiction

theorem takenInTurn_delayed {bio : ReadBio} {write : WriteBio} {before after : List CowBio}
    (free : ∀ other ∈ before, delays bio other = false) (overlaps : bioOverlap bio write = true) :
    takenInTurn (.read bio :: (before ++ .write write :: after)) = true ↔
      ∀ passed ∈ before, passed.shares (.write write) = false := by
  have hits : delays bio (.write write) = true := overlaps
  have first : (before ++ .write write :: after).find? (delays bio) = some (.write write) := by
    refine List.find?_eq_some_iff_append.mpr ⟨hits, before, after, rfl, ?_⟩
    exact fun other member => by rw [free other member, Bool.not_false]
  have passed : ((before ++ .write write :: after).takeWhile fun other => !delays bio other) =
      before := by
    rw [List.takeWhile_append_of_pos fun other member => by rw [free other member, Bool.not_false],
      List.takeWhile_cons_of_neg (by simp [hits]), List.append_nil]
  simp only [takenInTurn, first, passed, Option.all_some, List.all_eq_true, Bool.not_eq_true']

/-- A bio is taken in turn when those that stay and have a sector in common with it came
later. -/
theorem BioQueue.Dequeued.inTurn_iff {entries rest : List (Nat × CowBio)} {chosen : Nat × CowBio}
    {number : Nat → Nat} (dequeued : Dequeued entries chosen rest)
    (sorted : entries.Pairwise fun first second =>
      first.2.isWrite = true → second.2.isWrite = true → number first.1 < number second.1) :
    takenInTurn (entries.map Prod.snd) = true ↔
      ∀ entry ∈ rest, entry.2.shares chosen.2 = true → number chosen.1 < number entry.1 := by
  cases dequeued with
  | write =>
      refine iff_of_true rfl fun entry member shares => ?_
      obtain ⟨left, right⟩ := CowBio.shares_writes shares
      exact (List.pairwise_cons.mp sorted).1 entry member right left
  | @read addr bio rest free =>
      refine iff_of_true ?_ fun entry member shares => ?_
      · have none : (rest.map Prod.snd).find? (delays bio) = none := by
          refine List.find?_eq_none.mpr fun other member => ?_
          obtain ⟨entry, inside, same⟩ := List.mem_map.mp member
          rw [← same, free entry inside]
          exact Bool.false_ne_true
        simp only [List.map_cons, takenInTurn, none, Option.all_none]
      · exact absurd (CowBio.shares_writes shares).2 Bool.false_ne_true
  | @delayed addr tmp bio write before after free overlaps =>
      obtain ⟨_, back, across⟩ := List.pairwise_append.mp (List.pairwise_cons.mp sorted).2
      rw [List.map_cons, List.map_append, List.map_cons,
        takenInTurn_delayed (List.forall_mem_map.mpr free) overlaps, List.forall_mem_map]
      constructor
      · intro apart entry member shares
        obtain ⟨left, right⟩ := CowBio.shares_writes shares
        rcases List.mem_append.mp member with inside | later
        · rw [apart entry inside] at shares
          contradiction
        · rcases List.mem_cons.mp later with same | later
          · rw [same] at left
            contradiction
          · exact (List.pairwise_cons.mp back).1 entry later right left
      · intro ordered entry inside
        by_contra shares
        have shares : entry.2.shares (.write write) = true := by simpa using shares
        obtain ⟨left, right⟩ := CowBio.shares_writes shares
        have passed := across entry inside _ List.mem_cons_self left right
        have behind := ordered entry (List.mem_append_left _ inside) shares
        exact Nat.lt_asymm passed behind

/-- A new bio changes nothing about the ones that left. -/
theorem Line.Sound.inOrder_add (sound : line.Sound queue) (bio : CowBio) (links : Links CowBio)
    (number : Nat → Nat) :
    Line.InOrder
      { links := links
        arrivals := line.arrivals ++ [bio]
        number := number
        left := line.left } ↔ line.InOrder := by
  have old : ∀ {earlier later place : Nat}, earlier < later → line.left[place]? = some later →
      (line.arrivals ++ [bio])[earlier]? = line.arrivals[earlier]? ∧
        (line.arrivals ++ [bio])[later]? = line.arrivals[later]? := by
    intro earlier later place before gone
    have below := sound.known later (List.mem_of_getElem? gone)
    exact ⟨List.getElem?_append_left (before.trans below), List.getElem?_append_left below⟩
  constructor
  · intro ordered earlier later before first second here there shares place gone
    obtain ⟨same, same'⟩ := old before gone
    exact ordered earlier later before first second (same.trans here) (same'.trans there) shares
      place gone
  · intro ordered earlier later before first second here there shares place gone
    obtain ⟨same, same'⟩ := old before gone
    exact ordered earlier later before first second (same.symm.trans here)
      (same'.symm.trans there) shares place gone

theorem Line.Sound.inOrder_dequeue (sound : line.Sound queue) {chosen : Nat × CowBio}
    {queue' : LinkedQueue CowBio} (dequeued : Dequeued queue.entries chosen queue'.entries) :
    Line.InOrder
      { line with
        links := queue'.links
        left := line.left ++ [line.number chosen.1] } ↔
      line.InOrder ∧ takenInTurn line.bios = true := by
  have leaves : chosen ∈ queue.entries := (dequeued.mem_iff chosen).mpr (.inl rfl)
  have turn := dequeued.inTurn_iff sound.sorted
  rw [sound.bios]
  unfold LinkedQueue.values
  rw [turn]
  constructor
  · intro ordered
    constructor
    · intro earlier later before first second here there shares place gone
      have bound : place < line.left.length := (List.getElem?_eq_some_iff.mp gone).1
      have still : (line.left ++ [line.number chosen.1])[place]? = some later := by
        rw [List.getElem?_append_left bound]
        exact gone
      have found := ordered earlier later before first second here there shares place still
      rwa [List.take_append_of_le_length (Nat.le_of_lt bound)] at found
    · intro entry member shares
      have inside := (dequeued.mem_iff entry).mpr (.inr member)
      by_contra late
      have other := (sound.alone dequeued).2 entry member
      have found := ordered (line.number entry.1) (line.number chosen.1) (by omega) entry.2 chosen.2
        (sound.arrived entry inside) (sound.arrived chosen leaves) shares line.left.length (by simp)
      rw [List.take_left] at found
      exact sound.apart entry inside found
  · intro holds earlier later before first second here there shares place gone
    obtain ⟨ordered, turn⟩ := holds
    by_cases old : place < line.left.length
    · rw [List.getElem?_append_left old] at gone
      rw [List.take_append_of_le_length (Nat.le_of_lt old)]
      exact ordered earlier later before first second here there shares place gone
    · have last : place = line.left.length := by
        have bound := (List.getElem?_eq_some_iff.mp gone).1
        simp only [List.length_append, List.length_singleton] at bound
        omega
      subst last
      have same : line.number chosen.1 = later := by simpa using gone
      rw [List.take_left]
      rcases sound.whole earlier (before.trans (same ▸ sound.number_lt leaves)) with
        left | ⟨entry, member, named⟩
      · exact left
      · have known := sound.arrived entry member
        rw [named, here] at known
        have known' := sound.arrived chosen leaves
        rw [same, there] at known'
        cases known
        cases known'
        rcases (dequeued.mem_iff entry).mp member with taken | stays
        · rw [taken] at named
          omega
        · have behind := turn entry stays shares
          omega

/-- Every state of a run is a queue with its history. -/
theorem Line.Sound.step (sound : line.Sound queue) {event : QueueEvent}
    (taken : line.step event = some next) :
    next.Proper ∧
      (next.InOrder ↔ line.InOrder ∧ event.inTurn line = true) := by
  cases event with
  | add addr bio =>
      simp only [Line.step] at taken
      split at taken
      · rename_i free
        cases taken
        have fresh : queue.Fresh addr := by
          unfold LinkedQueue.Fresh
          rw [sound.links]
          exact Option.isNone_iff_eq_none.mp free
        refine ⟨⟨_, sound.add bio fresh⟩, ?_⟩
        rw [sound.inOrder_add]
        exact (and_iff_left rfl).symm
      · contradiction
  | dequeue =>
      obtain ⟨chosen, queue', dequeued, same⟩ := sound.dequeued taken
      subst same
      exact ⟨⟨queue', sound.dequeue dequeued⟩, sound.inOrder_dequeue dequeued⟩

theorem Line.Sound.fresh : Line.fresh.Sound .empty where
  links := rfl
  arrived := by simp [LinkedQueue.empty]
  sorted := .nil
  whole := by simp [Line.fresh]
  apart := by simp [LinkedQueue.empty]
  distinct := .nil
  known := by simp [Line.fresh]

theorem Line.proper_of_reaches (reached : Reachable Line.step .fresh line) : line.Proper := by
  refine reached.invariant ⟨_, Line.Sound.fresh⟩ ?_
  intro before event after sound _ taken
  obtain ⟨queue, sound⟩ := sound
  exact (sound.step taken).1

/-- Writes with a sector in common leave the queue in the order in which they were added
exactly when every dequeue of the run takes its bio in turn. -/
theorem writes_leave_in_order_iff (reached : Reachable Line.step .fresh line) :
    line.InOrder ↔
      Reaches Line.step (fun line event => event.inTurn line = true) .fresh line := by
  constructor
  · intro ordered
    induction reached with
    | refl => exact .refl
    | next reached _ taken ih =>
        obtain ⟨queue, sound⟩ := Line.proper_of_reaches reached
        obtain ⟨earlier, turn⟩ := (sound.step taken).2.mp ordered
        exact .next (ih earlier) turn taken
  · intro inTurn
    induction inTurn with
    | refl => exact fun earlier later before first second here => by simp [Line.fresh] at here
    | next inTurn turn taken ih =>
        have reached : Reachable Line.step .fresh _ := inTurn.weaken fun _ _ _ => trivial
        obtain ⟨queue, sound⟩ := Line.proper_of_reaches reached
        exact (sound.step taken).2.mpr ⟨ih reached, turn⟩

/-- A read that waits for the second of two writes with a sector in common. -/
def crossing : List QueueEvent :=
  [.add 1 (.read lateRead), .add 2 (.write firstWrite), .add 3 (.write secondWrite)]

/-- With the read behind the writes they leave in order. -/
theorem writes_leave_in_order_iff_behind :
    ∃ line, Reachable Line.step .fresh line ∧ line.left = [0, 1, 2] ∧ line.InOrder := by
  have ran : (run (checked Line.step fun line event => event.inTurn line = true) .fresh
      [.add 2 (.write firstWrite), .add 3 (.write secondWrite), .add 1 (.read lateRead),
        .dequeue, .dequeue, .dequeue]).any (fun line => line.left = [0, 1, 2]) = true := by
    decide +kernel
  obtain ⟨line, reached, ended⟩ := Reaches.of_evaluated ran
  have reachable : Reachable Line.step .fresh line := reached.weaken fun _ _ _ => trivial
  exact ⟨line, reachable, of_decide_eq_true ended,
    (writes_leave_in_order_iff reachable).mpr reached⟩

/-- The delayed read lets the second write pass the first one. -/
theorem writes_leave_in_order_crossing :
    ∃ line, Reachable Line.step .fresh line ∧
      line.arrivals = [.read lateRead, .write firstWrite, .write secondWrite] ∧
      firstWrite.shares secondWrite = true ∧ line.left = [2, 1] ∧ ¬ line.InOrder := by
  have ran : run Line.step .fresh (crossing ++ [.dequeue, .dequeue]) =
      some ((run Line.step .fresh (crossing ++ [.dequeue, .dequeue])).getD .fresh) := rfl
  refine ⟨_, .of_run ran, rfl, by decide, rfl, fun ordered => ?_⟩
  have found := ordered 1 2 (by decide) (.write firstWrite) (.write secondWrite) rfl rfl
    (by decide) 0 rfl
  exact List.not_mem_nil found

end Moocbt.Device
