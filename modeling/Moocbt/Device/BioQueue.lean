import Moocbt.Data.LinkedQueue
import Moocbt.Device.Bios
import Moocbt.Logic.Transition

/-! `sd_cow_bios` in memory: the bios are linked through `bi_next`, and a read that has to
wait takes the place of the write it waits for. -/

namespace Moocbt.Device

open LinkedQueue

/-- A write that a read has to wait for. -/
def delays (read : ReadBio) : CowBio → Bool
  | .write bio => bioOverlap read bio
  | .read _ => false

namespace BioQueue

/-- The read at `addr` gives way to the write that was found, or is returned itself. -/
def giveWay (addr : Nat) (read : ReadBio) (links : Links CowBio) :
    Option (Option Nat × Nat × CowBio) → (Nat × CowBio) × Links CowBio
  | none => ((addr, .read read), links)
  | some (prev, tmp, write) => ((tmp, write), links.exchange prev tmp addr)

/-- `bio_queue_dequeue_delay_read`, with the bio it returns. There is no result for an empty
queue, whose head is used as it is. -/
def dequeueDelayRead (fuel : Nat) (links : Links CowBio) :
    Option ((Nat × CowBio) × Links CowBio) :=
  match links.pop with
  | (none, _) => none
  | (some (addr, .write bio), links) => some ((addr, .write bio), links)
  | (some (addr, .read bio), links) =>
      (Links.search links.cells (delays bio) fuel none links.head).map (giveWay addr bio links)

/-- How a bio leaves a queue of bios with their addresses. -/
inductive Dequeued : List (Nat × CowBio) → Nat × CowBio → List (Nat × CowBio) → Prop
  | write {addr : Nat} {bio : WriteBio} {rest : List (Nat × CowBio)} :
      Dequeued ((addr, .write bio) :: rest) (addr, .write bio) rest
  | read {addr : Nat} {bio : ReadBio} {rest : List (Nat × CowBio)} :
      (∀ entry ∈ rest, delays bio entry.2 = false) →
      Dequeued ((addr, .read bio) :: rest) (addr, .read bio) rest
  | delayed {addr tmp : Nat} {bio : ReadBio} {write : WriteBio}
      {before after : List (Nat × CowBio)} :
      (∀ entry ∈ before, delays bio entry.2 = false) → bioOverlap bio write = true →
      Dequeued ((addr, .read bio) :: (before ++ (tmp, .write write) :: after))
        (tmp, .write write) (before ++ (addr, .read bio) :: after)

variable {queue : LinkedQueue CowBio} {fuel : Nat}

theorem dequeue_read {addr : Nat} {bio : ReadBio} {rest : List (Nat × CowBio)}
    (found : queue.entries = (addr, .read bio) :: rest) (enough : queue.entries.length ≤ fuel) :
    ∃ (chosen : Nat × CowBio) (next : LinkedQueue CowBio),
      dequeueDelayRead fuel queue.links = some (chosen, next.links) ∧
      Dequeued queue.entries chosen next.entries ∧
      (next.links.cells chosen.1).bind Cell.next = none := by
  have distinct := queue.distinct
  obtain ⟨onward, _, popped⟩ := queue.pop_links found
  have links : queue.pop.2.links = queue.links.pop.2 := rfl
  have entries : queue.pop.2.entries = rest := congrArg List.tail found
  subst entries
  rw [found] at enough
  rw [found, List.map_cons, List.nodup_cons] at distinct
  have short : queue.pop.2.entries.length < fuel := enough
  have stored : queue.pop.2.links.cells addr = some ⟨none, .read bio⟩ := by
    rw [links, popped]
    exact Function.update_self ..
  have runs : dequeueDelayRead fuel queue.links =
      (Links.search queue.pop.2.links.cells (delays bio) fuel none queue.pop.2.links.head).map
        (giveWay addr bio queue.pop.2.links) := by
    unfold dequeueDelayRead
    rw [links, popped]
  rw [found, runs]
  cases first : queue.pop.2.entries.find? fun entry => delays bio entry.2 with
  | none =>
      have free : ∀ entry ∈ queue.pop.2.entries, delays bio entry.2 = false := by
        simpa using List.find?_eq_none.mp first
      rw [queue.pop.2.linked.search_none (by omega) free]
      exact ⟨_, queue.pop.2, rfl, .read free, by simp [stored]⟩
  | some entry =>
      obtain ⟨hits, before, after, split, none⟩ := List.find?_eq_some_iff_append.mp first
      obtain ⟨tmp, value⟩ := entry
      cases value with
      | read other => contradiction
      | write write =>
          have free : ∀ entry ∈ before, delays bio entry.2 = false := by simpa using none
          have linked := queue.pop.2.linked
          rw [split] at linked
          rw [split, List.length_append] at short
          rw [linked.search_some (by omega) free hits]
          refine ⟨(tmp, .write write), queue.pop.2.exchange split distinct.1 stored, ?_, ?_, ?_⟩
          · rw [Option.or_none]
            rfl
          · change Dequeued _ _ (before ++ (addr, .read bio) :: after)
            rw [split]
            exact .delayed free hits
          · exact Links.exchange_old

/-- Every bio queue but the empty one gives up a bio and stays a queue. -/
theorem dequeue_spec (filled : queue.entries ≠ []) (enough : queue.entries.length ≤ fuel) :
    ∃ (chosen : Nat × CowBio) (next : LinkedQueue CowBio),
      dequeueDelayRead fuel queue.links = some (chosen, next.links) ∧
      Dequeued queue.entries chosen next.entries ∧
      (next.links.cells chosen.1).bind Cell.next = none := by
  cases found : queue.entries with
  | nil => exact absurd found filled
  | cons entry rest =>
      obtain ⟨addr, value⟩ := entry
      cases value with
      | read bio =>
          rw [← found]
          exact dequeue_read found enough
      | write bio =>
          obtain ⟨onward, _, popped⟩ := queue.pop_links found
          have entries : queue.pop.2.entries = rest := congrArg List.tail found
          refine ⟨(addr, .write bio), queue.pop.2, ?_, entries ▸ .write, ?_⟩
          · unfold dequeueDelayRead
            rw [popped]
            exact congrArg (fun links => some ((addr, CowBio.write bio), links))
              (congrArg Prod.snd popped).symm
          · change (queue.links.pop.2.cells addr).bind Cell.next = none
            simp [popped]

theorem delayBehind_none_of_free {bio : ReadBio} {bios : List CowBio}
    (free : ∀ other ∈ bios, delays bio other = false) : delayBehind bio bios = none := by
  induction bios with
  | nil => rfl
  | cons other bios ih =>
      have later := ih fun other member => free other (List.mem_cons_of_mem _ member)
      have here := free other List.mem_cons_self
      cases other with
      | read other => simp only [delayBehind, later, Option.map_none]
      | write other =>
          have apart : bioOverlap bio other = false := here
          simp only [delayBehind, apart, later, Bool.false_eq_true, if_false, Option.map_none]

theorem delayBehind_first {bio : ReadBio} {write : WriteBio} {before after : List CowBio}
    (free : ∀ other ∈ before, delays bio other = false) (overlaps : bioOverlap bio write = true) :
    delayBehind bio (before ++ .write write :: after) =
      some (write, before ++ .read bio :: after) := by
  induction before with
  | nil => simp only [List.nil_append, delayBehind, overlaps, if_true]
  | cons other before ih =>
      have later := ih fun other member => free other (List.mem_cons_of_mem _ member)
      have here := free other List.mem_cons_self
      cases other with
      | read other => simp only [List.cons_append, delayBehind, later, Option.map_some]
      | write other =>
          have apart : bioOverlap bio other = false := here
          simp only [List.cons_append, delayBehind, apart, later, Bool.false_eq_true, if_false,
            Option.map_some]

theorem Dequeued.perm {entries rest : List (Nat × CowBio)} {chosen : Nat × CowBio}
    (dequeued : Dequeued entries chosen rest) : entries.Perm (chosen :: rest) := by
  cases dequeued with
  | write => exact .refl _
  | read free => exact .refl _
  | @delayed addr tmp bio write before after free overlaps =>
      have front : ((addr, CowBio.read bio) :: (before ++ (tmp, .write write) :: after)).Perm
          ((addr, .read bio) :: (tmp, .write write) :: (before ++ after)) :=
        .cons _ List.perm_middle
      have back : ((addr, CowBio.read bio) :: (before ++ after)).Perm
          (before ++ (addr, .read bio) :: after) := List.perm_middle.symm
      exact front.trans ((List.Perm.swap ..).trans (back.cons _))

theorem Dequeued.apart {entries rest : List (Nat × CowBio)} {chosen : Nat × CowBio}
    (dequeued : Dequeued entries chosen rest) (distinct : (entries.map Prod.fst).Nodup) :
    chosen.1 ∉ rest.map Prod.fst := by
  have moved := (dequeued.perm.map Prod.fst).nodup_iff.mp distinct
  exact (List.nodup_cons.mp moved).1

theorem Dequeued.read_free {entries rest : List (Nat × CowBio)} {chosen : Nat × CowBio}
    (dequeued : Dequeued entries chosen rest) (bio : ReadBio) (same : chosen.2 = .read bio)
    (write : WriteBio) (member : .write write ∈ rest.map Prod.snd) :
    bioOverlap bio write = false := by
  cases dequeued with
  | write => contradiction
  | read free =>
      cases same
      obtain ⟨entry, inside, here⟩ := List.mem_map.mp member
      have apart := free entry inside
      rw [here] at apart
      exact apart
  | delayed free overlaps => contradiction

/-- What the queue does to the contents alone. -/
theorem Dequeued.values {entries rest : List (Nat × CowBio)} {chosen : Nat × CowBio}
    (dequeued : Dequeued entries chosen rest) :
    bioQueueDequeueDelayRead (entries.map Prod.snd) = some (chosen.2, rest.map Prod.snd) := by
  cases dequeued with
  | write => rfl
  | read free =>
      have nothing := delayBehind_none_of_free (List.forall_mem_map.mpr free)
      simp only [List.map_cons, bioQueueDequeueDelayRead, nothing]
  | @delayed addr tmp bio write before after free overlaps =>
      have first := @delayBehind_first bio write (before.map Prod.snd) (after.map Prod.snd)
        (List.forall_mem_map.mpr free) overlaps
      simp only [List.map_cons, List.map_append, bioQueueDequeueDelayRead, first]

end BioQueue

/-- A call of `bio_queue_add` or of `bio_queue_dequeue_delay_read`. -/
inductive QueueEvent where
  | add (addr : Nat) (bio : CowBio)
  | dequeue

def QueueEvent.adds (read : ReadBio) : QueueEvent → Bool
  | .add _ bio => delays read bio
  | .dequeue => false

namespace BioQueue

/-- How often the read at an address is put back in a sequence of calls, until it is returned.
A bio is added at an address that is not in use, and released once it was returned. -/
def putBacks (fuel addr : Nat) : Links CowBio → List QueueEvent → Nat
  | _, [] => 0
  | links, .add other bio :: rest =>
      if (links.cells other).isNone then putBacks fuel addr (links.add other bio) rest else 0
  | links, .dequeue :: rest =>
      match dequeueDelayRead fuel links with
      | none => 0
      | some (chosen, next) =>
          if chosen.1 = addr then 0
          else (if links.head = some addr then 1 else 0) +
            putBacks fuel addr (next.free chosen.1) rest

/-- The writes of a queue that a read has to wait for. -/
def waits (read : ReadBio) (entries : List (Nat × CowBio)) : Nat :=
  entries.countP fun entry => delays read entry.2

theorem waits_append (read : ReadBio) (before after : List (Nat × CowBio)) :
    waits read (before ++ after) = waits read before + waits read after := List.countP_append

theorem waits_cons (read : ReadBio) (entry : Nat × CowBio) (rest : List (Nat × CowBio)) :
    waits read (entry :: rest) = waits read rest + if delays read entry.2 then 1 else 0 :=
  List.countP_cons

/-- A bio in the queue is the only one at its address. -/
theorem eq_of_address {entries : List (Nat × CowBio)} (distinct : (entries.map Prod.fst).Nodup)
    {addr : Nat} {first second : CowBio} (here : (addr, first) ∈ entries)
    (there : (addr, second) ∈ entries) : first = second :=
  congrArg Prod.snd (List.inj_on_of_nodup_map distinct here there rfl)

/-- A read that is put back takes the place of a write it waits for. -/
theorem Dequeued.keeps {entries rest : List (Nat × CowBio)} {chosen : Nat × CowBio} {addr : Nat}
    {bio : ReadBio} (dequeued : Dequeued entries chosen rest)
    (distinct : (entries.map Prod.fst).Nodup) (member : (addr, CowBio.read bio) ∈ entries)
    (stays : chosen.1 ≠ addr) :
    (addr, .read bio) ∈ rest ∧
      waits bio rest + (if entries.head?.map Prod.fst = some addr then 1 else 0) ≤
        waits bio entries := by
  cases dequeued with
  | write =>
      rcases List.mem_cons.mp member with same | later
      · cases same
      · refine ⟨later, ?_⟩
        rw [waits_cons]
        simp only [List.head?_cons, Option.map_some, Option.some.injEq, stays, if_false]
        omega
  | read free =>
      rcases List.mem_cons.mp member with same | later
      · cases same
        exact absurd rfl stays
      · refine ⟨later, ?_⟩
        rw [waits_cons]
        simp only [List.head?_cons, Option.map_some, Option.some.injEq, stays, if_false]
        omega
  | @delayed first tmp read write before after free overlaps =>
      have kept : (addr, CowBio.read bio) ∈ before ++ (first, .read read) :: after := by
        rcases List.mem_cons.mp member with same | later
        · rw [same]
          exact List.mem_append_right _ List.mem_cons_self
        · rcases List.mem_append.mp later with inside | inside
          · exact List.mem_append_left _ inside
          · rcases List.mem_cons.mp inside with same | inside
            · cases same
            · exact List.mem_append_right _ (List.mem_cons_of_mem _ inside)
      refine ⟨kept, ?_⟩
      have passive : delays bio (.read read) = false := rfl
      simp only [waits_cons, waits_append, passive, Bool.false_eq_true, if_false, List.head?_cons,
        Option.map_some, Option.some.injEq]
      by_cases here : first = addr
      · subst here
        have same := eq_of_address distinct member List.mem_cons_self
        cases same
        have waited : delays bio (.write write) = true := overlaps
        simp only [waited, if_true]
        omega
      · simp only [here, if_false]
        omega

theorem putBacks_le {queue : LinkedQueue CowBio} {addr fuel : Nat} {bio : ReadBio}
    {events : List QueueEvent} (member : (addr, CowBio.read bio) ∈ queue.entries)
    (enough : queue.entries.length + events.length ≤ fuel) :
    putBacks fuel addr queue.links events ≤
      waits bio queue.entries + events.countP (QueueEvent.adds bio) := by
  induction events generalizing queue with
  | nil => exact Nat.zero_le _
  | cons event rest ih =>
      simp only [List.length_cons] at enough
      rw [List.countP_cons]
      cases event with
      | add other added =>
          simp only [putBacks]
          split
          · rename_i free
            have fresh : queue.Fresh other := Option.isNone_iff_eq_none.mp free
            have later := @ih (queue.add other added fresh) (List.mem_append_left _ member)
              (by simp only [LinkedQueue.add, List.length_append, List.length_singleton]; omega)
            refine later.trans (Nat.le_of_eq ?_)
            have grown : waits bio (queue.add other added fresh).entries =
                waits bio queue.entries + if delays bio added then 1 else 0 := by
              simp only [LinkedQueue.add, waits_append, waits_cons]
              rw [show waits bio [] = 0 from rfl, Nat.zero_add]
            rw [grown]
            change _ = waits bio queue.entries +
              (rest.countP (QueueEvent.adds bio) + if delays bio added then 1 else 0)
            omega
          · exact Nat.zero_le _
      | dequeue =>
          obtain ⟨chosen, next, ran, dequeued, _⟩ :=
            dequeue_spec (List.ne_nil_of_mem member) (Nat.le_of_add_right_le enough)
          simp only [putBacks, ran]
          split
          · exact Nat.zero_le _
          · rename_i stays
            obtain ⟨kept, fewer⟩ := dequeued.keeps queue.distinct member stays
            have length := dequeued.perm.length_eq
            rw [List.length_cons] at length
            have later := @ih (next.free chosen.1 (dequeued.apart queue.distinct)) kept
              (by simp only [LinkedQueue.free]; omega)
            rw [queue.head_eq]
            change putBacks fuel addr (next.links.free chosen.1) rest ≤
              waits bio next.entries + _ at later
            simp only [QueueEvent.adds, Bool.false_eq_true, if_false]
            omega

/-- `bio_queue_dequeue_delay_read` loses nothing: of every queue that is not empty it returns
a bio and leaves a queue of the others. From any state on, and so from the one in which it
first is at the head, a read is put back once at most for each write in the queue or added
later that it waits for. -/
theorem delayed_read_loses_nothing (queue : LinkedQueue CowBio) :
    (queue.entries ≠ [] → ∀ fuel, queue.entries.length ≤ fuel →
      ∃ (chosen : Nat × CowBio) (next : LinkedQueue CowBio),
        dequeueDelayRead fuel queue.links = some (chosen, next.links) ∧
        Dequeued queue.entries chosen next.entries ∧
        (next.links.cells chosen.1).bind Cell.next = none ∧
        ∀ bio, chosen.2 = .read bio → ∀ write, (.write write) ∈ next.values →
          bioOverlap bio write = false) ∧
    ∀ addr bio, (addr, .read bio) ∈ queue.entries →
      ∀ events fuel, queue.entries.length + events.length ≤ fuel →
        putBacks fuel addr queue.links events ≤
          waits bio queue.entries + events.countP (QueueEvent.adds bio) := by
  refine ⟨fun filled fuel enough => ?_, fun addr bio member events fuel enough => ?_⟩
  · obtain ⟨chosen, next, ran, dequeued, unlinked⟩ := dequeue_spec filled enough
    exact ⟨chosen, next, ran, dequeued, unlinked, dequeued.read_free⟩
  · exact putBacks_le member enough

/-- A read of one block that overlaps the second of two writes. -/
def lateRead : ReadBio := ⟨24, [4096]⟩

def firstWrite : WriteBio := ⟨0, [⟨8192, fun _ => 1⟩]⟩

def secondWrite : WriteBio := ⟨8, [⟨12288, fun _ => 2⟩]⟩

/-- The read behind the writes it was added before, at the addresses 1, 2 and 3. -/
def threeBios : LinkedQueue CowBio :=
  ((LinkedQueue.empty.add 1 (.read lateRead) rfl).add 2 (.write firstWrite) rfl).add 3
    (.write secondWrite) rfl

theorem delayed_read_loses_nothing_three :
    (∃ (chosen : Nat × CowBio) (next : LinkedQueue CowBio),
      dequeueDelayRead 3 threeBios.links = some (chosen, next.links) ∧
      Dequeued threeBios.entries chosen next.entries) ∧
    putBacks 6 1 threeBios.links [.dequeue, .dequeue, .dequeue] ≤ 1 := by
  have laws := delayed_read_loses_nothing threeBios
  constructor
  · obtain ⟨chosen, next, ran, dequeued, _⟩ := laws.1 (by simp [threeBios, LinkedQueue.add]) 3
      (by simp [threeBios, LinkedQueue.add, LinkedQueue.empty])
    exact ⟨chosen, next, ran, dequeued⟩
  · exact laws.2 1 lateRead (by simp [threeBios, LinkedQueue.add]) [.dequeue, .dequeue, .dequeue] 6
      (by simp [threeBios, LinkedQueue.add, LinkedQueue.empty])

example : putBacks 6 1 threeBios.links [.dequeue, .dequeue, .dequeue] = 1 := by decide +kernel

end BioQueue

end Moocbt.Device
