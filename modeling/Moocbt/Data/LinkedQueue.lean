import Mathlib.Logic.Function.Basic
import Mathlib.Data.List.Nodup

/-! Singly linked queues whose links are stored in the elements themselves, with
a head and a tail pointer. -/

namespace LinkedQueue

variable {α : Type}

/-- An element in memory: its link and its contents. -/
structure Cell (α : Type) where
  next : Option Nat
  value : α

/-- The memory that holds the elements, and the two ends of the queue. -/
structure Links (α : Type) where
  cells : Nat → Option (Cell α)
  head : Option Nat
  tail : Option Nat

namespace Links

def empty : Links α := ⟨fun _ => none, none, none⟩

/-- Allocate an element at an address and link it in behind the tail. -/
def add (links : Links α) (addr : Nat) (value : α) : Links α :=
  let cells := Function.update links.cells addr (some ⟨none, value⟩)
  match links.tail with
  | none => ⟨cells, some addr, some addr⟩
  | some last =>
      ⟨Function.update cells last ((cells last).map fun cell => { cell with next := some addr }),
        links.head, some addr⟩

/-- Unlink the element at the head; its memory is still allocated. -/
def pop (links : Links α) : Option (Nat × α) × Links α :=
  match links.head with
  | none => (none, links)
  | some addr =>
    match links.cells addr with
    | none => (none, links)
    | some cell =>
        (some (addr, cell.value),
          ⟨Function.update links.cells addr (some { cell with next := none }), cell.next,
            if cell.next.isNone then none else links.tail⟩)

def free (links : Links α) (addr : Nat) : Links α :=
  { links with cells := Function.update links.cells addr none }

/-- Walk along the links to the first element that `hit` accepts, and keep the element
before it. There is no result when a link leads nowhere or the fuel runs out. -/
def search (cells : Nat → Option (Cell α)) (hit : α → Bool) :
    Nat → Option Nat → Option Nat → Option (Option (Option Nat × Nat × α))
  | _, _, none => some none
  | 0, _, some _ => none
  | fuel + 1, prev, some addr =>
      match cells addr with
      | none => none
      | some cell =>
          if hit cell.value then some (some (prev, addr, cell.value))
          else search cells hit fuel (some addr) cell.next

/-- The elements that the links run through, with their addresses. -/
def walk (cells : Nat → Option (Cell α)) : Nat → Option Nat → List (Nat × α)
  | 0, _ => []
  | _ + 1, none => []
  | fuel + 1, some addr =>
      match cells addr with
      | none => []
      | some cell => (addr, cell.value) :: walk cells fuel cell.next

def setNext (cells : Nat → Option (Cell α)) (addr : Nat) (link : Option Nat) :
    Nat → Option (Cell α) :=
  Function.update cells addr ((cells addr).map fun cell => { cell with next := link })

/-- Link `new` in where `old` is, which follows `prev` or is the first. -/
def exchange (links : Links α) (prev : Option Nat) (old new : Nat) : Links α :=
  let cells := prev.elim links.cells fun addr => setNext links.cells addr (some new)
  let cells := setNext cells new ((cells old).bind Cell.next)
  ⟨setNext cells old none, if prev.isNone then some new else links.head,
    if links.tail = some old then some new else links.tail⟩

end Links

/-- Following the links from `link` visits exactly the entries. -/
def Linked (cells : Nat → Option (Cell α)) : Option Nat → List (Nat × α) → Prop
  | link, [] => link = none
  | link, (addr, value) :: rest =>
      link = some addr ∧ ∃ next, cells addr = some ⟨next, value⟩ ∧ Linked cells next rest

theorem Linked.of_agree {cells cells' : Nat → Option (Cell α)} {link : Option Nat}
    {entries : List (Nat × α)} (linked : Linked cells link entries)
    (agree : ∀ addr ∈ entries.map Prod.fst, cells' addr = cells addr) :
    Linked cells' link entries := by
  induction entries generalizing link with
  | nil => exact linked
  | cons entry rest ih =>
      obtain ⟨addr, value⟩ := entry
      obtain ⟨here, next, found, linked⟩ := linked
      refine ⟨here, next, ?_, ih linked fun other member => agree other (by simp [member])⟩
      rw [agree addr (by simp)]
      exact found

theorem Linked.update {cells : Nat → Option (Cell α)} {link : Option Nat}
    {entries : List (Nat × α)} (linked : Linked cells link entries) {addr : Nat}
    (apart : addr ∉ entries.map Prod.fst) (cell : Option (Cell α)) :
    Linked (Function.update cells addr cell) link entries := by
  refine linked.of_agree ?_
  intro other member
  refine Function.update_of_ne ?_ _ _
  intro same
  exact apart (same ▸ member)

/-- Linking a new element in before the first one. -/
theorem Linked.push {cells : Nat → Option (Cell α)} {link : Option Nat}
    {entries : List (Nat × α)} {addr : Nat} (linked : Linked cells link entries)
    (apart : addr ∉ entries.map Prod.fst) (value : α) :
    Linked (Function.update cells addr (some ⟨link, value⟩)) (some addr)
      ((addr, value) :: entries) :=
  ⟨rfl, link, Function.update_self .., linked.update apart _⟩

/-- Following the links behind an element. -/
theorem Linked.after {cells : Nat → Option (Cell α)} {link : Option Nat}
    {before rest : List (Nat × α)} {addr : Nat} {value : α}
    (linked : Linked cells link (before ++ (addr, value) :: rest)) :
    ∃ next, cells addr = some ⟨next, value⟩ ∧ Linked cells next rest := by
  induction before generalizing link with
  | nil =>
      obtain ⟨_, next, found, linked⟩ := linked
      exact ⟨next, found, linked⟩
  | cons entry before ih =>
      obtain ⟨_, next, _, linked⟩ := linked
      exact ih linked

/-- Unlinking what follows an element. -/
theorem Linked.cut {cells : Nat → Option (Cell α)} {link : Option Nat}
    {before rest : List (Nat × α)} {addr : Nat} {value : α}
    (linked : Linked cells link (before ++ (addr, value) :: rest))
    (apart : addr ∉ before.map Prod.fst) :
    Linked (Function.update cells addr (some ⟨none, value⟩)) link (before ++ [(addr, value)]) := by
  induction before generalizing link with
  | nil =>
      obtain ⟨here, _⟩ := linked
      exact ⟨here, none, Function.update_self .., rfl⟩
  | cons entry before ih =>
      obtain ⟨first, content⟩ := entry
      obtain ⟨here, next, found, linked⟩ := linked
      simp only [List.map_cons, List.mem_cons, not_or] at apart
      refine ⟨here, next, ?_, ih linked apart.2⟩
      rw [Function.update_of_ne (Ne.symm apart.1)]
      exact found

/-- Linking a new element in behind the last one. -/
theorem Linked.append {cells : Nat → Option (Cell α)} {link : Option Nat}
    {entries : List (Nat × α)} {last addr : Nat} {value : α}
    (linked : Linked cells link entries)
    (distinct : (entries.map Prod.fst).Nodup)
    (tail : entries.getLast?.map Prod.fst = some last)
    (stored : cells addr = some ⟨none, value⟩) (apart : addr ∉ entries.map Prod.fst) :
    Linked
      (Function.update cells last ((cells last).map fun cell => { cell with next := some addr }))
      link (entries ++ [(addr, value)]) := by
  induction entries generalizing link with
  | nil => simp at tail
  | cons entry rest ih =>
      obtain ⟨first, content⟩ := entry
      obtain ⟨here, next, found, linked⟩ := linked
      simp only [List.map_cons, List.nodup_cons, List.mem_cons, not_or] at distinct apart
      obtain ⟨fresh, distinct⟩ := distinct
      refine ⟨here, ?_⟩
      cases rest with
      | nil =>
          have same : first = last := by simpa using tail
          subst same
          refine ⟨some addr, by simp [found], rfl, none, ?_, rfl⟩
          rw [Function.update_of_ne apart.1]
          exact stored
      | cons entry' rest =>
          have tail' : (entry' :: rest).getLast?.map Prod.fst = some last := by
            simpa [List.getLast?_cons_cons] using tail
          have member : last ∈ (entry' :: rest).map Prod.fst := by
            obtain ⟨pair, isLast, same⟩ := Option.map_eq_some_iff.mp tail'
            subst same
            exact List.mem_map_of_mem (List.mem_of_getLast? isLast)
          have other : first ≠ last := by
            intro same
            exact fresh (same ▸ member)
          refine ⟨next, ?_, ih linked distinct tail' apart.2⟩
          rw [Function.update_of_ne other]
          exact found

/-- Another way on behind some first elements, of which only the last one is changed. -/
theorem Linked.reroute {cells cells' : Nat → Option (Cell α)} {link target : Option Nat}
    {before rest rest' : List (Nat × α)} (linked : Linked cells link (before ++ rest))
    (distinct : (before.map Prod.fst).Nodup) (onward : Linked cells' target rest')
    (others : ∀ addr ∈ before.map Prod.fst, before.getLast?.map Prod.fst ≠ some addr →
      cells' addr = cells addr)
    (last : ∀ addr value, before.getLast? = some (addr, value) →
      cells' addr = some ⟨target, value⟩) :
    Linked cells' (if before.isEmpty then target else link) (before ++ rest') := by
  induction before generalizing link with
  | nil => exact onward
  | cons entry before ih =>
      obtain ⟨first, content⟩ := entry
      obtain ⟨here, next, found, linked⟩ := linked
      simp only [List.map_cons, List.nodup_cons] at distinct
      obtain ⟨fresh, distinct⟩ := distinct
      refine ⟨here, ?_⟩
      cases before with
      | nil => exact ⟨target, last first content rfl, onward⟩
      | cons entry' before =>
          have tail : ((first, content) :: entry' :: before).getLast? =
              (entry' :: before).getLast? := List.getLast?_cons_cons
          rw [tail] at others last
          have other : (entry' :: before).getLast?.map Prod.fst ≠ some first := by
            intro same
            obtain ⟨pair, isLast, here⟩ := Option.map_eq_some_iff.mp same
            exact fresh (here ▸ List.mem_map_of_mem (List.mem_of_getLast? isLast))
          refine ⟨next, ?_, ih linked distinct (fun addr member => others addr ?_) last⟩
          · rw [others first List.mem_cons_self other]
            exact found
          · exact List.mem_cons_of_mem _ member

theorem Linked.walk_eq {cells : Nat → Option (Cell α)} {link : Option Nat}
    {entries : List (Nat × α)} (linked : Linked cells link entries) {fuel : Nat}
    (enough : entries.length ≤ fuel) : Links.walk cells fuel link = entries := by
  induction entries generalizing link fuel with
  | nil =>
      have nothing : link = none := linked
      cases fuel <;> simp [Links.walk, nothing]
  | cons entry rest ih =>
      obtain ⟨addr, value⟩ := entry
      obtain ⟨here, next, found, linked⟩ := linked
      cases fuel with
      | zero => simp at enough
      | succ fuel =>
          have shorter : rest.length ≤ fuel := by simpa using enough
          simp only [here, Links.walk, found, ih linked shorter]

/-- The walk ends when no element is accepted. -/
theorem Linked.search_none {cells : Nat → Option (Cell α)} {hit : α → Bool} {link : Option Nat}
    {entries : List (Nat × α)} (linked : Linked cells link entries) {fuel : Nat}
    (enough : entries.length ≤ fuel) (none : ∀ entry ∈ entries, hit entry.2 = false)
    (prev : Option Nat) : Links.search cells hit fuel prev link = some Option.none := by
  induction entries generalizing link fuel prev with
  | nil =>
      have nothing : link = Option.none := linked
      simp only [nothing, Links.search]
  | cons entry rest ih =>
      obtain ⟨addr, value⟩ := entry
      obtain ⟨here, next, found, linked⟩ := linked
      cases fuel with
      | zero => simp at enough
      | succ fuel =>
          have shorter : rest.length ≤ fuel := by simpa using enough
          have misses : hit value = false := none (addr, value) List.mem_cons_self
          simp only [here, Links.search, found, misses, Bool.false_eq_true, if_false]
          exact ih linked shorter (fun entry member => none entry (List.mem_cons_of_mem _ member)) _

/-- The walk stops at the first element that is accepted. -/
theorem Linked.search_some {cells : Nat → Option (Cell α)} {hit : α → Bool} {link : Option Nat}
    {before after : List (Nat × α)} {addr : Nat} {value : α}
    (linked : Linked cells link (before ++ (addr, value) :: after)) {fuel : Nat}
    (enough : before.length < fuel) (none : ∀ entry ∈ before, hit entry.2 = false)
    (hits : hit value = true) (prev : Option Nat) :
    Links.search cells hit fuel prev link =
      some (some ((before.getLast?.map Prod.fst).or prev, addr, value)) := by
  induction before generalizing link fuel prev with
  | nil =>
      obtain ⟨here, next, found, _⟩ := linked
      cases fuel with
      | zero => simp at enough
      | succ fuel => simp [here, Links.search, found, hits]
  | cons entry before ih =>
      obtain ⟨first, content⟩ := entry
      obtain ⟨here, next, found, linked⟩ := linked
      cases fuel with
      | zero => simp at enough
      | succ fuel =>
          have shorter : before.length < fuel := by simpa using enough
          have misses : hit content = false := none (first, content) List.mem_cons_self
          simp only [here, Links.search, found, misses, Bool.false_eq_true, if_false]
          rw [ih linked shorter fun entry member => none entry (List.mem_cons_of_mem _ member)]
          cases before with
          | nil => rfl
          | cons entry' before =>
              rw [List.getLast?_cons_cons]
              cases last : (entry' :: before).getLast? with
              | none => simp at last
              | some pair => rfl

end LinkedQueue

open LinkedQueue in
/-- A queue in memory together with the entries its links run through. -/
structure LinkedQueue (α : Type) where
  links : Links α
  entries : List (Nat × α)
  distinct : (entries.map Prod.fst).Nodup
  linked : Linked links.cells links.head entries
  last : links.tail = entries.getLast?.map Prod.fst

namespace LinkedQueue

variable {α : Type}

def empty : LinkedQueue α := ⟨.empty, [], List.nodup_nil, rfl, rfl⟩

/-- The contents of the queue, first in first. -/
def values (queue : LinkedQueue α) : List α := queue.entries.map Prod.snd

/-- The allocator never hands out an address that is in use. -/
def Fresh (queue : LinkedQueue α) (addr : Nat) : Prop := queue.links.cells addr = none

instance (queue : LinkedQueue α) (addr : Nat) : Decidable (queue.Fresh addr) :=
  match found : queue.links.cells addr with
  | none => isTrue found
  | some _ => isFalse fun fresh => nomatch found.symm.trans fresh

theorem Linked.mem_cells {cells : Nat → Option (Cell α)} {link : Option Nat}
    {entries : List (Nat × α)} (linked : Linked cells link entries) {addr : Nat}
    (member : addr ∈ entries.map Prod.fst) : cells addr ≠ none := by
  induction entries generalizing link with
  | nil => simp at member
  | cons entry rest ih =>
      obtain ⟨first, content⟩ := entry
      obtain ⟨_, next, found, linked⟩ := linked
      rcases List.mem_cons.mp member with same | member
      · subst same
        simp [found]
      · exact ih linked member

theorem Fresh.apart {queue : LinkedQueue α} {addr : Nat} (fresh : queue.Fresh addr) :
    addr ∉ queue.entries.map Prod.fst := fun member => queue.linked.mem_cells member fresh

theorem linked_add (queue : LinkedQueue α) {addr : Nat} (value : α) (fresh : queue.Fresh addr) :
    Linked (queue.links.add addr value).cells (queue.links.add addr value).head
      (queue.entries ++ [(addr, value)]) := by
  have apart := fresh.apart
  have last := queue.last
  have linked := queue.linked.update apart (some ⟨none, value⟩)
  unfold Links.add
  cases tail : queue.links.tail with
  | none =>
      rw [tail] at last
      have nothing : queue.entries = [] := by
        simpa using Option.map_eq_none_iff.mp last.symm
      rw [nothing]
      exact ⟨rfl, _, Function.update_self .., rfl⟩
  | some addr' =>
      rw [tail] at last
      exact linked.append queue.distinct last.symm (Function.update_self ..) apart

/-- `add` on the links, which appends to the entries. -/
def add (queue : LinkedQueue α) (addr : Nat) (value : α) (fresh : queue.Fresh addr) :
    LinkedQueue α where
  links := queue.links.add addr value
  entries := queue.entries ++ [(addr, value)]
  distinct := by
    rw [List.map_append]
    refine List.nodup_append.mpr ⟨queue.distinct, List.nodup_singleton _, ?_⟩
    intro old member new isNew same
    have here : new = addr := by simpa using isNew
    exact fresh.apart (here ▸ same ▸ member)
  linked := queue.linked_add value fresh
  last := by
    unfold Links.add
    cases queue.links.tail <;> simp

@[simp] theorem add_values (queue : LinkedQueue α) (addr : Nat) (value : α)
    (fresh : queue.Fresh addr) : (queue.add addr value fresh).values = queue.values ++ [value] := by
  simp [values, add]

theorem Links.add_used {links : Links α} (addr : Nat) (value : α) {other : Nat}
    (used : links.cells other ≠ none) : (links.add addr value).cells other ≠ none := by
  have still : Function.update links.cells addr (some ⟨none, value⟩) other ≠ none := by
    by_cases same : other = addr
    · subst same
      simp
    · rw [Function.update_of_ne same]
      exact used
  unfold Links.add
  cases links.tail with
  | none => exact still
  | some last =>
      by_cases same : other = last
      · subst same
        simpa using still
      · simpa [Function.update_of_ne same] using still

/-- Memory that is in use stays in use when an element is added. -/
theorem not_fresh_add (queue : LinkedQueue α) {addr other : Nat} (value : α)
    (fresh : queue.Fresh addr) (used : ¬ queue.Fresh other) :
    ¬ (queue.add addr value fresh).Fresh other := Links.add_used addr value used

theorem head_eq_none_iff (queue : LinkedQueue α) :
    queue.links.head = none ↔ queue.values = [] := by
  have linked := queue.linked
  unfold values
  cases found : queue.entries with
  | nil =>
      rw [found] at linked
      exact ⟨fun _ => rfl, fun _ => linked⟩
  | cons entry rest =>
      rw [found] at linked
      simp [linked.1]

theorem head_eq (queue : LinkedQueue α) :
    queue.links.head = queue.entries.head?.map Prod.fst := by
  have linked := queue.linked
  cases found : queue.entries with
  | nil =>
      rw [found] at linked
      exact linked
  | cons entry rest =>
      rw [found] at linked
      exact linked.1

/-- What `pop` does to the links of a queue that is not empty. -/
theorem pop_links (queue : LinkedQueue α) {addr : Nat} {value : α} {rest : List (Nat × α)}
    (found : queue.entries = (addr, value) :: rest) :
    ∃ next, Linked queue.links.cells next rest ∧
      queue.links.pop = (some (addr, value),
        ⟨Function.update queue.links.cells addr (some ⟨none, value⟩), next,
          if next.isNone then none else queue.links.tail⟩) := by
  have linked := queue.linked
  rw [found] at linked
  obtain ⟨head, next, cell, linked⟩ := linked
  refine ⟨next, linked, ?_⟩
  simp only [Links.pop, head, cell]

/-- `pop` on the links, which takes the first entry away. -/
def pop (queue : LinkedQueue α) : Option (Nat × α) × LinkedQueue α :=
  (queue.links.pop.1,
    { links := queue.links.pop.2
      entries := queue.entries.tail
      distinct := by
        have distinct := queue.distinct
        cases found : queue.entries with
        | nil => exact List.nodup_nil
        | cons entry rest =>
            rw [found] at distinct
            exact (List.nodup_cons.mp distinct).2
      linked := by
        have linked := queue.linked
        have distinct := queue.distinct
        cases found : queue.entries with
        | nil =>
            rw [found] at linked
            have nothing : queue.links.head = none := linked
            simp only [Links.pop, nothing]
            rfl
        | cons entry rest =>
            obtain ⟨next, linked, popped⟩ := queue.pop_links found
            rw [found] at distinct
            rw [popped]
            exact linked.update (List.nodup_cons.mp distinct).1 _
      last := by
        have linked := queue.linked
        have last := queue.last
        cases found : queue.entries with
        | nil =>
            rw [found] at linked last
            have nothing : queue.links.head = none := linked
            simp only [Links.pop, nothing]
            exact last
        | cons entry rest =>
            obtain ⟨next, linked, popped⟩ := queue.pop_links found
            rw [popped]
            cases rest with
            | nil =>
                have nothing : next = none := linked
                rw [nothing]
                rfl
            | cons entry' rest =>
                rw [linked.1]
                rw [found, List.getLast?_cons_cons] at last
                exact last })

theorem pop_eq_some (queue : LinkedQueue α) {value : α} {rest : List α}
    (values : queue.values = value :: rest) :
    ∃ addr, queue.pop.1 = some (addr, value) ∧ queue.pop.2.values = rest ∧
      addr ∉ queue.pop.2.entries.map Prod.fst ∧ ¬ queue.pop.2.Fresh addr := by
  have distinct := queue.distinct
  unfold LinkedQueue.values at values
  cases found : queue.entries with
  | nil => simp [found] at values
  | cons entry entries =>
      obtain ⟨addr, content⟩ := entry
      rw [found] at values distinct
      obtain ⟨same, others⟩ := List.cons.inj values
      simp only at same
      subst same
      obtain ⟨next, _, popped⟩ := queue.pop_links found
      refine ⟨addr, congrArg Prod.fst popped, ?_, ?_, ?_⟩
      · simpa [pop, LinkedQueue.values, found] using others
      · simpa [pop, found] using (List.nodup_cons.mp distinct).1
      · simp only [Fresh, pop, popped, Function.update_self]
        exact Option.some_ne_none _

theorem values_of_pop {queue rest : LinkedQueue α} {addr : Nat} {value : α}
    (popped : queue.pop = (some (addr, value), rest)) : queue.values = value :: rest.values := by
  cases values : queue.values with
  | nil =>
      have nothing := queue.head_eq_none_iff.mpr values
      have first : queue.links.pop.1 = some (addr, value) := congrArg Prod.fst popped
      simp only [Links.pop, nothing] at first
      contradiction
  | cons first others =>
      obtain ⟨place, taken, left, _⟩ := queue.pop_eq_some values
      rw [popped] at taken left
      cases taken
      rw [left]

/-- Memory outside the queue can be released. -/
def free (queue : LinkedQueue α) (addr : Nat) (apart : addr ∉ queue.entries.map Prod.fst) :
    LinkedQueue α where
  links := queue.links.free addr
  entries := queue.entries
  distinct := queue.distinct
  linked := queue.linked.update apart none
  last := queue.last

@[simp] theorem free_values (queue : LinkedQueue α) {addr : Nat}
    (apart : addr ∉ queue.entries.map Prod.fst) : (queue.free addr apart).values = queue.values :=
  rfl

section Exchange

variable {links : Links α} {prev : Option Nat} {old new : Nat}

theorem Links.exchange_other {addr : Nat} (notOld : addr ≠ old) (notNew : addr ≠ new)
    (notPrev : prev ≠ some addr) : (links.exchange prev old new).cells addr = links.cells addr := by
  simp only [Links.exchange, Links.setNext]
  rw [Function.update_of_ne notOld, Function.update_of_ne notNew]
  cases prev with
  | none => rfl
  | some last => exact Function.update_of_ne (fun same => notPrev (congrArg some same.symm)) _ _

theorem Links.exchange_new {next onward : Option Nat} {value content : α} (other : new ≠ old)
    (notOld : prev ≠ some old) (notNew : prev ≠ some new)
    (stored : links.cells new = some ⟨next, content⟩)
    (found : links.cells old = some ⟨onward, value⟩) :
    (links.exchange prev old new).cells new = some ⟨onward, content⟩ := by
  simp only [Links.exchange, Links.setNext]
  rw [Function.update_of_ne other, Function.update_self]
  cases prev with
  | none => simp [stored, found]
  | some last =>
      have apart : new ≠ last := fun same => notNew (congrArg some same.symm)
      have apart' : old ≠ last := fun same => notOld (congrArg some same.symm)
      simp [Function.update_of_ne apart, Function.update_of_ne apart', stored, found]

theorem Links.exchange_prev {last : Nat} {next : Option Nat} {value : α} (notOld : last ≠ old)
    (notNew : last ≠ new) (found : links.cells last = some ⟨next, value⟩) :
    (links.exchange (some last) old new).cells last = some ⟨some new, value⟩ := by
  simp only [Links.exchange, Links.setNext]
  rw [Function.update_of_ne notOld, Function.update_of_ne notNew]
  simp [found]

theorem Links.exchange_old : ((links.exchange prev old new).cells old).bind Cell.next = none := by
  simp only [Links.exchange]
  rw [Links.setNext, Function.update_self, Option.bind_map]
  exact Option.bind_eq_none_iff.mpr fun cell _ => rfl

theorem Links.exchange_head {before : List (Nat × α)} :
    (links.exchange (before.getLast?.map Prod.fst) old new).head =
      if before.isEmpty then some new else links.head := by
  cases before with
  | nil => rfl
  | cons entry before =>
      cases last : (entry :: before).getLast? with
      | none => simp at last
      | some pair => simp [Links.exchange]

end Exchange

/-- The cell of an element and what follows it. -/
theorem Linked.cell_of_mem {cells : Nat → Option (Cell α)} {link : Option Nat}
    {entries : List (Nat × α)} (linked : Linked cells link entries) {addr : Nat} {value : α}
    (member : (addr, value) ∈ entries) : ∃ next, cells addr = some ⟨next, value⟩ := by
  obtain ⟨before, after, split⟩ := List.append_of_mem member
  rw [split] at linked
  obtain ⟨next, found, _⟩ := linked.after
  exact ⟨next, found⟩

/-- The element at `old` gives its place to one outside the queue. -/
theorem linked_exchange (queue : LinkedQueue α) {before after : List (Nat × α)} {old new : Nat}
    {value content : α} {next : Option Nat}
    (found : queue.entries = before ++ (old, value) :: after)
    (apart : new ∉ queue.entries.map Prod.fst)
    (stored : queue.links.cells new = some ⟨next, content⟩) :
    Linked (queue.links.exchange (before.getLast?.map Prod.fst) old new).cells
      (queue.links.exchange (before.getLast?.map Prod.fst) old new).head
      (before ++ (new, content) :: after) := by
  have linked := queue.linked
  have distinct := queue.distinct
  rw [found] at linked distinct apart
  simp only [List.map_append, List.map_cons, List.nodup_append, List.nodup_cons, List.mem_append,
    List.mem_cons, not_or] at distinct apart
  obtain ⟨beforeDistinct, ⟨oldAfter, _⟩, disjoint⟩ := distinct
  obtain ⟨newBefore, newOld, newAfter⟩ := apart
  obtain ⟨onward, cell, linkedAfter⟩ := linked.after
  have prev : ∀ addr, addr ∉ before.map Prod.fst → before.getLast?.map Prod.fst ≠ some addr := by
    intro addr outside same
    obtain ⟨pair, last, here⟩ := Option.map_eq_some_iff.mp same
    exact outside (here ▸ List.mem_map_of_mem (List.mem_of_getLast? last))
  have oldBefore : old ∉ before.map Prod.fst :=
    fun member => disjoint old member old (.inl rfl) rfl
  rw [Links.exchange_head]
  refine linked.reroute beforeDistinct ⟨rfl, onward, ?_, ?_⟩ ?_ ?_
  · exact Links.exchange_new newOld (prev old oldBefore) (prev new newBefore) stored cell
  · refine linkedAfter.of_agree fun addr member => Links.exchange_other ?_ ?_ (prev addr ?_)
    · exact fun same => oldAfter (same ▸ member)
    · exact fun same => newAfter (same ▸ member)
    · exact fun inside => disjoint addr inside addr (.inr member) rfl
  · intro addr member notLast
    refine Links.exchange_other ?_ ?_ notLast
    · exact fun same => oldBefore (same ▸ member)
    · exact fun same => newBefore (same ▸ member)
  · intro addr content' last
    have member := List.mem_of_getLast? last
    obtain ⟨next', found'⟩ := linked.cell_of_mem (List.mem_append_left _ member)
    have inside : addr ∈ before.map Prod.fst := List.mem_map_of_mem member
    rw [last]
    refine Links.exchange_prev ?_ ?_ found'
    · exact fun same => oldBefore (same ▸ inside)
    · exact fun same => newBefore (same ▸ inside)

/-- `exchange` on the links: another element in the place of one. -/
def exchange (queue : LinkedQueue α) {before after : List (Nat × α)} {old new : Nat}
    {value content : α} {next : Option Nat}
    (found : queue.entries = before ++ (old, value) :: after)
    (apart : new ∉ queue.entries.map Prod.fst)
    (stored : queue.links.cells new = some ⟨next, content⟩) : LinkedQueue α where
  links := queue.links.exchange (before.getLast?.map Prod.fst) old new
  entries := before ++ (new, content) :: after
  distinct := by
    have distinct := queue.distinct
    rw [found] at distinct apart
    simp only [List.map_append, List.map_cons] at distinct apart ⊢
    refine List.nodup_middle.mpr (List.nodup_cons.mpr ⟨fun member => apart ?_, ?_⟩)
    · rcases List.mem_append.mp member with inside | inside
      · exact List.mem_append_left _ inside
      · exact List.mem_append_right _ (List.mem_cons_of_mem _ inside)
    · exact (List.nodup_cons.mp (List.nodup_middle.mp distinct)).2
  linked := queue.linked_exchange found apart stored
  last := by
    have last := queue.last
    have distinct := queue.distinct
    rw [found] at last distinct
    simp only [List.map_append, List.map_cons] at distinct
    have oldAfter := (List.nodup_cons.mp (List.nodup_middle.mp distinct)).1
    change (if queue.links.tail = some old then some new else queue.links.tail) = _
    rw [last]
    cases after with
    | nil => simp
    | cons entry after =>
        rw [List.getLast?_append_cons, List.getLast?_append_cons, List.getLast?_cons_cons,
          List.getLast?_cons_cons]
        refine if_neg fun same => oldAfter ?_
        obtain ⟨pair, isLast, here⟩ := Option.map_eq_some_iff.mp same
        exact List.mem_append_right _ (here ▸ List.mem_map_of_mem (List.mem_of_getLast? isLast))

end LinkedQueue
