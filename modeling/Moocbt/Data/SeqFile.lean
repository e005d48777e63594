import Mathlib.Data.List.Basic

/-! Sequence files: a text that is printed entry by entry and read in pieces, each from a new start
of the iteration, does not depend on the pieces. -/

namespace SeqFile

/-- The operations of an iterator: the entry at a position, the one after an entry with its
position, and the text of an entry, if that can be printed. -/
structure Ops (ι : Type) where
  start : Nat → Option ι
  next : ι → Nat → Option ι × Nat
  print : ι → Option (List UInt8)

variable {ι : Type} {ops : Ops ι} {pos pos' : Nat} {entry : ι} {entries front back : List ι}
  {text output : List UInt8}

/-- What is printed from one start to its stop, and the position that is left. A piece ends before
an entry that does not fit, which is printed again after the next start, or after the last one;
the reader gets it in any number of parts. -/
inductive Session (ops : Ops ι) : Nat → ι → List UInt8 → Nat → Prop
  | full {pos : Nat} {entry : ι} : Session ops pos entry [] pos
  | last {pos pos' : Nat} {entry : ι} {text : List UInt8} (printed : ops.print entry = some text)
      (next : ops.next entry pos = (none, pos')) : Session ops pos entry text pos'
  | more {pos pos' left : Nat} {entry following : ι} {text rest : List UInt8}
      (printed : ops.print entry = some text) (next : ops.next entry pos = (some following, pos'))
      (further : Session ops pos' following rest left) : Session ops pos entry (text ++ rest) left

/-- What is read from a position until there is nothing more. -/
inductive Reads (ops : Ops ι) : Nat → List UInt8 → Prop
  | finished {pos : Nat} (none : ops.start pos = none) : Reads ops pos []
  | session {pos pos' : Nat} {entry : ι} {text rest : List UInt8}
      (start : ops.start pos = some entry) (session : Session ops pos entry text pos')
      (further : Reads ops pos' rest) : Reads ops pos (text ++ rest)

/-- An iteration can be stopped and started again after each entry. -/
def Restarts (ops : Ops ι) : Prop :=
  ∀ pos entry, ops.start pos = some entry →
    ops.start (ops.next entry pos).2 = (ops.next entry pos).1

/-- The entries from a position on. -/
inductive Ahead (ops : Ops ι) : Nat → List ι → Prop
  | nil {pos : Nat} (none : ops.start pos = none) : Ahead ops pos []
  | cons {pos : Nat} {entry : ι} {rest : List ι} (start : ops.start pos = some entry)
      (further : Ahead ops (ops.next entry pos).2 rest) : Ahead ops pos (entry :: rest)

/-- The texts of all entries. -/
def printAll (print : ι → Option (List UInt8)) : List ι → Option (List UInt8)
  | [] => some []
  | entry :: rest => do
      let text ← print entry
      let texts ← printAll print rest
      some (text ++ texts)

theorem printAll_append {print : ι → Option (List UInt8)} {texts : List UInt8}
    (first : printAll print front = some text) (second : printAll print back = some texts) :
    printAll print (front ++ back) = some (text ++ texts) := by
  induction front generalizing text with
  | nil =>
      cases first
      exact second
  | cons entry rest ih =>
      simp only [printAll, bind, Option.bind_eq_some_iff] at first
      obtain ⟨head, printed, tail, printed', same⟩ := first
      cases same
      simp [printAll, printed, ih printed']

theorem printAll_map {α : Type} {print : ι → Option (List UInt8)} {item : α → ι}
    {texts : α → List UInt8} (printed : ∀ index, print (item index) = some (texts index))
    (indices : List α) : printAll print (indices.map item) = some (indices.flatMap texts) := by
  induction indices with
  | nil => rfl
  | cons index rest ih => simp [printAll, printed index, ih]

/-- A piece prints the next entries. -/
theorem Session.prints (session : Session ops pos entry text pos') (restarts : Restarts ops)
    (start : ops.start pos = some entry) (ahead : Ahead ops pos entries) :
    ∃ front back, entries = front ++ back ∧ printAll ops.print front = some text ∧
      Ahead ops pos' back := by
  induction session generalizing entries with
  | full => exact ⟨[], entries, rfl, rfl, ahead⟩
  | @last pos pos' entry text printed next =>
      cases ahead with
      | nil none => simp [start] at none
      | @cons _ _ rest start' further =>
          cases start.symm.trans start'
          have again := restarts pos entry start
          rw [next] at again further
          cases further with
          | nil none =>
              refine ⟨[entry], [], rfl, ?_, .nil none⟩
              simp [printAll, printed]
          | cons other _ => simp [again] at other
  | @more pos pos' left entry following text rest printed next _ ih =>
      cases ahead with
      | nil none => simp [start] at none
      | @cons _ _ others start' further =>
          cases start.symm.trans start'
          have again := restarts pos entry start
          rw [next] at again further
          obtain ⟨front, back, same, printed', ahead⟩ := ih again further
          refine ⟨entry :: front, back, ?_, ?_, ahead⟩
          · rw [same, List.cons_append]
          · simp [printAll, printed, printed']

theorem Session.of_one (printed : ops.print entry = some text) :
    Session ops pos entry text (ops.next entry pos).2 := by
  rcases next : ops.next entry pos with ⟨_ | following, pos'⟩
  · exact .last printed next
  · have piece := Session.more printed next .full
    rw [List.append_nil] at piece
    exact piece

/-- Every way to read prints the same. -/
theorem reads_iff (restarts : Restarts ops) (ahead : Ahead ops pos entries) :
    Reads ops pos output ↔ printAll ops.print entries = some output := by
  constructor
  · intro reads
    induction reads generalizing entries with
    | finished none =>
        cases ahead with
        | nil => rfl
        | cons start => simp [none] at start
    | session start session _ ih =>
        obtain ⟨front, back, same, printed, ahead⟩ := session.prints restarts start ahead
        rw [same]
        exact printAll_append printed (ih ahead)
  · intro printed
    induction ahead generalizing output with
    | nil none =>
        cases printed
        exact .finished none
    | cons start _ ih =>
        simp only [printAll, bind, Option.bind_eq_some_iff] at printed
        obtain ⟨text, head, texts, tail, same⟩ := printed
        cases same
        exact .session start (.of_one head) (ih tail)

end SeqFile
