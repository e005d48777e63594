import Mathlib.Data.List.Basic
import Mathlib.Tactic.IntervalCases

/-! JSON: the values, and the texts in bytes that stand for them. -/

/-- A value; numbers and strings as they are written. -/
inductive Json where
  | null
  | bool (value : Bool)
  | number (text : List UInt8)
  | string (body : List UInt8)
  | array (items : List Json)
  | object (members : List (List UInt8 × Json))

namespace Json

/-- The member of an object with a name, as an object with two is read by most: the first. -/
def field (name : List UInt8) : Json → Option Json
  | .object members => (members.find? fun member => member.1 = name).map Prod.snd
  | _ => none

/-- The bytes of a text. -/
def bytes (text : String) : List UInt8 := text.toList.flatMap String.utf8EncodeChar

def isSpace (byte : UInt8) : Bool := byte = 0x20 || byte = 0x09 || byte = 0x0A || byte = 0x0D

def Blank (text : List UInt8) : Prop := ∀ byte ∈ text, isSpace byte = true

instance (text : List UInt8) : Decidable (Blank text) := List.decidableBAll _ _

def isDigit (byte : UInt8) : Bool := decide (0x30 ≤ byte) && decide (byte ≤ 0x39)

def isHexDigit (byte : UInt8) : Bool :=
  isDigit byte || (decide (0x41 ≤ byte) && decide (byte ≤ 0x46)) ||
    (decide (0x61 ≤ byte) && decide (byte ≤ 0x66))

/-- Digits without a zero in front of others. -/
inductive Whole : List UInt8 → Prop
  | zero : Whole (bytes "0")
  | digits {first : UInt8} {rest : List UInt8} (digit : isDigit first = true)
      (nonzero : first ≠ 0x30) (digits : ∀ byte ∈ rest, isDigit byte = true) :
      Whole (first :: rest)

inductive Fraction : List UInt8 → Prop
  | none : Fraction []
  | digits {digits : List UInt8} (any : digits ≠ [])
      (proper : ∀ byte ∈ digits, isDigit byte = true) : Fraction (bytes "." ++ digits)

inductive Exponent : List UInt8 → Prop
  | none : Exponent []
  | digits {letter sign digits : List UInt8} (isLetter : letter ∈ [bytes "e", bytes "E"])
      (isSign : sign ∈ [[], bytes "+", bytes "-"]) (any : digits ≠ [])
      (proper : ∀ byte ∈ digits, isDigit byte = true) : Exponent (letter ++ sign ++ digits)

inductive Number : List UInt8 → Prop
  | mk {sign whole fraction exponent : List UInt8} (isSign : sign ∈ [[], bytes "-"])
      (isWhole : Whole whole) (isFraction : Fraction fraction) (isExponent : Exponent exponent) :
      Number (sign ++ whole ++ fraction ++ exponent)

/-- What may stand between the quotes of a string. -/
inductive Body : List UInt8 → Prop
  | nil : Body []
  | char {char : Char} {rest : List UInt8} (control : 0x20 ≤ char.toNat) (quote : char ≠ '"')
      (backslash : char ≠ '\\') (more : Body rest) : Body (String.utf8EncodeChar char ++ rest)
  | escape {letter : UInt8} {rest : List UInt8} (isEscape : letter ∈ bytes "\"\\/bfnrt")
      (more : Body rest) : Body (bytes "\\" ++ letter :: rest)
  | unit {digits rest : List UInt8} (four : digits.length = 4)
      (proper : ∀ byte ∈ digits, isHexDigit byte = true) (more : Body rest) :
      Body (bytes "\\u" ++ digits ++ rest)

def quoted (body : List UInt8) : List UInt8 := bytes "\"" ++ body ++ bytes "\""

mutual

/-- A text without blanks around it, and its value. -/
inductive Value : List UInt8 → Json → Prop
  | null : Value (bytes "null") .null
  | bool (value : Bool) : Value (bytes (if value then "true" else "false")) (.bool value)
  | number {text : List UInt8} (number : Number text) : Value text (.number text)
  | string {body : List UInt8} (isBody : Body body) : Value (quoted body) (.string body)
  | emptyArray {space : List UInt8} (blank : Blank space) :
      Value (bytes "[" ++ space ++ bytes "]") (.array [])
  | array {left text right : List UInt8} {items : List Json} (before : Blank left)
      (elements : Elements text items) (after : Blank right) :
      Value (bytes "[" ++ left ++ text ++ right ++ bytes "]") (.array items)
  | emptyObject {space : List UInt8} (blank : Blank space) :
      Value (bytes "\x7b" ++ space ++ bytes "\x7d") (.object [])
  | object {left text right : List UInt8} {items : List (List UInt8 × Json)} (before : Blank left)
      (members : Members text items) (after : Blank right) :
      Value (bytes "\x7b" ++ left ++ text ++ right ++ bytes "\x7d") (.object items)

inductive Elements : List UInt8 → List Json → Prop
  | one {text : List UInt8} {item : Json} (value : Value text item) : Elements text [item]
  | more {text left right next : List UInt8} {items : List Json} {item : Json}
      (elements : Elements text items) (before : Blank left) (after : Blank right)
      (value : Value next item) :
      Elements (text ++ left ++ bytes "," ++ right ++ next) (items ++ [item])

inductive Members : List UInt8 → List (List UInt8 × Json) → Prop
  | one {key left right text : List UInt8} {item : Json} (isKey : Body key)
      (before : Blank left) (after : Blank right) (value : Value text item) :
      Members (quoted key ++ left ++ bytes ":" ++ right ++ text) [(key, item)]
  | more {text left right next : List UInt8} {items : List (List UInt8 × Json)}
      {item : List UInt8 × Json} (members : Members text items) (before : Blank left)
      (after : Blank right) (member : Members next [item]) :
      Members (text ++ left ++ bytes "," ++ right ++ next) (items ++ [item])

end

/-- A whole text. -/
inductive Document : List UInt8 → Json → Prop
  | mk {left text right : List UInt8} {value : Json} (before : Blank left)
      (isValue : Value text value) (after : Blank right) : Document (left ++ text ++ right) value

section strings

variable {rest : List UInt8}

/-- A character that stands for itself in a string. -/
def isPlain (char : Char) : Bool :=
  decide (0x20 ≤ char.toNat) && decide (char ≠ '"') && decide (char ≠ '\\')

theorem Body.plain {chars : List Char} (plain : ∀ char ∈ chars, isPlain char = true) :
    Body (chars.flatMap String.utf8EncodeChar) := by
  induction chars with
  | nil => exact .nil
  | cons char chars ih =>
      have fine := plain char List.mem_cons_self
      simp only [isPlain, Bool.and_eq_true, decide_eq_true_eq] at fine
      obtain ⟨⟨control, quote⟩, backslash⟩ := fine
      exact .char control quote backslash (ih fun other member =>
        plain other (List.mem_cons_of_mem char member))

theorem Body.bytes {text : String} (plain : text.toList.all isPlain = true) :
    Body (bytes text) := .plain (List.all_eq_true.mp plain)

end strings

section numbers

/-- A number as `%u` prints it. -/
def decimal (number : Nat) : List UInt8 :=
  (Nat.toDigits 10 number).flatMap String.utf8EncodeChar

theorem decimal_digit {number : Nat} (below : number < 10) :
    decimal number = [0x30 + UInt8.ofNat number] := by
  unfold decimal
  rw [Nat.toDigits_of_lt_base below]
  interval_cases number <;> rfl

theorem decimal_step {number : Nat} (large : 10 ≤ number) :
    decimal number = decimal (number / 10) ++ decimal (number % 10) := by
  unfold decimal
  rw [Nat.toDigits_of_base_le (by decide) large, List.flatMap_append,
    Nat.toDigits_of_lt_base (Nat.mod_lt number (by decide))]

theorem isDigit_digit {number : Nat} (below : number < 10) :
    isDigit (0x30 + UInt8.ofNat number) = true := by
  interval_cases number <;> decide

theorem decimal_digits (number : Nat) : ∀ byte ∈ decimal number, isDigit byte = true := by
  induction number using Nat.strongRecOn with
  | _ number ih =>
      intro byte member
      by_cases below : number < 10
      · rw [decimal_digit below, List.mem_singleton] at member
        rw [member]
        exact isDigit_digit below
      · rw [decimal_step (Nat.le_of_not_lt below)] at member
        rcases List.mem_append.mp member with high | low
        · exact ih (number / 10) (by omega) byte high
        · exact ih (number % 10) (by omega) byte low

theorem decimal_first {number : Nat} (positive : 0 < number) :
    ∃ first rest, decimal number = first :: rest ∧ first ≠ 0x30 := by
  induction number using Nat.strongRecOn with
  | _ number ih =>
      by_cases below : number < 10
      · refine ⟨0x30 + UInt8.ofNat number, [], decimal_digit below, ?_⟩
        interval_cases number <;> decide
      · obtain ⟨first, rest, same, nonzero⟩ := ih (number / 10) (by omega) (by omega)
        refine ⟨first, rest ++ decimal (number % 10), ?_, nonzero⟩
        rw [decimal_step (Nat.le_of_not_lt below), same, List.cons_append]

theorem Whole.decimal (number : Nat) : Whole (decimal number) := by
  rcases Nat.eq_zero_or_pos number with zero | positive
  · rw [zero]
    exact .zero
  · obtain ⟨first, rest, same, nonzero⟩ := decimal_first positive
    have proper := decimal_digits number
    rw [same] at proper ⊢
    exact .digits (proper first List.mem_cons_self) nonzero fun byte member =>
      proper byte (List.mem_cons_of_mem first member)

theorem Number.decimal (number : Nat) : Number (decimal number) := by
  have whole : Number ([] ++ Json.decimal number ++ [] ++ []) :=
    .mk List.mem_cons_self (.decimal number) .none .none
  simpa using whole

theorem Number.negative (number : Nat) : Number (Json.bytes "-" ++ Json.decimal number) := by
  have whole : Number (Json.bytes "-" ++ Json.decimal number ++ [] ++ []) :=
    .mk (List.mem_cons_of_mem _ List.mem_cons_self) (.decimal number) .none .none
  simpa using whole

end numbers

section layout

variable {α : Type} {xs rest : List α} {first last : α} {text separator : List UInt8}
  {print : α → List UInt8} {P : α → Json → Prop}

/-- A comma with blanks around it. -/
def Separates (text : List UInt8) : Prop :=
  ∃ left right, Blank left ∧ Blank right ∧ text = left ++ bytes "," ++ right

theorem Elements.further {next : List UInt8} {items : List Json} {item : Json}
    (elements : Elements text items) (separates : Separates separator) (value : Value next item) :
    Elements (text ++ (separator ++ next)) (items ++ [item]) := by
  obtain ⟨left, right, before, after, same⟩ := separates
  have all := Elements.more elements before after value
  simpa only [List.append_assoc, same] using all

theorem Members.further {next : List UInt8} {items : List (List UInt8 × Json)}
    {item : List UInt8 × Json} (members : Members text items) (separates : Separates separator)
    (member : Members next [item]) : Members (text ++ (separator ++ next)) (items ++ [item]) := by
  obtain ⟨left, right, before, after, same⟩ := separates
  have all := Members.more members before after member
  simpa only [List.append_assoc, same] using all

/-- Further items that are printed with a separator in front of each. -/
theorem Elements.append {items : List Json} (elements : Elements text items)
    (separates : Separates separator)
    (values : ∀ item ∈ xs, ∃ json, Value (print item) json ∧ P item json) :
    ∃ further, Elements (text ++ xs.flatMap fun item => separator ++ print item)
        (items ++ further) ∧ List.Forall₂ P xs further := by
  induction xs generalizing text items with
  | nil => exact ⟨[], by simpa using elements, .nil⟩
  | cons item rest ih =>
      obtain ⟨json, value, holds⟩ := values item List.mem_cons_self
      obtain ⟨further, all, others⟩ := ih (elements.further separates value)
        fun other member => values other (List.mem_cons_of_mem item member)
      refine ⟨json :: further, ?_, .cons holds others⟩
      simpa only [List.flatMap_cons, List.append_assoc, List.singleton_append] using all

theorem Members.append {items : List (List UInt8 × Json)} {key : α → List UInt8}
    (members : Members text items) (separates : Separates separator)
    (values : ∀ item ∈ xs, ∃ json, Members (print item) [(key item, json)]) :
    ∃ further, Members (text ++ xs.flatMap fun item => separator ++ print item)
        (items ++ further) ∧ further.map Prod.fst = xs.map key := by
  induction xs generalizing text items with
  | nil => exact ⟨[], by simpa using members, rfl⟩
  | cons item rest ih =>
      obtain ⟨json, isMember⟩ := values item List.mem_cons_self
      obtain ⟨further, all, keys⟩ := ih (members.further separates isMember)
        fun other listed => values other (List.mem_cons_of_mem item listed)
      refine ⟨(key item, json) :: further, ?_, by simp [keys]⟩
      simpa only [List.flatMap_cons, List.append_assoc, List.singleton_append] using all

theorem field_append {front back : List (List UInt8 × Json)} {name : List UInt8} {value : Json}
    (absent : name ∉ front.map Prod.fst) :
    field name (.object (front ++ (name, value) :: back)) = some value := by
  have passed : front.find? (fun member => member.1 = name) = none := by
    rw [List.find?_eq_none]
    intro member listed same
    exact absent (List.mem_map.mpr ⟨member, listed, of_decide_eq_true same⟩)
  simp [field, List.find?_append, passed]

/-- Lines that all but the last one end with a separator. -/
theorem lines_eq (tab separator : List UInt8) :
    ((first :: rest).flatMap fun item => tab ++ print item ++ separator) ++ (tab ++ print last) =
      tab ++ (print first ++
        (rest ++ [last]).flatMap fun item => separator ++ tab ++ print item) := by
  induction rest generalizing first with
  | nil => simp
  | cons item rest ih =>
      rw [List.flatMap_cons, List.append_assoc, ih]
      simp

end layout

/-- The last byte of a text that is not blank. -/
def last (text : List UInt8) : Option UInt8 := (text.reverse.dropWhile isSpace).head?

theorem last_append {front right : List UInt8} {byte : UInt8} (solid : isSpace byte = false)
    (blank : Blank right) : last (front ++ byte :: right) = some byte := by
  have passed : ∀ other ∈ right.reverse, isSpace other = true :=
    fun other member => blank other (List.mem_reverse.mp member)
  unfold last
  rw [List.reverse_append, List.reverse_cons, List.append_assoc,
    List.dropWhile_append_of_pos passed, List.singleton_append,
    List.dropWhile_cons_of_neg (by simp [solid])]
  rfl

theorem Document.last_object {text : List UInt8} {items : List (List UInt8 × Json)}
    (document : Document text (.object items)) : last text = some 0x7D := by
  cases document with
  | @mk left body right _ before isValue after =>
      have ends : ∃ front, body = front ++ [0x7D] := by
        cases isValue with
        | emptyObject => exact ⟨_, rfl⟩
        | object => exact ⟨_, rfl⟩
      obtain ⟨front, same⟩ := ends
      rw [same, ← List.append_assoc, List.append_assoc, List.singleton_append]
      exact last_append (by decide) after

end Json
