import Mathlib.Data.List.TakeWhile
import Moocbt.Data.Numeral

/-! The arguments of `moo`: how it reads numbers, and the commands it issues with them. `long`
and `long long` have 64 bits, `int` has 32. -/

namespace Moocbt.Tools

open Numeral

/-- A string of C, without the NUL at its end. -/
structure CString where
  bytes : List UInt8
  nonzero : ∀ byte ∈ bytes, byte ≠ 0
deriving DecidableEq

def erange : Nat := 34

def longMax : Int := 2 ^ 63 - 1
def llongMax : Int := 2 ^ 63 - 1

def isDigit (c : UInt8) : Bool := 48 ≤ c.toNat && c.toNat ≤ 57

def isSpace (c : UInt8) : Bool := c.toNat = 32 || (9 ≤ c.toNat && c.toNat ≤ 13)

/-- What a character counts for in a numeral of any base up to 36. -/
def digitValue (c : UInt8) : Nat :=
  if isDigit c then c.toNat - 48
  else if 97 ≤ c.toNat ∧ c.toNat ≤ 122 then c.toNat - 97 + 10
  else if 65 ≤ c.toNat ∧ c.toNat ≤ 90 then c.toNat - 65 + 10
  else 36

/-- The base of a numeral, and where its digits begin. -/
def radix (base : Nat) (text : List UInt8) : Nat × List UInt8 :=
  if text.head? = some 48 then
    if (base = 0 ∨ base = 16) ∧ (text[1]? = some 120 ∨ text[1]? = some 88) then (16, text.drop 2)
    else if base = 0 then (8, text)
    else (base, text)
  else if base = 0 then (10, text)
  else (base, text)

/-- A conversion to 64 bits: what it returns and what it leaves in `errno`. -/
def strto (text : List UInt8) (base errno : Nat) : Int × Nat :=
  let text := text.dropWhile isSpace
  let negative := text.head? = some 45
  let text := if text.head? = some 45 ∨ text.head? = some 43 then text.tail else text
  let (base, text) := radix base text
  let value := number base ((text.map digitValue).takeWhile (· < base))
  if negative then
    if value > 2 ^ 63 then (-(2 ^ 63), erange) else (-value, errno)
  else if value > 2 ^ 63 - 1 then (2 ^ 63 - 1, erange)
  else (value, errno)

def strtol : List UInt8 → Nat → Nat → Int × Nat := strto
def strtoll : List UInt8 → Nat → Nat → Int × Nat := strto

/-- What a parser returns, stores and leaves in `errno`. -/
structure Parsed (width : Nat) where
  ret : Int
  out : BitVec width
  errno : Nat

/-- The loop over the characters in front of a conversion. -/
def checkDigits : List UInt8 → Bool
  | [] => false
  | [c] => isDigit c
  | c :: rest => isDigit c && checkDigits rest

def parse (width : Nat) (convert : List UInt8 → Nat → Nat → Int × Nat) (max : Int)
    (str : CString) (errno : Nat) : Parsed width :=
  if checkDigits str.bytes then
    let (tmp, errno) := convert str.bytes 0 errno
    if errno ≠ 0 then ⟨-1, 0, errno⟩
    else if tmp < 0 ∨ tmp = max then ⟨-1, 0, erange⟩
    else ⟨0, BitVec.ofInt width tmp, errno⟩
  else ⟨-1, 0, errno⟩

def parseUl : CString → Nat → Parsed 64 := parse 64 strtoll llongMax
def parseUi : CString → Nat → Parsed 32 := parse 32 strtol longMax

/-- What `getopt` finds: an option it was told of with its argument, or something else. -/
inductive Flag where
  | cacheSize (arg : CString)
  | fallocate (arg : CString)
  | other

/-- The options `getopt` returns one after the other, and the arguments left behind them. -/
structure ArgLine where
  flags : List Flag
  operands : List CString

/-- The variables for the sizes. -/
structure Sizes where
  cacheSize : BitVec 64
  fallocatedSpace : BitVec 64
deriving DecidableEq

/-- What `moo` asks the driver for. -/
inductive Command where
  | setupSnapshot (minor : BitVec 32) (bdev cow : CString) (sizes : Sizes)
  | reloadSnapshot (minor : BitVec 32) (bdev cow : CString) (cacheSize : BitVec 64)
  | reloadIncremental (minor : BitVec 32) (bdev cow : CString) (cacheSize : BitVec 64)
  | destroy (minor : BitVec 32)
  | transitionIncremental (minor : BitVec 32)
  | transitionSnapshot (minor : BitVec 32) (cow : CString) (fallocatedSpace : BitVec 64)
  | reconfigure (minor : BitVec 32) (cacheSize : BitVec 64)
deriving DecidableEq

def Command.minor : Command → BitVec 32
  | setupSnapshot minor _ _ _ => minor
  | reloadSnapshot minor _ _ _ => minor
  | reloadIncremental minor _ _ _ => minor
  | destroy minor => minor
  | transitionIncremental minor => minor
  | transitionSnapshot minor _ _ => minor
  | reconfigure minor _ => minor

/-- Which options a handler has a case for. -/
structure FlagCases where
  cacheSize : Bool
  fallocate : Bool

/-- The loop over the options. -/
def readFlags (known : FlagCases) : List Flag → Sizes → Nat → Option (Sizes × Nat)
  | [], sizes, errno => some (sizes, errno)
  | .cacheSize arg :: rest, sizes, errno =>
      if known.cacheSize then
        let parsed := parseUl arg errno
        if parsed.ret ≠ 0 then none
        else readFlags known rest { sizes with cacheSize := parsed.out } parsed.errno
      else none
  | .fallocate arg :: rest, sizes, errno =>
      if known.fallocate then
        let parsed := parseUl arg errno
        if parsed.ret ≠ 0 then none
        else readFlags known rest { sizes with fallocatedSpace := parsed.out } parsed.errno
      else none
  | .other :: _, _, _ => none

/-- The end of every handler: the minor, and the command unless it is refused. -/
def withMinor (str : CString) (errno : Nat) (command : BitVec 32 → Command) : Option Command :=
  let parsed := parseUi str errno
  if parsed.ret ≠ 0 then none else some (command parsed.out)

/-- The handlers for a block device and a COW file. -/
def handleDevice (known : FlagCases)
    (command : BitVec 32 → CString → CString → Sizes → Command) (line : ArgLine) (errno : Nat) :
    Option Command :=
  match readFlags known line.flags ⟨0, 0⟩ errno with
  | none => none
  | some (sizes, errno) =>
      match line.operands with
      | [bdev, cow, minor] => withMinor minor errno fun minor => command minor bdev cow sizes
      | _ => none

def handleSetupSnap : ArgLine → Nat → Option Command := handleDevice ⟨true, true⟩ .setupSnapshot

def handleReloadSnap : ArgLine → Nat → Option Command :=
  handleDevice ⟨true, false⟩ fun minor bdev cow sizes =>
    .reloadSnapshot minor bdev cow sizes.cacheSize

def handleReloadInc : ArgLine → Nat → Option Command :=
  handleDevice ⟨true, false⟩ fun minor bdev cow sizes =>
    .reloadIncremental minor bdev cow sizes.cacheSize

/-- The handlers that take no options. -/
def handleOnly (command : BitVec 32 → Command) (args : List CString) (errno : Nat) :
    Option Command :=
  match args with
  | [minor] => withMinor minor errno command
  | _ => none

def handleDestroy : List CString → Nat → Option Command := handleOnly .destroy
def handleTransitionInc : List CString → Nat → Option Command := handleOnly .transitionIncremental

def handleTransitionSnap (line : ArgLine) (errno : Nat) : Option Command :=
  match readFlags ⟨false, true⟩ line.flags ⟨0, 0⟩ errno with
  | none => none
  | some (sizes, errno) =>
      match line.operands with
      | [cow, minor] =>
          withMinor minor errno fun minor => .transitionSnapshot minor cow sizes.fallocatedSpace
      | _ => none

def handleReconfigure (line : ArgLine) (errno : Nat) : Option Command :=
  match readFlags ⟨true, false⟩ line.flags ⟨0, 0⟩ errno with
  | none => none
  | some (sizes, errno) =>
      match line.operands with
      | [minor] => withMinor minor errno fun minor => .reconfigure minor sizes.cacheSize
      | _ => none

/-- The actions `main` knows, with the arguments behind their names. -/
inductive CommandLine where
  | setupSnapshot (line : ArgLine)
  | reloadSnapshot (line : ArgLine)
  | reloadIncremental (line : ArgLine)
  | destroy (args : List CString)
  | transitionToIncremental (args : List CString)
  | transitionToSnapshot (line : ArgLine)
  | reconfigure (line : ArgLine)

def CommandLine.handle (errno : Nat) : CommandLine → Option Command
  | setupSnapshot line => handleSetupSnap line errno
  | reloadSnapshot line => handleReloadSnap line errno
  | reloadIncremental line => handleReloadInc line errno
  | destroy args => handleDestroy args errno
  | transitionToIncremental args => handleTransitionInc args errno
  | transitionToSnapshot line => handleTransitionSnap line errno
  | reconfigure line => handleReconfigure line errno

def CommandLine.operands : CommandLine → List CString
  | setupSnapshot line => line.operands
  | reloadSnapshot line => line.operands
  | reloadIncremental line => line.operands
  | destroy args => args
  | transitionToIncremental args => args
  | transitionToSnapshot line => line.operands
  | reconfigure line => line.operands

/-- The minor is written last. -/
def CommandLine.minorArg (commandLine : CommandLine) : Option CString :=
  commandLine.operands.getLast?

/-- A non-empty string of decimal digits. -/
def CString.IsNumeral (str : CString) : Prop :=
  str.bytes ≠ [] ∧ ∀ c ∈ str.bytes, isDigit c

instance (str : CString) : Decidable str.IsNumeral := inferInstanceAs (Decidable (_ ∧ _))

def CString.digits (str : CString) : List Nat := str.bytes.map digitValue

/-- The number that was typed. -/
def CString.decimal (str : CString) : Nat := number 10 str.digits

/-- What the parser returns is the number that was typed, unless it rejects the string. -/
def Parsed.Typed {width : Nat} (parsed : Parsed width) (str : CString) : Prop :=
  parsed.ret = 0 → str.IsNumeral ∧ str.decimal < 2 ^ width ∧ parsed.out.toNat = str.decimal

instance {width : Nat} (parsed : Parsed width) (str : CString) : Decidable (parsed.Typed str) :=
  inferInstanceAs (Decidable (_ → _))

/-- The digits in front of the first 8 or 9, without leading zeros. -/
def CString.octal (str : CString) : List Nat :=
  (str.digits.takeWhile (· < 8)).dropWhile (· = 0)

/-- A leading zero makes a numeral octal, which the parsers survive for a single other digit,
or where the octal number is out of range. A numeral without one is taken as it was typed,
where it fits or is out of the range of `long`. -/
def CString.ReadsTyped (str : CString) (width errno : Nat) : Prop :=
  errno ≠ 0 ∨ ¬ str.IsNumeral ∨
    (str.bytes.head? = some 48 ∧
      (str.decimal < 8 ∨ 21 < str.octal.length ∨ str.octal = List.replicate 21 7)) ∨
    (str.bytes.head? ≠ some 48 ∧ (str.decimal < 2 ^ width ∨ 2 ^ 63 ≤ str.decimal + 1))

instance (str : CString) (width errno : Nat) : Decidable (str.ReadsTyped width errno) :=
  inferInstanceAs (Decidable (_ ∨ _))

variable {c : UInt8} {text : List UInt8} {str : CString} {width errno : Nat}

theorem isDigit_iff : isDigit c = true ↔ 48 ≤ c.toNat ∧ c.toNat ≤ 57 := by
  simp [isDigit]

theorem digitValue_of_isDigit (digit : isDigit c) : digitValue c = c.toNat - 48 := by
  simp [digitValue, digit]

theorem digitValue_lt (digit : isDigit c) : digitValue c < 10 := by
  have bounds := isDigit_iff.mp digit
  rw [digitValue_of_isDigit digit]
  omega

/-- A digit is neither a blank, nor a sign, nor the letter of a hexadecimal prefix. -/
theorem isDigit_ne (digit : isDigit c) {other : UInt8}
    (letter : other.toNat < 48 ∨ 57 < other.toNat) : c ≠ other := by
  intro same
  subst same
  have bounds := isDigit_iff.mp digit
  omega

theorem isSpace_of_isDigit (digit : isDigit c) : isSpace c = false := by
  have bounds := isDigit_iff.mp digit
  simp only [isSpace, Bool.or_eq_false_iff, Bool.and_eq_false_iff, decide_eq_false_iff_not]
  omega

theorem checkDigits_iff : checkDigits text = true ↔ text ≠ [] ∧ ∀ c ∈ text, isDigit c := by
  induction text with
  | nil => simp [checkDigits]
  | cons c rest ih =>
      cases rest with
      | nil => simp [checkDigits]
      | cons next rest =>
          rw [checkDigits, Bool.and_eq_true, ih, List.forall_mem_cons]
          · simp
          · simp

theorem CString.IsNumeral.proper (numeral : str.IsNumeral) : ∀ digit ∈ str.digits, digit < 10 := by
  intro digit member
  obtain ⟨c, inside, same⟩ := List.mem_map.mp member
  subst same
  exact digitValue_lt (numeral.2 c inside)

/-- The base `strtol` and `strtoll` find for a numeral. -/
def CString.base (str : CString) : Nat := if str.bytes.head? = some 48 then 8 else 10

theorem radix_of_numeral (numeral : str.IsNumeral) : radix 0 str.bytes = (str.base, str.bytes) := by
  have letters : ∀ other : UInt8, 57 < other.toNat → str.bytes[1]? ≠ some other := by
    intro other letter found
    exact isDigit_ne (numeral.2 other (List.mem_of_getElem? found)) (.inr letter) rfl
  have plain : ¬ (str.bytes[1]? = some 120 ∨ str.bytes[1]? = some 88) := by
    intro hex
    cases hex with
    | inl lower => exact letters 120 (by decide) lower
    | inr upper => exact letters 88 (by decide) upper
  by_cases zero : str.bytes.head? = some 48
  · simp only [radix, CString.base, if_pos zero, true_or, true_and, if_neg plain, if_true]
  · simp only [radix, CString.base, if_neg zero, if_true]

/-- What a conversion makes of a numeral in front of the check of the range. -/
def CString.converted (str : CString) : Nat :=
  number str.base (str.digits.takeWhile (· < str.base))

theorem strto_of_numeral (numeral : str.IsNumeral) (errno : Nat) :
    strto str.bytes 0 errno =
      if str.converted > 2 ^ 63 - 1 then (2 ^ 63 - 1, erange)
      else ((str.converted : Int), errno) := by
  obtain ⟨nonempty, digits⟩ := numeral
  obtain ⟨c, rest, front⟩ := List.exists_cons_of_ne_nil nonempty
  have first : isDigit c := digits c (by rw [front]; exact List.mem_cons_self)
  have blank : str.bytes.dropWhile isSpace = str.bytes := by
    rw [front, List.dropWhile_cons, isSpace_of_isDigit first]
    rfl
  have minus : str.bytes.head? ≠ some 45 := by
    rw [front]
    intro sign
    exact isDigit_ne first (.inl (by decide)) (Option.some.inj sign)
  have plus : str.bytes.head? ≠ some 43 := by
    rw [front]
    intro sign
    exact isDigit_ne first (.inl (by decide)) (Option.some.inj sign)
  simp only [strto, blank, minus, plus, or_self, if_false, radix_of_numeral ⟨nonempty, digits⟩]
  rfl

/-- A parser accepts the numerals whose number in that base is below the limit of `long`. -/
theorem parse_accepts (numeral : str.IsNumeral) (width : Nat)
    (small : str.converted < 2 ^ 63 - 1) :
    parse width strto (2 ^ 63 - 1) str 0 = ⟨0, BitVec.ofNat width str.converted, 0⟩ := by
  have checked : checkDigits str.bytes = true := checkDigits_iff.mpr numeral
  have inside : ¬ str.converted > 2 ^ 63 - 1 := by omega
  have good : ¬ ((str.converted : Int) < 0 ∨ (str.converted : Int) = 2 ^ 63 - 1) := by omega
  simp only [parse, checked, if_true, strto_of_numeral numeral, if_neg inside, if_neg good,
    ne_eq, not_true_eq_false, if_false, BitVec.ofInt_natCast]

theorem parse_rejects (width : Nat)
    (wrong : errno ≠ 0 ∨ ¬ str.IsNumeral ∨ 2 ^ 63 ≤ str.converted + 1) :
    (parse width strto (2 ^ 63 - 1) str errno).ret = -1 := by
  by_cases numeral : str.IsNumeral
  · have checked : checkDigits str.bytes = true := checkDigits_iff.mpr numeral
    simp only [parse, checked, if_true, strto_of_numeral numeral]
    by_cases outside : str.converted > 2 ^ 63 - 1
    · simp only [if_pos outside]
      rfl
    · simp only [if_neg outside]
      by_cases stale : errno ≠ 0
      · simp only [if_pos stale]
      · have limit : (str.converted : Int) < 0 ∨ (str.converted : Int) = 2 ^ 63 - 1 := by
          have high := (wrong.resolve_left stale).resolve_left (fun no => no numeral)
          omega
        simp only [if_neg stale, if_pos limit]
  · have unchecked : ¬ checkDigits str.bytes = true := fun checked =>
      numeral (checkDigits_iff.mp checked)
    simp only [parse, if_neg unchecked]

theorem CString.octal_proper (str : CString) : ∀ digit ∈ str.octal, digit < 8 := by
  intro digit member
  have inside := (List.dropWhile_sublist _).subset member
  have low := List.mem_takeWhile_imp inside
  exact of_decide_eq_true low

theorem CString.octal_leading (str : CString) :
    ∀ digit, str.octal.head? = some digit → digit ≠ 0 := by
  intro digit front zero
  have kept := List.head?_dropWhile_not (fun digit => decide (digit = 0))
    (str.digits.takeWhile (· < 8))
  rw [octal] at front
  rw [front] at kept
  exact of_decide_eq_false kept zero

/-- The octal number of a numeral with a leading zero, seen from its digits. -/
theorem CString.converted_octal (zero : str.bytes.head? = some 48) :
    2 ^ 63 ≤ str.converted + 1 ↔ 21 < str.octal.length ∨ str.octal = List.replicate 21 7 := by
  have octal : str.converted = number 8 str.octal := by
    rw [converted, base, if_pos zero, CString.octal, number_dropWhile_zero]
  have power : 2 ^ 63 = 8 ^ 21 := by decide
  rw [octal, power]
  exact highest_le_number_iff (by decide) str.octal_proper str.octal_leading

theorem CString.converted_decimal (numeral : str.IsNumeral) (plain : str.bytes.head? ≠ some 48) :
    str.converted = str.decimal := by
  have whole : str.digits.takeWhile (· < 10) = str.digits := by
    rw [List.takeWhile_eq_self_iff]
    intro digit member
    exact decide_eq_true (numeral.proper digit member)
  rw [converted, base, if_neg plain, whole, decimal]

theorem CString.converted_same (zero : str.bytes.head? = some 48) :
    str.converted = str.decimal ↔ str.decimal < 8 := by
  rw [converted, base, if_pos zero]
  exact number_takeWhile_iff (by decide) (by decide)

theorem parse_typed_iff (room : 8 ≤ 2 ^ width) :
    (parse width strto (2 ^ 63 - 1) str errno).Typed str ↔ str.ReadsTyped width errno := by
  by_cases wrong : errno ≠ 0 ∨ ¬ str.IsNumeral ∨ 2 ^ 63 ≤ str.converted + 1
  · have rejected := parse_rejects width wrong
    refine ⟨fun _ => ?_, fun _ accepted => ?_⟩
    · rcases wrong with stale | other | high
      · exact .inl stale
      · exact .inr (.inl other)
      · by_cases numeral : str.IsNumeral
        · by_cases zero : str.bytes.head? = some 48
          · exact .inr (.inr (.inl ⟨zero, .inr ((CString.converted_octal zero).mp high)⟩))
          · rw [CString.converted_decimal numeral zero] at high
            exact .inr (.inr (.inr ⟨zero, .inr high⟩))
        · exact .inr (.inl numeral)
    · rw [rejected] at accepted
      contradiction
  · rw [not_or, not_or, not_not, not_not] at wrong
    obtain ⟨clear, numeral, high⟩ := wrong
    subst clear
    have small : str.converted < 2 ^ 63 - 1 := by omega
    have accepted := parse_accepts numeral width small
    have stored : (BitVec.ofNat width str.converted).toNat = str.converted % 2 ^ width :=
      BitVec.toNat_ofNat ..
    rw [accepted]
    constructor
    · intro typed
      obtain ⟨_, fits, same⟩ := typed rfl
      rw [stored] at same
      by_cases zero : str.bytes.head? = some 48
      · have least : str.converted ≤ str.decimal := by
          rw [CString.converted, CString.base, if_pos zero]
          exact number_takeWhile_le (by decide) (by decide) str.digits
        have most := Nat.mod_le str.converted (2 ^ width)
        have equal : str.converted = str.decimal := by omega
        exact .inr (.inr (.inl ⟨zero, .inl ((CString.converted_same zero).mp equal)⟩))
      · exact .inr (.inr (.inr ⟨zero, .inl fits⟩))
    · intro reads _
      have equal : str.converted = str.decimal ∧ str.decimal < 2 ^ width := by
        rcases reads with stale | other | octal | decimal
        · contradiction
        · exact absurd numeral other
        · have below := octal.2.resolve_right fun out =>
            high ((CString.converted_octal octal.1).mpr out)
          exact ⟨(CString.converted_same octal.1).mpr below, by omega⟩
        · have same := CString.converted_decimal numeral decimal.1
          rw [← same]
          exact ⟨rfl, by have fits := decimal.2; omega⟩
      refine ⟨numeral, equal.2, ?_⟩
      rw [stored, equal.1, Nat.mod_eq_of_lt equal.2]

/-- The options leave `errno` as it was. -/
theorem parseUl_errno (accepted : (parseUl str errno).ret = 0) :
    errno = 0 ∧ (parseUl str errno).errno = 0 := by
  by_cases wrong : errno ≠ 0 ∨ ¬ str.IsNumeral ∨ 2 ^ 63 ≤ str.converted + 1
  · have rejected : (parseUl str errno).ret = -1 := parse_rejects 64 wrong
    rw [rejected] at accepted
    contradiction
  · rw [not_or, not_or, not_not, not_not] at wrong
    obtain ⟨clear, numeral, high⟩ := wrong
    subst clear
    have parsed : parseUl str 0 = ⟨0, BitVec.ofNat 64 str.converted, 0⟩ :=
      parse_accepts numeral 64 (by omega)
    rw [parsed]
    exact ⟨rfl, rfl⟩

theorem readFlags_errno {known : FlagCases} {flags : List Flag} {sizes sizes' : Sizes}
    {errno' : Nat} (read : readFlags known flags sizes errno = some (sizes', errno')) :
    errno' = errno := by
  induction flags generalizing sizes errno with
  | nil =>
      cases read
      rfl
  | cons flag flags ih =>
      cases flag with
      | cacheSize arg =>
          simp only [readFlags] at read
          split at read
          · split at read
            · contradiction
            · rename_i accepted
              have kept := parseUl_errno (not_not.mp accepted)
              rw [ih read, kept.2, kept.1]
          · contradiction
      | fallocate arg =>
          simp only [readFlags] at read
          split at read
          · split at read
            · contradiction
            · rename_i accepted
              have kept := parseUl_errno (not_not.mp accepted)
              rw [ih read, kept.2, kept.1]
          · contradiction
      | other => contradiction

theorem withMinor_some {build : BitVec 32 → Command} {command : Command}
    (issued : withMinor str errno build = some command) :
    (parseUi str errno).ret = 0 ∧ command = build (parseUi str errno).out := by
  simp only [withMinor] at issued
  split at issued
  · contradiction
  · rename_i accepted
    exact ⟨not_not.mp accepted, (Option.some.inj issued).symm⟩

theorem withMinor_of_ret {build : BitVec 32 → Command} (accepted : (parseUi str errno).ret = 0) :
    withMinor str errno build = some (build (parseUi str errno).out) := by
  simp only [withMinor, accepted, ne_eq, not_true_eq_false, if_false]

/-- What a command that is issued says of the string for its minor. -/
structure CommandLine.Issued (commandLine : CommandLine) (errno : Nat) (command : Command)
    (str : CString) : Prop where
  written : commandLine.minorArg = some str
  accepted : (parseUi str errno).ret = 0
  minor : command.minor = (parseUi str errno).out

theorem handleDevice_issued {known : FlagCases} {line : ArgLine} {command : Command}
    {build : BitVec 32 → CString → CString → Sizes → Command}
    (same : ∀ minor bdev cow sizes, (build minor bdev cow sizes).minor = minor)
    (issued : handleDevice known build line errno = some command) :
    ∃ str, line.operands.getLast? = some str ∧ (parseUi str errno).ret = 0 ∧
      command.minor = (parseUi str errno).out := by
  simp only [handleDevice] at issued
  split at issued
  · contradiction
  · rename_i read
    cases readFlags_errno read
    split at issued
    · rename_i bdev cow minor operands
      obtain ⟨accepted, built⟩ := withMinor_some issued
      exact ⟨minor, by rw [operands]; rfl, accepted, by rw [built, same]⟩
    · contradiction

theorem handleOnly_issued {args : List CString} {command : Command}
    {build : BitVec 32 → Command} (same : ∀ minor, (build minor).minor = minor)
    (issued : handleOnly build args errno = some command) :
    ∃ str, args.getLast? = some str ∧ (parseUi str errno).ret = 0 ∧
      command.minor = (parseUi str errno).out := by
  simp only [handleOnly] at issued
  split at issued
  · rename_i minor
    obtain ⟨accepted, built⟩ := withMinor_some issued
    exact ⟨minor, rfl, accepted, by rw [built, same]⟩
  · contradiction

theorem CommandLine.handle_issued {commandLine : CommandLine} {command : Command}
    (issued : commandLine.handle errno = some command) :
    ∃ str, commandLine.Issued errno command str := by
  cases commandLine with
  | setupSnapshot line =>
      obtain ⟨str, written, accepted, minor⟩ := handleDevice_issued (fun _ _ _ _ => rfl) issued
      exact ⟨str, written, accepted, minor⟩
  | reloadSnapshot line =>
      obtain ⟨str, written, accepted, minor⟩ := handleDevice_issued (fun _ _ _ _ => rfl) issued
      exact ⟨str, written, accepted, minor⟩
  | reloadIncremental line =>
      obtain ⟨str, written, accepted, minor⟩ := handleDevice_issued (fun _ _ _ _ => rfl) issued
      exact ⟨str, written, accepted, minor⟩
  | destroy args =>
      obtain ⟨str, written, accepted, minor⟩ := handleOnly_issued (fun _ => rfl) issued
      exact ⟨str, written, accepted, minor⟩
  | transitionToIncremental args =>
      obtain ⟨str, written, accepted, minor⟩ := handleOnly_issued (fun _ => rfl) issued
      exact ⟨str, written, accepted, minor⟩
  | transitionToSnapshot line =>
      simp only [handle, handleTransitionSnap] at issued
      split at issued
      · contradiction
      · rename_i read
        cases readFlags_errno read
        split at issued
        · rename_i cow minor operands
          obtain ⟨accepted, built⟩ := withMinor_some issued
          refine ⟨minor, ?_, accepted, by rw [built]; rfl⟩
          simp only [minorArg, CommandLine.operands, operands]
          rfl
        · contradiction
  | reconfigure line =>
      simp only [handle, handleReconfigure] at issued
      split at issued
      · contradiction
      · rename_i read
        cases readFlags_errno read
        split at issued
        · rename_i minor operands
          obtain ⟨accepted, built⟩ := withMinor_some issued
          refine ⟨minor, ?_, accepted, by rw [built]; rfl⟩
          simp only [minorArg, CommandLine.operands, operands]
          rfl
        · contradiction

/-- No command line with this string for the minor gets a command for another minor. -/
def CString.NamesMinor (str : CString) (errno : Nat) : Prop :=
  ∀ (commandLine : CommandLine) (command : Command), commandLine.minorArg = some str →
    commandLine.handle errno = some command →
    str.IsNumeral ∧ command.minor.toNat = str.decimal

theorem CString.namesMinor_iff : str.NamesMinor errno ↔ (parseUi str errno).Typed str := by
  constructor
  · intro names accepted
    have issued : (CommandLine.destroy [str]).handle errno =
        some (.destroy (parseUi str errno).out) := withMinor_of_ret accepted
    obtain ⟨numeral, same⟩ := names _ _ rfl issued
    have stored : (parseUi str errno).out.toNat = str.decimal := same
    have bounded := (parseUi str errno).out.isLt
    exact ⟨numeral, stored ▸ bounded, stored⟩
  · intro typed commandLine command written issued
    obtain ⟨other, of⟩ := CommandLine.handle_issued issued
    cases written.symm.trans of.written
    obtain ⟨numeral, _, same⟩ := typed of.accepted
    rw [of.minor]
    exact ⟨numeral, same⟩

/-- The parsers return the number that was typed, and the commands go to the minor that was
written, exactly for the strings that read the same in the base the conversion takes. -/
theorem parsers_return_typed_iff (str : CString) (errno : Nat) :
    ((parseUl str errno).Typed str ↔ str.ReadsTyped 64 errno) ∧
      ((parseUi str errno).Typed str ↔ str.ReadsTyped 32 errno) ∧
      (str.NamesMinor errno ↔ str.ReadsTyped 32 errno) := by
  have minors : (parseUi str errno).Typed str ↔ str.ReadsTyped 32 errno :=
    parse_typed_iff (by decide)
  exact ⟨parse_typed_iff (by decide), minors, CString.namesMinor_iff.trans minors⟩

/-- `moo destroy 010` destroys minor 8. -/
theorem parsers_return_octal :
    ¬ ∀ (str : CString) (errno : Nat), (parseUl str errno).Typed str ∧
      (parseUi str errno).Typed str ∧ str.NamesMinor errno := by
  intro always
  let str : CString := ⟨[48, 49, 48], by simp⟩
  have issued : (CommandLine.destroy [str]).handle 0 = some (.destroy 8) := by decide +kernel
  obtain ⟨_, same⟩ := (always str 0).2.2 _ _ rfl issued
  revert same
  decide +kernel

/-- A minor beyond 32 bits is cut down to them. -/
example : (parseUi ⟨[52, 50, 57, 52, 57, 54, 55, 50, 57, 54], by simp⟩ 0).ret = 0 ∧
    (parseUi ⟨[52, 50, 57, 52, 57, 54, 55, 50, 57, 54], by simp⟩ 0).out = 0 := by
  decide +kernel

end Moocbt.Tools
