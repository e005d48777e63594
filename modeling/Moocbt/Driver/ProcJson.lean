import Moocbt.Driver.Cleanup
import Moocbt.Driver.Owning
import Moocbt.Driver.ProcSeqFile

/-! What is read from `/proc/moocbt-info` is JSON: one object with an array that has an entry for
each device. -/

namespace Moocbt.Driver

open Cow (CowManager Errno)
open Json (Body Document Elements Members Separates Value bytes decimal isPlain quoted)

variable {machine : Machine} {info : ProcInfo} {kernel : Kernel} {dev : Address}
  {device : SnapDevice} {minor : Nat} {terms : Terms} {name : String} {value : List UInt8}
  {json : Json}

section fields

/-- A member as the driver prints it, without what stands in front of it in its line. -/
def memberShow (name : String) (value : List UInt8) : List UInt8 :=
  quoted (bytes name) ++ bytes ": " ++ value

theorem memberShow_members (plain : name.toList.all isPlain = true) (shown : Value value json) :
    Members (memberShow name value) [(bytes name, json)] := by
  have member : Members (quoted (bytes name) ++ [] ++ bytes ":" ++ bytes " " ++ value)
      [(bytes name, json)] := .one (.bytes plain) (by decide) (by decide) shown
  have colon : bytes ": " = bytes ":" ++ bytes " " := by decide
  simpa only [memberShow, colon, List.append_nil, List.append_assoc] using member

theorem colon_eq : bytes "\": " = bytes "\"" ++ bytes ": " := by decide

theorem fieldShow_eq (name : String) (value : List UInt8) :
    fieldShow name value = bytes "\t\t\t" ++ memberShow name value := by
  have opened : bytes "\t\t\t\"" = bytes "\t\t\t" ++ bytes "\"" := by decide
  simp only [fieldShow, memberShow, quoted, opened, colon_eq, List.append_assoc]

theorem flagShow_eq (name : String) (present : Bool) :
    flagShow name present =
      bytes "\t\t" ++ memberShow name (bytes (if present then "true" else "false")) := by
  have opened : bytes "\t\t\"" = bytes "\t\t" ++ bytes "\"" := by decide
  simp only [flagShow, memberShow, quoted, opened, colon_eq, List.append_assoc]

/-- A field of a device that can be read. -/
structure Readable (field : String × List UInt8) : Prop where
  name : field.1.toList.all isPlain = true
  value : ∃ json, Value field.2 json

theorem Readable.decimal {number : Nat} (plain : name.toList.all isPlain = true) :
    Readable (name, decimal number) := ⟨plain, _, .number (.decimal number)⟩

theorem Readable.quoted {body : List UInt8} (plain : name.toList.all isPlain = true)
    (isBody : Body body) : Readable (name, quoted body) := ⟨plain, _, .string isBody⟩

theorem Readable.members {field : String × List UInt8} (readable : Readable field) :
    ∃ json, Members (memberShow field.1 field.2) [(bytes field.1, json)] := by
  obtain ⟨json, shown⟩ := readable.value
  exact ⟨json, memberShow_members readable.name shown⟩

theorem hexByte_plain {byte : Nat} (below : byte < 256) : (hexByte byte).all isPlain = true := by
  have high : byte / 16 < 16 := by omega
  have low : byte % 16 < 16 := Nat.mod_lt _ (by decide)
  have plain : ∀ digit, digit < 16 → isPlain digit.digitChar = true := by decide
  simp [hexByte, plain _ high, plain _ low]

theorem uuidShow_body (uuid : BitVec 128) :
    Body ((uuidShow uuid).flatMap String.utf8EncodeChar) := by
  apply Body.plain
  intro char member
  obtain ⟨i, _, listed⟩ := List.mem_flatMap.mp member
  exact List.all_eq_true.mp (hexByte_plain (Nat.mod_lt _ (by decide))) char listed

theorem cowShow_readable (cm : CowManager) : ∀ field ∈ cowShow cm, Readable field := by
  intro field member
  unfold cowShow at member
  rcases List.mem_append.mp member with always | versioned
  · simp only [List.mem_cons, List.not_mem_nil, or_false] at always
    rcases always with rfl | rfl | rfl
    · exact .decimal (by decide)
    · exact .decimal (by decide)
    · exact .quoted (by decide) (uuidShow_body cm.uuid)
  · split at versioned
    · simp only [List.mem_cons, List.not_mem_nil, or_false] at versioned
      rcases versioned with rfl | rfl
      · exact .decimal (by decide)
      · exact .decimal (by decide)
    · exact absurd versioned (by simp)

theorem errorShow_readable (device : SnapDevice) : ∀ field ∈ errorShow device, Readable field := by
  intro field member
  unfold errorShow at member
  cases failed : device.sdFailCode with
  | none =>
      rw [failed] at member
      exact absurd member (by simp)
  | some error =>
      rw [failed] at member
      change field ∈ (if errnoCode error = 0 then [] else _) at member
      split at member
      · exact absurd member (by simp)
      · rw [List.mem_singleton.mp member]
        exact ⟨(by decide : "error".toList.all isPlain = true), _, .number (.negative _)⟩

end fields

/-- What is read of a device is there, and its paths can stand in strings. -/
structure Kernel.Shows (info : ProcInfo) (kernel : Kernel) (device : SnapDevice) : Prop where
  cowPath : Body (pathShow info.cowPath device.sdCowPath)
  bdevPath : Body (pathShow info.bdevPath device.sdBdevPath)
  cow : ∀ cow, device.sdCow = some cow → (kernel.cows cow).isSome = true

theorem trackedShow_readable (shows : kernel.Shows info device) :
    ∃ fields, trackedShow kernel device = some fields ∧ ∀ field ∈ fields, Readable field := by
  unfold trackedShow
  cases held : device.sdCow with
  | none =>
      refine ⟨_, rfl, fun field member => ?_⟩
      rw [List.mem_singleton.mp member]
      exact .decimal (by decide)
  | some cow =>
      obtain ⟨object, stored⟩ := Option.isSome_iff_exists.mp (shows.cow cow held)
      refine ⟨("fallocate", decimal (device.sdFallocSize * megabyte % word64)) :: cowShow object.cm,
        by simp [stored], fun field member => ?_⟩
      rcases List.mem_cons.mp member with rfl | rest
      · exact .decimal (by decide)
      · exact cowShow_readable object.cm field rest

theorem verifiedShow_readable (shows : kernel.Shows info device) :
    ∃ fields, verifiedShow kernel device = some fields ∧ ∀ field ∈ fields, Readable field := by
  unfold verifiedShow
  split
  · exact ⟨[], rfl, fun _ member => absurd member (by simp)⟩
  · exact trackedShow_readable shows

theorem deviceFields_readable (shows : kernel.Shows info device) :
    ∃ rest, deviceFields machine info kernel device =
        some (("minor", decimal device.sdMinor) :: rest) ∧
      ∀ field ∈ rest, Readable field := by
  obtain ⟨fields, same, readable⟩ := verifiedShow_readable shows
  refine ⟨(commonShow machine info device).tail ++ fields ++ errorShow device, ?_, ?_⟩
  · simp [deviceFields, same, commonShow]
  · intro field member
    rcases List.mem_append.mp member with known | failed
    · rcases List.mem_append.mp known with common | verified
      · simp only [commonShow, List.tail_cons, List.mem_cons, List.not_mem_nil, or_false] at common
        rcases common with rfl | rfl | rfl
        · exact .quoted (by decide) shows.cowPath
        · exact .quoted (by decide) shows.bdevPath
        · exact .decimal (by decide)
      · exact readable field verified
    · exact errorShow_readable device field failed

/-- An entry without the tabs in front of it. -/
def objectShow (fields : List (String × List UInt8)) (device : SnapDevice) : List UInt8 :=
  bytes "\x7b\n" ++ (fields.flatMap fun field => fieldShow field.1 field.2 ++ bytes ",\n") ++
    fieldShow "state" (decimal device.sdState) ++ bytes "\n" ++ bytes "\t\t\x7d"

theorem entryShow_eq (fields : List (String × List UInt8)) (device : SnapDevice) :
    entryShow fields device = bytes "\t\t" ++ objectShow fields device := by
  have opened : bytes "\t\t\x7b\n" = bytes "\t\t" ++ bytes "\x7b\n" := by decide
  simp only [entryShow, objectShow, opened, List.append_assoc]

/-- An object with its members in lines of their own. -/
theorem lines_value {tab close : List UInt8} {first last : String × List UInt8}
    {rest : List (String × List UInt8)} {head final : List UInt8 × Json} (tabBlank : Json.Blank tab)
    (closeBlank : Json.Blank close) (begins : Members (memberShow first.1 first.2) [head])
    (readable : ∀ field ∈ rest, Readable field)
    (ends : Members (memberShow last.1 last.2) [final]) :
    ∃ further, Value (bytes "\x7b\n" ++
          ((first :: rest).flatMap fun field =>
            tab ++ memberShow field.1 field.2 ++ bytes ",\n") ++
          (tab ++ memberShow last.1 last.2) ++ bytes "\n" ++ close ++ bytes "\x7d")
        (.object (head :: (further ++ [final]))) ∧
      further.map Prod.fst = rest.map fun field => bytes field.1 := by
  have newline : Json.Blank (bytes "\n") := by decide
  have blank : ∀ {text : List UInt8}, Json.Blank text → Json.Blank (bytes "\n" ++ text) :=
    fun solid byte member => (List.mem_append.mp member).elim (newline byte) (solid byte)
  have separates : Separates (bytes ",\n" ++ tab) :=
    ⟨[], bytes "\n" ++ tab, by decide, blank tabBlank, rfl⟩
  obtain ⟨further, members, keys⟩ := Members.append begins separates fun field listed =>
    (readable field listed).members
  have whole := Value.object (blank tabBlank) (members.further separates ends) (blank closeBlank)
  have opened : bytes "\x7b\n" = bytes "\x7b" ++ bytes "\n" := by decide
  have lines := @Json.lines_eq _ rest first last (fun field => memberShow field.1 field.2) tab
    (bytes ",\n")
  refine ⟨further, ?_, keys⟩
  rw [opened, List.append_assoc _ _ (tab ++ _), lines]
  simpa only [List.flatMap_append, List.flatMap_cons, List.flatMap_nil, List.append_nil,
    List.append_assoc, List.cons_append, List.nil_append] using whole

theorem objectShow_value {rest : List (String × List UInt8)}
    (readable : ∀ field ∈ rest, Readable field) :
    ∃ json, Value (objectShow (("minor", decimal device.sdMinor) :: rest) device) json ∧
      json.field (bytes "minor") = some (.number (decimal device.sdMinor)) := by
  have begins : Members (memberShow "minor" (decimal device.sdMinor))
      [(bytes "minor", .number (decimal device.sdMinor))] :=
    memberShow_members (by decide) (.number (.decimal _))
  have ends : Members (memberShow "state" (decimal device.sdState))
      [(bytes "state", .number (decimal device.sdState))] :=
    memberShow_members (by decide) (.number (.decimal _))
  obtain ⟨further, whole, _⟩ := @lines_value (bytes "\t\t\t") (bytes "\t\t")
    ("minor", decimal device.sdMinor) ("state", decimal device.sdState) rest _ _ (by decide)
    (by decide) begins readable ends
  refine ⟨.object ((bytes "minor", .number (decimal device.sdMinor)) ::
    (further ++ [(bytes "state", .number (decimal device.sdState))])), ?_,
    @Json.field_append [] _ _ _ List.not_mem_nil⟩
  have closed : bytes "\t\t\x7d" = bytes "\t\t" ++ bytes "\x7d" := by decide
  rw [objectShow, closed, ← List.append_assoc]
  simp only [fieldShow_eq]
  exact whole

/-- An object of flags without the name in front of it. -/
def flagsObject (flags : List (String × Bool)) : List UInt8 :=
  bytes "\x7b\n" ++ flagsShow flags ++ bytes "\n\t\x7d"

theorem sectionShow_eq (name : String) (flags : List (String × Bool)) :
    sectionShow name flags = bytes "\t" ++ memberShow name (flagsObject flags) ++ bytes ",\n" := by
  have opened : bytes "\t\"" = bytes "\t" ++ bytes "\"" := by decide
  have begun : bytes "\": \x7b\n" = bytes "\"" ++ bytes ": " ++ bytes "\x7b\n" := by decide
  have ended : bytes "\n\t\x7d,\n" = bytes "\n\t\x7d" ++ bytes ",\n" := by decide
  simp only [sectionShow, flagsObject, memberShow, quoted, opened, begun, ended, List.append_assoc]

theorem flagsObject_value {flags : List (String × Bool)}
    (plain : ∀ flag ∈ flags, flag.1.toList.all isPlain = true) :
    ∃ json, Value (flagsObject flags) json := by
  have opened : bytes "\x7b\n" = bytes "\x7b" ++ bytes "\n" := by decide
  have closed : bytes "\n\t\x7d" = bytes "\n\t" ++ bytes "\x7d" := by decide
  cases flags with
  | nil =>
      have empty : Value (bytes "\x7b" ++ bytes "\n\n\t" ++ bytes "\x7d") (.object []) :=
        .emptyObject (by decide)
      exact ⟨_, empty⟩
  | cons first rest =>
      have member : ∀ flag ∈ first :: rest, ∃ json, Members
          (memberShow flag.1 (bytes (if flag.2 then "true" else "false"))) [(bytes flag.1, json)] :=
        fun flag listed => ⟨_, memberShow_members (plain flag listed) (.bool flag.2)⟩
      have separates : Separates (bytes ",\n" ++ bytes "\t\t") :=
        ⟨[], bytes "\n\t\t", by decide, by decide, by decide⟩
      obtain ⟨json, begins⟩ := member first List.mem_cons_self
      obtain ⟨further, members, _⟩ := Members.append begins separates fun flag listed =>
        member flag (List.mem_cons_of_mem first listed)
      have before : Json.Blank (bytes "\n\t\t") := by decide
      have after : Json.Blank (bytes "\n\t") := by decide
      have whole := Value.object before members after
      have tabs : bytes "\n\t\t" = bytes "\n" ++ bytes "\t\t" := by decide
      refine ⟨.object ([(bytes first.1, json)] ++ further), ?_⟩
      simpa only [flagsObject, flagsShow, flagShow_eq, opened, closed, tabs, List.append_assoc]
        using whole

section reading

/-- The iteration goes through the slots from zero to the end of the range. -/
theorem procOps_restarts : SeqFile.Restarts (kernel.procOps machine info) := by
  intro pos entry _
  change moocbtProcStart kernel (pos + 1) = moocbtProcGetIdx kernel pos
  simp [moocbtProcStart]

theorem procOps_slots {count pos : Nat} (ends : pos + count = kernel.highestMinor + 1) :
    SeqFile.Ahead (kernel.procOps machine info) (pos + 1)
      ((List.range' pos count).map SeqEntry.slot) := by
  induction count generalizing pos with
  | zero =>
      apply SeqFile.Ahead.nil
      change moocbtProcStart kernel (pos + 1) = none
      simp only [moocbtProcStart, moocbtProcGetIdx]
      rw [if_neg (Nat.succ_ne_zero pos), if_pos (by omega)]
  | succ count ih =>
      rw [List.range'_succ, List.map_cons]
      apply SeqFile.Ahead.cons
      · change moocbtProcStart kernel (pos + 1) = some (.slot pos)
        simp only [moocbtProcStart, moocbtProcGetIdx]
        rw [if_neg (Nat.succ_ne_zero pos), if_neg (by omega), Nat.add_sub_cancel]
      · exact ih (by omega)

theorem procOps_ahead : SeqFile.Ahead (kernel.procOps machine info) 0
    (.startToken :: (List.range' 0 (kernel.highestMinor + 1)).map SeqEntry.slot) :=
  .cons rfl (procOps_slots (Nat.zero_add _))

/-- The object of the device in a slot. -/
def Kernel.objectAt (machine : Machine) (info : ProcInfo) (kernel : Kernel) (minor : Nat) :
    List UInt8 :=
  ((kernel.snapDevices minor).bind fun dev => (kernel.devices dev).bind fun device =>
    (deviceFields machine info kernel device).map fun fields => objectShow fields device).getD []

/-- The same with what stands in front of it in the list. -/
def Kernel.entryAt (machine : Machine) (info : ProcInfo) (kernel : Kernel) (minor : Nat) :
    List UInt8 :=
  (if minor ≠ kernel.lowestMinor then bytes ",\n" else []) ++
    (bytes "\t\t" ++ kernel.objectAt machine info minor)

/-- What is printed for a slot. -/
def Kernel.pieceAt (machine : Machine) (info : ProcInfo) (kernel : Kernel) (minor : Nat) :
    List UInt8 :=
  if (kernel.snapDevices minor).isSome then
    kernel.entryAt machine info minor ++ if minor = kernel.highestMinor then footerShow else []
  else []

theorem moocbtProcShow_slot (order : kernel.InOrder machine terms) (live : terms.live)
    (shows : ∀ minor dev device, kernel.Holds minor dev device → kernel.Shows info device)
    (minor : Nat) :
    moocbtProcShow machine info kernel (.slot minor) = some (kernel.pieceAt machine info minor) := by
  cases held : kernel.snapDevices minor with
  | none => simp [moocbtProcShow, Kernel.pieceAt, held]
  | some dev =>
      obtain ⟨device, found⟩ := Option.isSome_iff_exists.mp (order.live live minor dev held)
      have numbered := (order.settled minor dev device ⟨held, found⟩ id).sdMinor
      obtain ⟨rest, fields, _⟩ := @deviceFields_readable machine info kernel device
        (shows minor dev device ⟨held, found⟩)
      rw [numbered] at fields
      simp [moocbtProcShow, Kernel.pieceAt, Kernel.entryAt, Kernel.objectAt, held, found, fields,
        numbered, entryShow_eq]

theorem objectAt_value (order : kernel.InOrder machine terms) (live : terms.live)
    (shows : ∀ minor dev device, kernel.Holds minor dev device → kernel.Shows info device)
    (held : kernel.snapDevices minor = some dev) :
    ∃ json, Value (kernel.objectAt machine info minor) json ∧
      json.field (bytes "minor") = some (.number (decimal minor)) := by
  obtain ⟨device, found⟩ := Option.isSome_iff_exists.mp (order.live live minor dev held)
  have numbered := (order.settled minor dev device ⟨held, found⟩ id).sdMinor
  obtain ⟨rest, fields, readable⟩ := @deviceFields_readable machine info kernel device
    (shows minor dev device ⟨held, found⟩)
  have object := @objectShow_value device rest readable
  unfold Kernel.objectAt
  rw [held, Option.bind_some, found, Option.bind_some, fields, Option.map_some, Option.getD_some]
  rw [numbered] at object ⊢
  exact object

theorem flatMap_filter {α β : Type} {p : α → Bool} {f : α → List β}
    (others : ∀ item, p item = false → f item = []) (items : List α) :
    (items.filter p).flatMap f = items.flatMap f := by
  induction items with
  | nil => rfl
  | cons item rest ih =>
      rw [List.filter_cons, List.flatMap_cons]
      split
      · rw [List.flatMap_cons, ih]
      · rename_i free
        rw [others item (Bool.not_eq_true _ ▸ free), ih, List.nil_append]

/-- The list of the devices. -/
def Kernel.entriesText (machine : Machine) (info : ProcInfo) (kernel : Kernel) : List UInt8 :=
  (kernel.used machine.maxSnapDevices).flatMap (kernel.entryAt machine info)

theorem pieces_used (range : kernel.RangeExact machine) :
    (List.range' 0 (kernel.highestMinor + 1)).flatMap (kernel.pieceAt machine info) =
      (kernel.used machine.maxSnapDevices).flatMap (kernel.pieceAt machine info) := by
  have scanned := range.scanned_from fun _ => Nat.zero_le kernel.lowestMinor
  rw [Nat.sub_zero] at scanned
  rw [← @flatMap_filter _ _ fun minor => (kernel.snapDevices minor).isSome, scanned]
  · rfl
  · intro minor free
    unfold Kernel.pieceAt
    rw [if_neg (by simp [free])]

/-- The last one is followed by the end of the file. -/
theorem pieces_eq (range : kernel.RangeExact machine)
    (any : (Occupancy.Occupied kernel.snapDevices).Nonempty) :
    (List.range' 0 (kernel.highestMinor + 1)).flatMap (kernel.pieceAt machine info) =
      kernel.entriesText machine info ++ footerShow := by
  obtain ⟨front, listed, others⟩ := range.used_last any
  have occupied : ∀ minor ∈ front ++ [kernel.highestMinor],
      (kernel.snapDevices minor).isSome = true := by
    rw [← listed]
    exact fun minor member => (Occupancy.mem_used.mp member).2
  have earlier : ∀ minor ∈ front,
      kernel.pieceAt machine info minor = kernel.entryAt machine info minor := by
    intro minor member
    unfold Kernel.pieceAt
    rw [if_pos (occupied minor (List.mem_append_left _ member)), if_neg (others minor member),
      List.append_nil]
  have last : kernel.pieceAt machine info kernel.highestMinor =
      kernel.entryAt machine info kernel.highestMinor ++ footerShow := by
    unfold Kernel.pieceAt
    rw [if_pos (occupied _ (List.mem_append_right _ List.mem_cons_self)), if_pos rfl]
  have listed' : kernel.used machine.maxSnapDevices = front ++ [kernel.highestMinor] := listed
  rw [pieces_used range, Kernel.entriesText, listed', List.flatMap_append, List.flatMap_append,
    List.flatMap_singleton, List.flatMap_singleton, List.flatMap_congr earlier, last,
    List.append_assoc]

theorem entriesText_eq (range : kernel.RangeExact machine)
    (any : (Occupancy.Occupied kernel.snapDevices).Nonempty) :
    ∃ rest, kernel.used machine.maxSnapDevices = kernel.lowestMinor :: rest ∧
      kernel.entriesText machine info =
        bytes "\t\t" ++ (kernel.objectAt machine info kernel.lowestMinor ++
          rest.flatMap fun minor => bytes ",\n" ++ bytes "\t\t" ++ kernel.objectAt machine info minor) := by
  obtain ⟨rest, listed, others⟩ := range.used_first any
  have listed' : kernel.used machine.maxSnapDevices = kernel.lowestMinor :: rest := listed
  have later : ∀ minor ∈ rest, kernel.entryAt machine info minor =
      bytes ",\n" ++ bytes "\t\t" ++ kernel.objectAt machine info minor := by
    intro minor member
    unfold Kernel.entryAt
    rw [if_pos (others minor member), List.append_assoc]
  refine ⟨rest, listed', ?_⟩
  rw [Kernel.entriesText, listed', List.flatMap_cons, List.flatMap_congr later, Kernel.entryAt,
    if_neg (not_not.mpr rfl), List.nil_append, List.append_assoc]

/-- The array of the devices. -/
theorem entriesText_value (order : kernel.InOrder machine terms) (live : terms.live)
    (shows : ∀ minor dev device, kernel.Holds minor dev device → kernel.Shows info device) :
    ∃ items, Value (bytes "[\n" ++ kernel.entriesText machine info ++ bytes "\n\t]") (.array items) ∧
      List.Forall₂ (fun minor item =>
        item.field (bytes "minor") = some (.number (decimal minor)))
        (kernel.used machine.maxSnapDevices) items := by
  have value : ∀ minor ∈ kernel.used machine.maxSnapDevices, ∃ json,
      Value (kernel.objectAt machine info minor) json ∧
        json.field (bytes "minor") = some (.number (decimal minor)) := by
    intro minor listed
    obtain ⟨dev, held⟩ := Option.isSome_iff_exists.mp
      (show (kernel.snapDevices minor).isSome = true from (Occupancy.mem_used.mp listed).2)
    exact objectAt_value order live shows held
  by_cases any : (Occupancy.Occupied kernel.snapDevices).Nonempty
  · obtain ⟨rest, listed, same⟩ := @entriesText_eq machine info kernel order.range any
    rw [listed] at value
    obtain ⟨json, first, holds⟩ := value kernel.lowestMinor List.mem_cons_self
    have separates : Separates (bytes ",\n" ++ bytes "\t\t") :=
      ⟨[], bytes "\n\t\t", by decide, by decide, by decide⟩
    obtain ⟨further, elements, others⟩ := Elements.append (.one first) separates
      fun minor member => value minor (List.mem_cons_of_mem _ member)
    have before : Json.Blank (bytes "\n\t\t") := by decide
    have after : Json.Blank (bytes "\n\t") := by decide
    have whole := Value.array before elements after
    have opened : bytes "[\n" = bytes "[" ++ bytes "\n" := by decide
    have closed : bytes "\n\t]" = bytes "\n\t" ++ bytes "]" := by decide
    have tabs : bytes "\n\t\t" = bytes "\n" ++ bytes "\t\t" := by decide
    refine ⟨[json] ++ further, ?_, ?_⟩
    · simpa only [same, opened, closed, tabs, List.append_assoc] using whole
    · rw [listed]
      exact .cons holds others
  · have none : kernel.used machine.maxSnapDevices = [] := by
      rw [List.eq_nil_iff_forall_not_mem]
      exact fun minor listed => any ⟨minor, (Occupancy.mem_used.mp listed).2⟩
    have empty : Value (bytes "[" ++ bytes "\n\n\t" ++ bytes "]") (.array []) :=
      .emptyArray (by decide)
    refine ⟨[], ?_, ?_⟩
    · rw [Kernel.entriesText, none]
      exact empty
    · rw [none]
      exact .nil


/-- A text is an object that lists the devices: one for each of the minors, in this order. -/
def ListsDevices (minors : List Nat) (text : List UInt8) : Prop :=
  ∃ members items, Document text (.object members) ∧
    Json.field (bytes "devices") (.object members) = some (.array items) ∧
    List.Forall₂ (fun minor item =>
      item.field (bytes "minor") = some (.number (decimal minor))) minors items

/-- The members in front of the devices. -/
def infoShow (info : ProcInfo) : List (String × List UInt8) :=
  [("build_features", flagsObject (info.features.map BuildFlag.toPair)),
    ("build_symbols", flagsObject (info.symbols.map BuildFlag.toPair)),
    ("ibt_status", flagsObject info.ibtStatus.flags)]

theorem infoShow_readable (info : ProcInfo) : ∀ field ∈ infoShow info, Readable field := by
  have listed : ∀ flags : List BuildFlag, ∀ flag ∈ flags.map BuildFlag.toPair,
      flag.1.toList.all isPlain = true := by
    intro flags flag member
    obtain ⟨entry, _, same⟩ := List.mem_map.mp member
    rw [← same]
    exact entry.plain
  intro field member
  simp only [infoShow, List.mem_cons, List.not_mem_nil, or_false] at member
  rcases member with rfl | rfl | rfl
  · exact ⟨(by decide : "build_features".toList.all isPlain = true), flagsObject_value (listed _)⟩
  · exact ⟨(by decide : "build_symbols".toList.all isPlain = true), flagsObject_value (listed _)⟩
  · refine ⟨(by decide : "ibt_status".toList.all isPlain = true), flagsObject_value ?_⟩
    simp only [IbtStatus.flags, List.forall_mem_cons]
    decide

theorem document_lists {text : List UInt8} {items : List Json} {minors : List Nat}
    (devices : Value (bytes "[\n" ++ text ++ bytes "\n\t]") (.array items))
    (each : List.Forall₂ (fun minor item =>
      item.field (bytes "minor") = some (.number (decimal minor))) minors items) :
    ListsDevices minors (headerShow info ++ text ++ footerShow) := by
  have begins : Members (memberShow "version" (quoted (bytes moocbtVersion)))
      [(bytes "version", .string (bytes moocbtVersion))] :=
    memberShow_members (by decide) (.string (.bytes (by decide)))
  have ends := memberShow_members (by decide : "devices".toList.all isPlain = true) devices
  obtain ⟨further, whole, keys⟩ := @lines_value (bytes "\t") []
    ("version", quoted (bytes moocbtVersion)) ("devices", bytes "[\n" ++ text ++ bytes "\n\t]")
    (infoShow info) _ _ (by decide) (by decide) begins (infoShow_readable info) ends
  let front := (bytes "version", Json.string (bytes moocbtVersion)) :: further
  refine ⟨front ++ [(bytes "devices", .array items)], items, ?_, ?_, each⟩
  · have document : Document (_ ++ _ ++ bytes "\n") _ :=
      .mk (by decide : Json.Blank []) whole (by decide)
    have version : bytes "\t\"version\": \"" =
        bytes "\t" ++ bytes "\"" ++ bytes "version" ++ bytes "\"" ++ bytes ": " ++ bytes "\"" := by
      decide
    have ended : bytes "\",\n" = bytes "\"" ++ bytes ",\n" := by decide
    have opened : bytes "\t\"devices\": [\n" = bytes "\t" ++ bytes "\"" ++ bytes "devices" ++
        bytes "\"" ++ bytes ": " ++ bytes "[\n" := by
      decide
    have closed : bytes "\n\t]\n" = bytes "\n\t]" ++ bytes "\n" := by decide
    have last : bytes "\x7d\n" = bytes "\x7d" ++ bytes "\n" := by decide
    simp only [headerShow, footerShow, moocbtProcIbtShow, sectionShow_eq, version, ended, opened,
      closed, last]
    simpa only [front, infoShow, memberShow, quoted, List.flatMap_cons, List.flatMap_nil,
      List.append_assoc, List.nil_append, List.append_nil, List.cons_append] using document
  · apply Json.field_append
    simp only [front, List.map_cons, keys, infoShow]
    decide

/-- However the file is read from its beginning, it lists the devices. -/
structure Kernel.Listed (machine : Machine) (info : ProcInfo) (kernel : Kernel) : Prop where
  ends : ∃ output, SeqFile.Reads (kernel.procOps machine info) 0 output
  lists : ∀ output, SeqFile.Reads (kernel.procOps machine info) 0 output →
    ListsDevices (kernel.used machine.maxSnapDevices) output

/-- The text of the file. -/
theorem printAll_eq (order : kernel.InOrder machine terms) (live : terms.live)
    (shows : ∀ minor dev device, kernel.Holds minor dev device → kernel.Shows info device)
    (footed : 1 < machine.maxSnapDevices ∨ (Occupancy.Occupied kernel.snapDevices).Nonempty) :
    SeqFile.printAll (moocbtProcShow machine info kernel)
        (.startToken :: (List.range' 0 (kernel.highestMinor + 1)).map SeqEntry.slot) =
      some (headerShow info ++ kernel.entriesText machine info ++ footerShow) := by
  have pieces : SeqFile.printAll (moocbtProcShow machine info kernel)
      ((List.range' 0 (kernel.highestMinor + 1)).map SeqEntry.slot) =
        some ((List.range' 0 (kernel.highestMinor + 1)).flatMap (kernel.pieceAt machine info)) :=
    SeqFile.printAll_map (moocbtProcShow_slot order live shows) _
  have whole : SeqFile.printAll (moocbtProcShow machine info kernel)
      (.startToken :: (List.range' 0 (kernel.highestMinor + 1)).map SeqEntry.slot) =
        some ((headerShow info ++
          if kernel.highestMinor < kernel.lowestMinor then footerShow else []) ++
          (List.range' 0 (kernel.highestMinor + 1)).flatMap (kernel.pieceAt machine info)) := by
    rw [SeqFile.printAll, pieces]
    rfl
  rw [whole]
  by_cases any : (Occupancy.Occupied kernel.snapDevices).Nonempty
  · obtain ⟨least, greatest⟩ := order.range.inUse any
    have ordered : kernel.lowestMinor ≤ kernel.highestMinor := least.2 greatest.1
    rw [pieces_eq order.range any, if_neg (Nat.not_lt.mpr ordered), List.append_nil,
      List.append_assoc]
  · have none := Set.not_nonempty_iff_eq_empty.mp any
    obtain ⟨low, high⟩ := order.range.unused none
    have large : 1 < machine.maxSnapDevices := footed.resolve_right any
    have used : kernel.used machine.maxSnapDevices = [] := by
      rw [List.eq_nil_iff_forall_not_mem]
      exact fun minor listed => any ⟨minor, (Occupancy.mem_used.mp listed).2⟩
    rw [pieces_used order.range, Kernel.entriesText, used, if_pos (by omega)]
    simp

theorem listed (order : kernel.InOrder machine terms) (live : terms.live)
    (shows : ∀ minor dev device, kernel.Holds minor dev device → kernel.Shows info device)
    (footed : 1 < machine.maxSnapDevices ∨ (Occupancy.Occupied kernel.snapDevices).Nonempty) :
    kernel.Listed machine info := by
  have text := @printAll_eq machine info kernel terms order live shows footed
  have reads := fun output =>
    @SeqFile.reads_iff _ _ 0 _ output (@procOps_restarts machine info kernel) procOps_ahead
  constructor
  · exact ⟨_, (reads _).mpr text⟩
  · intro output read
    have same := ((reads output).mp read).symm.trans text
    cases same
    obtain ⟨items, value, each⟩ := @entriesText_value machine info kernel terms order live shows
    exact document_lists value each

end reading

section runs

variable {files : CowPath → Option Cow.CowFile}

/-- The paths of the devices in the table can stand in strings. -/
def Kernel.Printable (info : ProcInfo) (kernel : Kernel) : Prop :=
  ∀ minor dev device, kernel.Holds minor dev device →
    Body (pathShow info.cowPath device.sdCowPath) ∧ Body (pathShow info.bdevPath device.sdBdevPath)

theorem Kernel.Owning.shows (owning : kernel.Owning fun _ => False)
    (printable : kernel.Printable info) (held : kernel.Holds minor dev device) :
    kernel.Shows info device where
  cowPath := (printable minor dev device held).1
  bdevPath := (printable minor dev device held).2
  cow := fun cow has => owning.alive dev cow ((heldCow_found held.2).trans has)

/-- With one slot an empty range looks like that of a device in it. -/
theorem unlisted (order : kernel.InOrder machine terms) (single : machine.maxSnapDevices = 1)
    (unused : Occupancy.Occupied kernel.snapDevices = ∅) : ¬ kernel.Listed machine info := by
  obtain ⟨low, high⟩ := order.range.unused unused
  have free : kernel.snapDevices 0 = none := by
    have away : 0 ∉ Occupancy.Occupied kernel.snapDevices := by simp [unused]
    simpa [Occupancy.Occupied] using away
  have text : SeqFile.printAll (moocbtProcShow machine info kernel)
      (.startToken :: (List.range' 0 (kernel.highestMinor + 1)).map SeqEntry.slot) =
        some (headerShow info) := by
    simp [high, low, single, SeqFile.printAll, moocbtProcShow, free]
  intro listed
  have read := (SeqFile.reads_iff (@procOps_restarts machine info kernel) procOps_ahead).mpr text
  obtain ⟨members, items, document, _⟩ := listed.lists _ read
  have closes := document.last_object
  have opened : bytes "\t\"devices\": [\n" =
      bytes "\t\"devices\": " ++ 0x5B :: bytes "\n" := by decide
  unfold headerShow at closes
  rw [opened, ← List.append_assoc, Json.last_append (by decide) (by decide)] at closes
  exact absurd closes (by decide)

/-- Where each device that was destroyed left its slot, the file is JSON but for the empty table
of a driver for one device. -/
theorem proc_listed_iff (positive : 0 < machine.maxSnapDevices)
    (reached : Transition.Reaches (Kernel.step machine)
      (fun kernel call => call.Releases machine kernel) (machine.boot files) kernel)
    (printable : kernel.Printable info) :
    kernel.Listed machine info ↔
      1 < machine.maxSnapDevices ∨ (Occupancy.Occupied kernel.snapDevices).Nonempty := by
  let terms : Terms := ⟨False, True⟩
  have order : kernel.InOrder machine terms := by
    apply Kernel.Orderly.reached _ _ reached
    · exact False.elim
    · exact fun _ _ _ releases => releases
  have owning := Owning.reached reached
  constructor
  · intro lists
    by_contra neither
    obtain ⟨few, empty⟩ := not_or.mp neither
    exact unlisted order (by omega) (Set.not_nonempty_iff_eq_empty.mp empty) lists
  · exact listed order trivial fun _ _ _ => owning.shows printable

/-- Paths without any special characters. -/
def ProcInfo.simple : ProcInfo where
  features := [⟨"HAVE_BD_SUPER", true, by decide⟩, ⟨"HAVE_BDEV_FREEZE", false, by decide⟩]
  symbols := [⟨"FTRACE_SET_FILTER_IP", true, by decide⟩]
  ibtStatus := ⟨true, true, true, true, false, false, true⟩
  cowPath := fun _ => bytes "/.moocbt"
  bdevPath := fun _ => bytes "/dev/sda1"

theorem ProcInfo.simple_printable (kernel : Kernel) : kernel.Printable .simple := by
  have shows : ∀ (text : String) path, text.toList.all isPlain = true →
      Body (pathShow (fun _ => bytes text) path) := by
    intro text path plain
    cases path with
    | none => exact .bytes (by decide)
    | some _ => exact .bytes plain
  intro minor dev device _
  exact ⟨shows "/.moocbt" _ (by decide), shows "/dev/sda1" _ (by decide)⟩

/-- Of two devices the first was destroyed. -/
theorem proc_listed_iff_second :
    ∃ kernel, Transition.Reaches (Kernel.step .small)
        (fun kernel call => call.Releases .small kernel) (Machine.small.boot fun _ => none) kernel ∧
      kernel.used 24 = [1] ∧ kernel.Listed .small .simple := by
  have ran : ((Transition.run
      (Transition.checked (Kernel.step .small) fun kernel call => call.Releases .small kernel)
      (Machine.small.boot fun _ => none)
      [(Event.mount 1 (some .writable)).fine, (Event.mount 2 (some .writable)).fine,
        (Event.setupSnap 0 1 ⟨1, 7⟩ 1 0 0#128).fine, (Event.setupSnap 1 2 ⟨2, 7⟩ 1 0 0#128).fine,
        (Event.destroy 0).fine]).any fun kernel => decide (kernel.used 24 = [1])) = true := by
    decide +kernel
  obtain ⟨kernel, reached, holds⟩ := Transition.Reaches.of_evaluated ran
  refine ⟨kernel, reached, of_decide_eq_true holds, ?_⟩
  exact (proc_listed_iff (by decide) reached (ProcInfo.simple_printable kernel)).mpr
    (.inl (by decide))

/-- A driver for one device, and none is set up. -/
theorem proc_listed_iff_empty :
    let machine : Machine := { Machine.small with maxSnapDevices := 1 }
    let kernel := machine.boot fun _ => none
    (∀ minor, kernel.snapDevices minor = none) ∧ ¬ kernel.Listed machine .simple := by
  intro machine kernel
  have free : ∀ minor, kernel.snapDevices minor = none := fun _ => rfl
  have empty : Occupancy.Occupied kernel.snapDevices = ∅ := by
    simp [Occupancy.Occupied, free]
  let terms : Terms := ⟨False, True⟩
  have order : kernel.InOrder machine terms := .boot machine _
  exact ⟨free, unlisted order rfl empty⟩

end runs

end Moocbt.Driver
