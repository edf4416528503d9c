import Canopen.Proofs.Compile.Counts
import Canopen.Proofs.Compile.Records
import Canopen.Proofs.Encoding.Initializers

/-!
# First parts

The first part of an array or a record gives the number of the others, and it has to be a single
byte.  This is looked for in its C type and its length, which a number of one byte has and a list of
one octet has as well: where nothing is reported, the first part is one of the two.
-/

namespace Canopen

namespace Encoding

/-- A byte is stored: a number that is given, or a list of one octet. -/
inductive StoresByte (type : Option TypeName) (default : Option Script) (text : String) : Prop where
  | number {octet : Nat} (typed : type = some (.known .unsigned8))
      (given : Default.isGiven type default = true) (written : IsOctet octet text)
  | list {octet : Nat} {word : String} (typed : type = some (.known .octetString))
      (written : IsOctet octet word) (listed : text = "\x7b" ++ word ++ "\x7d")

variable {known : DataType} {encoding : Encoding}

/-- Of all types only two have encodings of one byte. -/
theorem Made.of_byte (made : Made known.family encoding)
    (byte : Compile.isByte encoding = true) :
    (known = .unsigned8 ∧ ∃ octet, encoding = scalar .uint8 1 (.unsigned 2 octet)) ∨
      (known = .octetString ∧ ∃ octet, encoding = array .uint8 1 (.numbers 2 [octet])) := by
  obtain ⟨typed, length⟩ := (Compile.isByte_iff encoding).1 byte
  generalize family : known.family = general at made
  cases made with
  | unset => cases general <;> cases typed
  | truth _ | visibleText _ | unicodeText _ => cases typed
  | signed bytes number =>
      unfold scalar signedType at typed
      split at typed <;> cases typed
  | unsigned bytes number =>
      obtain rfl : bytes = 1 := length
      refine .inl ⟨?_, number, rfl⟩
      cases known <;> first | rfl | cases family
  | real bytes text =>
      unfold scalar realType at typed
      split at typed <;> cases typed
  | octetNumber bytes signed number =>
      -- these numbers have three octets at least
      obtain rfl : bytes = 1 := (Nat.mul_one bytes).symm.trans length
      cases known <;> cases family
  | octets octets =>
      obtain ⟨octet, rfl⟩ := List.length_eq_one_iff.1 ((Nat.mul_one _).symm.trans length)
      refine .inr ⟨?_, octet, rfl⟩
      cases known <;> first | rfl | cases family

theorem holds_of_typed {type : CType} {elements : Option Nat} {digits : Nat} {values : List Nat}
    (typed : Initializer.Typed type elements (.numbers digits values)) :
    ∀ value ∈ values, type.Holds value := by
  cases typed with
  | numbers _ held => exact held

theorem isOctet_hexConstant {octet : Nat} (held : CType.uint8.Holds octet) :
    IsOctet octet (Initializer.hexConstant 2 octet) := by
  have small : octet < 0x100 := by exact_mod_cast held.2
  exact ⟨_, rfl, Number.capitalHex_paddedHexChars (by decide) small⟩

/-- Blanks are no number. -/
theorem isGiven_of_scalar {default : Option Script} {elements : Int} {initial : Initializer}
    (done : ofFamily elements (Default.written false default) (.unsigned 1) = .ok encoding)
    (stored : encoding.initializer = some initial) :
    Default.isGiven (some (.known .unsigned8)) default = true := by
  cases blank : Default.isBlank (some (.known .unsigned8)) default with
  | false =>
      rw [Default.isGiven, blank]
      rfl
  | true =>
      have nothing : ofFamily elements (Default.written false default) (.unsigned 1) =
          .ok (emptyScalar 1) := ofFamily_blank blank
      rw [nothing] at done
      cases done
      cases stored

/-- A single byte of which nothing is found is stored. -/
theorem storesByte_of_isByte {type : Option TypeName} {default : Option Script} {elements : Int}
    (byte : Compile.isByte (ofDefault type default elements).1 = true)
    (sound : (ofDefault type default elements).2 = none) :
    ∃ value, (ofDefault type default elements).1.initializer = some value ∧
      StoresByte type default value.text := by
  match type with
  | none | some (.unknown _) => cases sound
  | some (.known known) =>
      rcases ofDefault_known known default elements with
        ⟨encoding, done, same⟩ | ⟨_, finding, same, _⟩
      · rw [same] at byte ⊢
        have typed (other : ∀ bytes, known.family ≠ .real bytes) : encoding.WellTyped := by
          have whole : (ofDefault (some (.known known)) default elements).1.WellTyped :=
            wellTyped_ofDefault other default
          rwa [same] at whole
        rcases (made_ofFamily done).of_byte byte with ⟨rfl, octet, rfl⟩ | ⟨rfl, octet, rfl⟩
        · obtain ⟨_, ⟨⟩, belongs⟩ := typed nofun _ rfl
          cases belongs with
          | unsigned held =>
              exact ⟨_, rfl, .number rfl (isGiven_of_scalar done rfl) (isOctet_hexConstant held)⟩
        · obtain ⟨_, ⟨⟩, belongs⟩ := typed nofun _ rfl
          have held := holds_of_typed belongs octet List.mem_cons_self
          exact ⟨_, rfl, .list rfl (isOctet_hexConstant held) rfl⟩
      · rw [same] at sound
        cases sound

end Encoding

/-- The part stands in the first place, and its value is a byte with this text. -/
structure SubEntry.IsFirst (sub : SubEntry) (text : String) : Prop where
  placed : sub.subindex = 0
  byte : Encoding.StoresByte sub.datum.dataType sub.datum.default text

/-- The image stores the text for the first part of the entry: on its own for an array, and as the
first member of the structure for a record. -/
structure Image.StoresFirst (image : Image) (entry : Entry) (sub : SubEntry) (text : String) :
    Prop where
  array : ∀ type subEntries, entry.content = .array type subEntries →
    image.StartsWith entry.storageLocation (entry.member ++ "_sub0") text
  record : ∀ subEntries, entry.content = .record subEntries → ∃ holder field,
    image.membersNamed entry.storageLocation entry.member = [holder] ∧
      holder.members.head? = some field ∧ field.name = CName.identifier sub.name.shown ∧
      field.members = [] ∧ field.initializer = text

namespace Compile

variable {lengths : StringLengths} {entry : Entry} {sub : SubEntry} {others : List SubEntry}

/-! ## Findings at the first part -/

theorem isByte_of_silent {element part : EncodedPart}
    (silent : arrayFindings element 0 part = []) : isByte part.encoding = true := by
  have counted := (List.append_eq_nil_iff.1 silent).2
  rw [if_pos rfl] at counted
  by_contra other
  rw [if_neg other] at counted
  cases counted

theorem isRecordCount_of_silent {first : EncodedPart} {rest : List EncodedPart}
    (silent : recordFindings (first :: rest) = []) : isRecordCount first = true := by
  have counted := (List.append_eq_nil_iff.1 (List.append_eq_nil_iff.1 silent).1).2
  by_contra other
  rw [if_neg other] at counted
  cases counted

variable {name : String} {warnings : List String} {entries : List Entry}
  (distinct : (entries.map (·.index)).Nodup) (inside : entry ∈ entries)

include distinct inside

/-- The first part of an array without findings is stored on its own. -/
theorem exists_first_array {type : Option TypeName} {count element : EncodedPart}
    {rest : List EncodedPart} (shape : entry.content = .array type (sub :: others))
    (parts : arrayParts lengths entry type (sub :: others) = count :: element :: rest)
    (kept : fields lengths entry = (arrayObject entry count element rest).fields)
    (silent : arrayFindingsFrom element 0 (count :: element :: rest) = []) :
    ∃ text, sub.IsFirst text ∧
      (imageOf lengths name warnings entries).StoresFirst entry sub text := by
  rw [arrayParts, List.mapIdx_cons] at parts
  obtain ⟨first, _⟩ := List.cons.inj parts
  have sound : arrayFindings element 0 count = [] := (List.append_eq_nil_iff.1 silent).1
  have byte := isByte_of_silent sound
  have finding := finding_eq_none sound
  have placed := subindex_of_silent sound
  rw [← first] at byte finding placed
  obtain ⟨value, stored, written⟩ := Encoding.storesByte_of_isByte byte finding
  have own := filter_arrayFields_count entry.member element (element :: rest)
    (first ▸ stored : count.encoding.initializer = some value)
  refine ⟨value.text, ⟨UInt8.toNat_inj.1 placed, written⟩, fun _ _ _ => ?_, fun _ other => ?_⟩
  · exact startsWith_imageOf distinct inside rfl (by rw [kept]; exact own) rfl
  · rw [shape] at other
    cases other

/-- The first part of a record without findings is the first member of its structure. -/
theorem exists_first_record (shape : entry.content = .record (sub :: others))
    (kept : fields lengths entry =
      (recordObject entry (recordParts lengths entry (sub :: others))).fields)
    (silent : recordFindings (recordParts lengths entry (sub :: others)) = []) :
    ∃ text, sub.IsFirst text ∧
      (imageOf lengths name warnings entries).StoresFirst entry sub text := by
  rw [recordParts, List.mapIdx_cons] at kept silent
  have finding := recordFindings_eq_nil silent _ List.mem_cons_self
  have counts := isRecordCount_of_silent silent
  simp only [isRecordCount, Bool.and_eq_true, decide_eq_true_eq] at counts
  obtain ⟨placed, byte⟩ := counts
  obtain ⟨value, stored, written⟩ := Encoding.storesByte_of_isByte byte finding
  have own : recordMember? (encodePart lengths entry 0 sub.datum.dataType sub) =
      some (storageField (CName.identifier sub.name.shown)
        (encodePart lengths entry 0 sub.datum.dataType sub).encoding value) :=
    congrArg (Option.map _) stored
  have alone : (imageOf lengths name warnings entries).membersNamed entry.storageLocation
      entry.member = _ := membersNamed_record distinct inside kept
  rw [recordFields_eq (by rw [List.filterMap_cons_some own]; exact List.cons_ne_nil _ _),
    List.filterMap_cons_some own] at alone
  refine ⟨value.text, ⟨placed, written⟩, fun _ _ other => ?_, fun _ _ => ?_⟩
  · rw [shape] at other
    cases other
  · exact ⟨_, _, alone, rfl, rfl, rfl, rfl⟩

/-- The first part of an object that no warning names is a stored byte. -/
theorem exists_first_of_silent (enough : 2 ≤ entry.content.subEntries.length)
    (silent : ¬ (imageOf lengths name warnings entries).Warns warnings.length entry) :
    ∃ sub text, entry.content.subEntries.head? = some sub ∧ sub.IsFirst text ∧
      (imageOf lengths name warnings entries).StoresFirst entry sub text := by
  obtain ⟨_, nothing⟩ := List.append_eq_nil_iff.1 (findings_eq_nil inside silent)
  obtain ⟨object, found, compiled⟩ := exists_compiled lengths (isComplete_of_silent nothing)
  have kept := fields_of_object? lengths found
  obtain ⟨sub, others, listed⟩ :=
    List.exists_cons_of_length_pos (Nat.lt_of_lt_of_le Nat.zero_lt_two enough)
  rw [listed]
  unfold content at nothing
  cases compiled with
  | var shape =>
      rw [shape] at listed
      cases listed
  | array shape parts =>
      obtain rfl := (congrArg Content.subEntries shape).symm.trans listed
      simp only [shape, array, parts] at nothing
      obtain ⟨text, first⟩ := exists_first_array distinct inside shape parts kept
        (eq_nil_of_reportOnce nothing)
      exact ⟨sub, text, rfl, first⟩
  | record shape several =>
      obtain rfl := (congrArg Content.subEntries shape).symm.trans listed
      simp only [shape, record, if_neg (Nat.not_lt.2 several)] at nothing
      obtain ⟨text, first⟩ := exists_first_record distinct inside shape kept nothing
      exact ⟨sub, text, rfl, first⟩

end Compile

namespace Example

/-- A document with an array and a record whose first parts are octet strings, one of them without a
default. -/
def octetsDocument : Value :=
  mapping [("objects", .list [
    mapping [("index", .int 0x2000), ("name", .text "A"), ("object_type", .int 8),
      ("sub_entries", .list [
        mapping [("subindex", .int 0), ("data_type", .int 10)],
        mapping [("subindex", .int 1), ("data_type", .int 5), ("default", .int 7)]])],
    mapping [("index", .int 0x2001), ("name", .text "B"), ("object_type", .int 9),
      ("sub_entries", .list [
        mapping [("subindex", .int 0), ("name", .text "Max"), ("data_type", .int 10),
          ("default", .text "05")],
        mapping [("subindex", .int 1), ("name", .text "Speed"), ("data_type", .int 5),
          ("default", .int 7)]])]])]

def octetArray : Entry where
  index := 0x2000
  name := "A"
  content := .array none [
    { subindex := 0, datum := { dataType := some (.known .octetString) } },
    { subindex := 1, datum := { dataType := some (.known .unsigned8), default := some "7" } }]

def octetRecord : Entry where
  index := 0x2001
  name := "B"
  content := .record [
    { subindex := 0, name := "Max"
      datum := { dataType := some (.known .octetString), default := some "05" } },
    { subindex := 1, name := "Speed"
      datum := { dataType := some (.known .unsigned8), default := some "7" } }]

def octets : Dictionary where
  objects := [octetArray, octetRecord]

theorem octets_accepted : octets.Accepted :=
  ⟨octetsDocument, by decide +kernel⟩

end Example

namespace Dictionary

/-- The first part of an array or a record of an accepted dictionary that no warning names has the
subindex zero, and its value is stored as a single byte: a given number of type UNSIGNED8, or a list
of one octet for an OCTET_STRING, which is not told from it. -/
theorem compile_firstPart {dictionary : Dictionary} (accepted : dictionary.Accepted)
    (lengths : StringLengths) (name : Option String) (warnings : List String) {entry : Entry}
    (enabled : entry ∈ dictionary.enabled) (enough : 2 ≤ entry.content.subEntries.length)
    (silent : ¬ (dictionary.compile lengths name warnings).Warns warnings.length entry) :
    ∃ sub text, entry.content.subEntries.head? = some sub ∧ sub.IsFirst text ∧
      (dictionary.compile lengths name warnings).StoresFirst entry sub text := by
  rw [compile_eq] at silent ⊢
  exact Compile.exists_first_of_silent accepted.enabled_indices_nodup enabled enough silent

/-- The first part of a motor is a number. -/
theorem compile_firstPart_motor :
    Example.drive.Accepted ∧
      ∃ sub, Example.motorParts.head? = some sub ∧ sub.IsFirst "0x05" ∧
        (Example.drive.compile defaultLength none []).StoresFirst Example.motor sub "0x05" := by
  have enabled : Example.motor ∈ Example.drive.enabled := by decide
  obtain ⟨sub, text, head, first, stored⟩ := compile_firstPart Example.drive_accepted
    defaultLength none [] enabled (by decide) Example.not_warns_motor
  have initializers : (((Example.drive.compile defaultLength none []).membersNamed "RAM"
      "x2000_motor").flatMap (·.members)).head?.map (·.initializer) = some "0x05" := by decide
  have member : Example.motor.member = "x2000_motor" := by decide
  obtain ⟨holder, field, alone, front, _, _, rfl⟩ := stored.record _ rfl
  have found : (Example.drive.compile defaultLength none []).membersNamed "RAM" "x2000_motor" =
      [holder] := by
    rw [← member]
    exact alone
  rw [found, List.flatMap_singleton, front] at initializers
  have spelled : field.initializer = "0x05" := Option.some.inj initializers
  rw [spelled] at first stored
  exact ⟨Example.drive_accepted, sub, head, first, stored⟩

/-- Without a warning the first part can be an octet string, without a default or with one, and it
is stored as a list. -/
theorem first_part_not_unsigned8 :
    Example.octets.Accepted ∧ Example.octetArray ∈ Example.octets.enabled ∧
      Example.octetRecord ∈ Example.octets.enabled ∧
      let image := Example.octets.compile (fixedLength 1) none []
      image.warnings = [] ∧
        (∀ entry ∈ Example.octets.enabled, entry.content.subEntries.head?.map (·.datum.dataType) =
          some (some (.known .octetString))) ∧
        Example.octetArray.content.subEntries.head?.map (·.datum.default) = some none ∧
        (image.membersNamed "RAM" "x2000_a_sub0").map (·.initializer) = ["\x7b0x00\x7d"] ∧
        ((image.membersNamed "RAM" "x2001_b").flatMap (·.members)).map (·.initializer) =
          ["\x7b0x05\x7d", "0x07"] :=
  ⟨Example.octets_accepted, by decide, by decide, by decide, by decide, by decide, by decide,
    by decide⟩

end Dictionary

end Canopen
