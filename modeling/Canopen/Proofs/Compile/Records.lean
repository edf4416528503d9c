import Canopen.Proofs.Compile.Defaults
import Canopen.Proofs.Image.Links

/-!
# Structures of records

A record is stored as one structure with a member for each part that has a value.  The members are
named by the parts alone: parts whose names make one identifier have members of one name, and an
address by this name leads to all of them.
-/

namespace Canopen

/-- The name that a part makes for its member. -/
def EncodedPart.symbol (part : EncodedPart) : String :=
  CName.identifier part.sub.name.shown

namespace Compile

/-- The parts that are stored. -/
def storedParts (parts : List EncodedPart) : List EncodedPart :=
  parts.filter (·.encoding.isDefined)

end Compile

/-- The image holds the parts of a record as the members of one structure, and the descriptors of
the parts refer to them. -/
structure Image.HoldsParts (image : Image) (entry : Entry) (parts : List EncodedPart)
    (members : List StorageField) (descriptors : List RecordPart) : Prop where
  /-- Each part has a descriptor, with an address if the part is stored. -/
  described :
    descriptors.map (fun descriptor => (descriptor.subindex, descriptor.data.isSome)) =
      parts.map fun part => (part.sub.subindex.toNat, part.encoding.isDefined)
  held :
    image.membersNamed entry.storageLocation entry.member =
      if members.isEmpty then [] else [{ cType := "struct", name := entry.member, members }]
  made :
    List.Forall₂ (fun part member => Compile.recordMember? part = some member)
      (Compile.storedParts parts) members
  named : members.map (·.name) = (Compile.storedParts parts).map (·.symbol)
  distinct :
    (members.map (·.name)).Nodup ↔ (Compile.storedParts parts).Pairwise (·.symbol ≠ ·.symbol)
  /-- A name without an identifier character makes no identifier. -/
  unnamed :
    ∀ part ∈ Compile.storedParts parts,
      (part.symbol = "" ↔ part.sub.name.shown.toList.find? CName.isWordChar = none)
  valid :
    ∀ part ∈ Compile.storedParts parts, ∀ first,
      part.sub.name.shown.toList.find? CName.isWordChar = some first → first.isDigit = false →
        CName.isIdentifier part.symbol.toList = true
  /-- The address of a part leads to its own member, and to this one alone where no other part has
  its name. -/
  addressed :
    ∀ (position : Nat) (part : EncodedPart), (Compile.storedParts parts)[position]? = some part →
      ∃ member reference, members[position]? = some member ∧
        (descriptors.filterMap (·.data))[position]? = some reference ∧
        member ∈ image.targets reference ∧
        (image.targets reference = [member] ↔
          (Compile.storedParts parts).countP (·.symbol == part.symbol) = 1)

namespace Compile

/-! ## The structure of a record -/

theorem filter_eq_singleton_iff {α : Type} {keep : α → Bool} {list : List α} {item : α}
    (inside : item ∈ list) (kept : keep item = true) :
    list.filter keep = [item] ↔ list.countP keep = 1 := by
  have among : item ∈ list.filter keep := List.mem_filter.2 ⟨inside, kept⟩
  rw [List.countP_eq_length_filter, List.length_eq_one_iff]
  constructor
  · exact fun alone => ⟨item, alone⟩
  · rintro ⟨other, alone⟩
    rw [alone] at among ⊢
    rw [List.mem_singleton.1 among]

variable {entry : Entry} {parts : List EncodedPart}

theorem forall₂_recordMembers (parts : List EncodedPart) :
    List.Forall₂ (fun part member => recordMember? part = some member) (storedParts parts)
      (parts.filterMap recordMember?) :=
  forall₂_filterMap parts fun part => by
    rw [recordMember?, Option.isSome_map]
    rfl

theorem isSome_recordPart (entry : Entry) (part : EncodedPart) :
    (recordPart entry part).data.isSome = part.encoding.isDefined := by
  rw [recordPart, referTo, Option.isSome_map]
  rfl

theorem forall₂_references (entry : Entry) (parts : List EncodedPart) :
    List.Forall₂ (fun part reference => (recordPart entry part).data = some reference)
      (storedParts parts) ((parts.map (recordPart entry)).filterMap (·.data)) := by
  rw [List.filterMap_map]
  exact forall₂_filterMap parts (isSome_recordPart entry)

theorem map_name_recordMembers (parts : List EncodedPart) :
    (parts.filterMap recordMember?).map (·.name) = (storedParts parts).map (·.symbol) := by
  rw [← List.forall₂_eq_eq_eq, List.forall₂_map_left_iff, List.forall₂_map_right_iff]
  refine (forall₂_recordMembers parts).flip.imp ?_
  intro member part made
  obtain ⟨value, _, rfl⟩ := Option.map_eq_some_iff.1 made
  rfl

theorem recordFields_eq_if (entry : Entry) (parts : List EncodedPart) :
    recordFields entry parts =
      if (parts.filterMap recordMember?).isEmpty then []
      else [{ cType := "struct", name := entry.member
              members := parts.filterMap recordMember? }] := by
  split
  · next none => rw [recordFields, List.isEmpty_iff.1 none]
  · next some => exact recordFields_eq fun none => some (List.isEmpty_iff.2 none)

variable {lengths : StringLengths} {name : String} {warnings : List String} {entries : List Entry}
  (distinct : (entries.map (·.index)).Nodup) (inside : entry ∈ entries)
  (kept : fields lengths entry = (recordObject entry parts).fields)

include distinct inside kept

theorem membersNamed_record :
    (imageOf lengths name warnings entries).membersNamed entry.storageLocation entry.member =
      recordFields entry parts := by
  rw [membersNamed_imageOf distinct inside String.append_empty.symm, kept]
  exact filter_recordFields entry parts

/-- The address of a part leads to the members that have its name. -/
theorem targets_recordPart {part : EncodedPart} {reference : Reference}
    (found : (recordPart entry part).data = some reference) :
    (imageOf lengths name warnings entries).targets reference =
      (parts.filterMap recordMember?).filter (·.name == part.symbol) := by
  have members : (recordFields entry parts).flatMap (·.members) =
      parts.filterMap recordMember? := by
    unfold recordFields
    split
    · next none => rw [none, List.flatMap_nil]
    · rw [List.flatMap_singleton]
  obtain ⟨group, path, _⟩ := reference_recordPart found
  have stored : (imageOf lengths name warnings entries).membersNamed entry.storageLocation
      entry.member = recordFields entry parts := membersNamed_record distinct inside kept
  rw [Image.membersNamed] at stored
  rw [Image.targets, path, group, StorageField.reach, stored, members]
  · rfl
  · exact fun none => by cases none

/-- The image holds the parts of a record that is compiled. -/
theorem holdsParts :
    (imageOf lengths name warnings entries).HoldsParts entry parts
      (parts.filterMap recordMember?) (parts.map (recordPart entry)) where
  described := by
    rw [List.map_map]
    refine List.map_congr_left fun part _ => ?_
    rw [Function.comp_apply, isSome_recordPart]
    rfl
  held := (membersNamed_record distinct inside kept).trans (recordFields_eq_if entry parts)
  made := forall₂_recordMembers parts
  named := map_name_recordMembers parts
  distinct := by rw [map_name_recordMembers, List.Nodup, List.pairwise_map]
  unnamed part _ := CName.identifier_eq_empty_iff part.sub.name.shown
  valid part _ first found letter := by
    rw [EncodedPart.symbol, CName.identifier, String.toList_ofList]
    exact CName.isIdentifier_identifierChars found letter
  addressed position part there := by
    obtain ⟨member, stands, made⟩ := getElem?_of_forall₂ (forall₂_recordMembers parts) there
    obtain ⟨reference, refers, data⟩ := getElem?_of_forall₂ (forall₂_references entry parts) there
    have own : (member.name == part.symbol) = true := by
      obtain ⟨value, _, rfl⟩ := Option.map_eq_some_iff.1 made
      exact beq_self_eq_true _
    have among := List.mem_of_getElem? stands
    have count : (parts.filterMap recordMember?).countP (·.name == part.symbol) =
        (storedParts parts).countP (·.symbol == part.symbol) := by
      have names := congrArg (List.countP (· == part.symbol)) (map_name_recordMembers parts)
      rwa [List.countP_map, List.countP_map] at names
    refine ⟨member, reference, stands, refers, ?_⟩
    rw [targets_recordPart distinct inside kept data, filter_eq_singleton_iff among own, count]
    exact ⟨List.mem_filter.2 ⟨among, own⟩, Iff.rfl⟩

omit kept in
/-- A record that no warning names is compiled, and its parts are held. -/
theorem holdsParts_of_silent {subEntries : List SubEntry}
    (shape : entry.content = .record subEntries)
    (silent : ¬ (imageOf lengths name warnings entries).Warns warnings.length entry) :
    ∃ members descriptors,
      .record entry.symbol descriptors ∈ (imageOf lengths name warnings entries).objects ∧
        (imageOf lengths name warnings entries).HoldsParts entry
          (recordParts lengths entry subEntries) members descriptors := by
  obtain ⟨_, nothing⟩ := List.append_eq_nil_iff.1 (findings_eq_nil inside silent)
  obtain ⟨object, found, compiled⟩ := exists_compiled lengths (isComplete_of_silent nothing)
  have kept := fields_of_object? lengths found
  have listed : object.descriptor ∈ (imageOf lengths name warnings entries).objects := by
    refine List.mem_flatMap.2 ⟨entry, inside, ?_⟩
    rw [descriptors, found]
    exact List.mem_singleton_self _
  cases compiled with
  | var other =>
      rw [shape] at other
      cases other
  | array other parts =>
      rw [shape] at other
      cases other
  | record same enough =>
      rw [shape] at same
      cases same
      exact ⟨_, _, listed, holdsParts distinct inside kept⟩

end Compile

namespace Example

/-- A document with one record, in which parts share a name, have none, or have one that begins with
a digit. -/
def driveDocument : Value :=
  mapping [("objects", .list [
    mapping [("index", .int 0x2000), ("name", .text "Motor"), ("object_type", .int 9),
      ("sub_entries", .list [
        mapping [("subindex", .int 0), ("name", .text "max sub"), ("data_type", .int 5),
          ("default", .int 5)],
        mapping [("subindex", .int 1), ("name", .text "Speed"), ("data_type", .int 6),
          ("default", .int 100)],
        mapping [("subindex", .int 2), ("name", .text "Reserved"), ("data_type", .int 5)],
        mapping [("subindex", .int 3), ("name", .text "speed"), ("data_type", .int 6),
          ("default", .int 200)],
        mapping [("subindex", .int 4), ("data_type", .int 5), ("default", .int 7)],
        mapping [("subindex", .int 5), ("name", .text "2nd speed"), ("data_type", .int 5),
          ("default", .int 8)]])]])]

def motorParts : List SubEntry := [
  { subindex := 0, name := "max sub"
    datum := { dataType := some (.known .unsigned8), default := some "5" } },
  { subindex := 1, name := "Speed"
    datum := { dataType := some (.known .unsigned16), default := some "100" } },
  { subindex := 2, name := "Reserved", datum := { dataType := some (.known .unsigned8) } },
  { subindex := 3, name := "speed"
    datum := { dataType := some (.known .unsigned16), default := some "200" } },
  { subindex := 4, datum := { dataType := some (.known .unsigned8), default := some "7" } },
  { subindex := 5, name := "2nd speed"
    datum := { dataType := some (.known .unsigned8), default := some "8" } }]

def motor : Entry where
  index := 0x2000
  name := "Motor"
  content := .record motorParts

def drive : Dictionary where
  objects := [motor]

theorem drive_accepted : drive.Accepted :=
  ⟨driveDocument, by decide +kernel⟩

theorem warnings_drive : (drive.compile defaultLength none []).warnings = [] := by
  decide

theorem not_warns_motor : ¬ (drive.compile defaultLength none []).Warns 0 motor := by
  rintro ⟨text, among⟩
  rw [warnings_drive] at among
  cases among

end Example

namespace Dictionary

/-- A record of an accepted dictionary that no warning names is one structure with a member for each
stored part, and each address leads to the member of its own part.  It leads to no other one exactly
where the name of the part is its own. -/
theorem compile_holdsParts {dictionary : Dictionary} (accepted : dictionary.Accepted)
    (lengths : StringLengths) (name : Option String) (warnings : List String) {entry : Entry}
    (enabled : entry ∈ dictionary.enabled) {subEntries : List SubEntry}
    (shape : entry.content = .record subEntries)
    (silent : ¬ (dictionary.compile lengths name warnings).Warns warnings.length entry) :
    ∃ members descriptors,
      .record entry.symbol descriptors ∈ (dictionary.compile lengths name warnings).objects ∧
        (dictionary.compile lengths name warnings).HoldsParts entry
          (Compile.recordParts lengths entry subEntries) members descriptors := by
  rw [compile_eq] at silent ⊢
  exact Compile.holdsParts_of_silent accepted.enabled_indices_nodup enabled shape silent

/-- The first part of a motor has its member for itself, and the second shares a name. -/
theorem compile_holdsParts_motor :
    Example.drive.Accepted ∧
      ∃ members descriptors,
        .record "2000_motor" descriptors ∈ (Example.drive.compile defaultLength none []).objects ∧
          (Example.drive.compile defaultLength none []).HoldsParts Example.motor
            (Compile.recordParts defaultLength Example.motor Example.motorParts) members
            descriptors ∧
          members.map (·.name) = ["maxSub", "speed", "speed", "", "2ndSpeed"] := by
  have enabled : Example.motor ∈ Example.drive.enabled := by decide
  obtain ⟨members, descriptors, listed, holds⟩ := compile_holdsParts Example.drive_accepted
    defaultLength none [] enabled rfl Example.not_warns_motor
  have symbol : Example.motor.symbol = "2000_motor" := by decide
  refine ⟨Example.drive_accepted, members, descriptors, symbol ▸ listed, holds, ?_⟩
  rw [holds.named]
  decide

/-- Without a warning the members of a record can have one name, an empty name or one that begins
with a digit, and the addresses of two parts can be the same. -/
theorem record_members_not_distinct :
    Example.drive.Accepted ∧ Example.motor ∈ Example.drive.enabled ∧
      let image := Example.drive.compile defaultLength none []
      let members := (image.membersNamed "RAM" "x2000_motor").flatMap (·.members)
      ¬ image.Warns 0 Example.motor ∧
        members.map (·.name) = ["maxSub", "speed", "speed", "", "2ndSpeed"] ∧
        ¬ (members.map (·.name)).Nodup ∧
        ¬ (∀ member ∈ members, CName.isIdentifier member.name.toList = true) ∧
        (image.objects.flatMap (·.references)).map (·.member) =
          ["x2000_motor.maxSub", "x2000_motor.speed", "x2000_motor.speed", "x2000_motor.",
            "x2000_motor.2ndSpeed"] ∧
        (image.targets ⟨"RAM", "x2000_motor.speed"⟩).map (·.initializer) = ["0x0064", "0x00C8"] := by
  refine ⟨Example.drive_accepted, by decide, ?_⟩
  intro image members
  have names : members.map (·.name) = ["maxSub", "speed", "speed", "", "2ndSpeed"] := by
    decide
  refine ⟨Example.not_warns_motor, names, ?_, ?_, by decide, by decide⟩
  · rw [names]
    decide
  · intro valid
    have all : (members.map (·.name)).all (CName.isIdentifier ·.toList) = true := by
      rw [List.all_map, List.all_eq_true]
      exact valid
    rw [names] at all
    exact absurd all (by decide)

end Dictionary

end Canopen
