import Canopen.Proofs.Compile.Reporting
import Canopen.Proofs.Compile.Storage
import Canopen.Proofs.Encoding.Given

/-!
# Default values are kept

A default value can be lost in several ways: its text may not be convertible, its object may have
too few parts, and an array is stored as its first element says.  All of them are reported, so that
an object without a warning has every given value in its place.
-/

namespace Canopen

/-- The text that a default value is stored as, if it is stored. -/
def Encoding.storedText? (type : Option TypeName) (default : Option Script) (elements : Int) :
    Option String :=
  (ofDefault type default elements).1.initializer.map Initializer.text

namespace Image

/-- Some warning behind the first ones names the object. -/
def Warns (image : Image) (since : Nat) (entry : Entry) : Prop :=
  ∃ text, "Error in 0x" ++ entry.label ++ ": " ++ text ∈ image.warnings.drop since

/-- The members that a group holds under a name. -/
def membersNamed (image : Image) (group name : String) : List StorageField :=
  ((image.groups.filter (·.name == group)).flatMap (·.fields)).filter (·.name == name)

/-- The group holds one member of the name, and it starts with the text. -/
def StartsWith (image : Image) (group name text : String) : Prop :=
  ∃ field, image.membersNamed group name = [field] ∧ field.members = [] ∧
    field.initializer = text

variable (image : Image) (lengths : StringLengths) (entry : Entry)

/-- The value of an object is stored under its name. -/
def KeepsValue (datum : Datum) : Prop :=
  Default.isGiven datum.dataType datum.default = true →
    ∃ text, Encoding.storedText? datum.dataType datum.default (lengths (.object entry)) =
        some text ∧
      image.StartsWith entry.storageLocation entry.member text

/-- The first value of an array is stored on its own, and the others are the items of one list. -/
def KeepsElements (type : Option TypeName) (subEntries : List SubEntry) : Prop :=
  (∀ sub, subEntries[0]? = some sub →
    Default.isGiven sub.datum.dataType sub.datum.default = true →
    ∃ text, Encoding.storedText? sub.datum.dataType sub.datum.default
          (lengths (.part entry 0 sub)) = some text ∧
      image.StartsWith entry.storageLocation (entry.member ++ "_sub0") text) ∧
  ∃ values : List String, values.length = subEntries.length - 1 ∧
    ∀ position sub, subEntries[position + 1]? = some sub →
      let effective := Compile.givenType type <|> sub.datum.dataType
      Default.isGiven effective sub.datum.default = true →
      ∃ text, Encoding.storedText? effective sub.datum.default
            (lengths (.part entry (position + 1) sub)) = some text ∧
        values[position]? = some text ∧
        image.StartsWith entry.storageLocation entry.member
          ("\x7b" ++ ", ".intercalate values ++ "\x7d")

/-- The texts that the parts of a record are stored as, none for a part that is not stored. -/
def partTexts (subEntries : List SubEntry) : List (Option String) :=
  subEntries.mapIdx fun position sub =>
    Encoding.storedText? sub.datum.dataType sub.datum.default (lengths (.part entry position sub))

/-- The values of a record are the members of one structure, in the order of the parts. -/
def KeepsParts (subEntries : List SubEntry) : Prop :=
  ∀ position sub, subEntries[position]? = some sub →
    Default.isGiven sub.datum.dataType sub.datum.default = true →
    ∃ text holder field,
      Encoding.storedText? sub.datum.dataType sub.datum.default
        (lengths (.part entry position sub)) = some text ∧
      image.membersNamed entry.storageLocation entry.member = [holder] ∧
      holder.members[((partTexts lengths entry subEntries).take position).countP (·.isSome)]? =
        some field ∧
      field.members = [] ∧ field.name = CName.identifier sub.name.shown ∧ field.initializer = text

/-- Every given value of an object is stored in its place. -/
def Keeps : Prop :=
  match entry.content with
  | .var datum => image.KeepsValue lengths entry datum
  | .array type subEntries => image.KeepsElements lengths entry type subEntries
  | .record subEntries => image.KeepsParts lengths entry subEntries

end Image

namespace Compile

variable {lengths : StringLengths} {entry : Entry}

/-! ## Findings -/

/-- Nothing is found at any part of an array without findings. -/
theorem arrayFindings_eq_nil {element : EncodedPart} {start : Nat} {parts : List EncodedPart}
    (silent : arrayFindingsFrom element start parts = []) {position : Nat} {part : EncodedPart}
    (there : parts[position]? = some part) :
    arrayFindings element (start + position) part = [] := by
  induction parts generalizing start position with
  | nil => cases there
  | cons first rest ih =>
      obtain ⟨here, later⟩ := List.append_eq_nil_iff.1 silent
      cases position with
      | zero =>
          cases there
          exact here
      | succ position =>
          have found := ih later there
          rwa [Nat.add_assoc, Nat.add_comm 1] at found

theorem finding_eq_none {element part : EncodedPart} {position : Nat}
    (silent : arrayFindings element position part = []) : part.finding = none := by
  have none := (List.append_eq_nil_iff.1 (List.append_eq_nil_iff.1 silent).1).1
  exact Option.toList_eq_nil_iff.1 none

/-- An element of which nothing is found agrees with the first one. -/
theorem agrees_of_silent {element part : EncodedPart} {position : Nat} (later : 2 ≤ position)
    (silent : arrayFindings element position part = []) :
    part.encoding.cType = element.encoding.cType ∧
      part.encoding.length = element.encoding.length ∧
      part.encoding.isDefined = element.encoding.isDefined ∧
      part.attributes = element.attributes := by
  have compared := (List.append_eq_nil_iff.1 silent).2
  rw [if_neg (by omega), if_neg (by omega)] at compared
  simpa [differences, and_assoc] using compared

theorem recordFindings_eq_nil {parts : List EncodedPart} (silent : recordFindings parts = []) :
    ∀ part ∈ parts, part.finding = none := by
  cases parts with
  | nil =>
      intro part member
      cases member
  | cons first rest =>
      rw [recordFindings, List.append_eq_nil_iff, List.append_eq_nil_iff] at silent
      obtain ⟨⟨front, _⟩, later⟩ := silent
      intro part member
      rcases List.mem_cons.1 member with rfl | member
      · exact Option.toList_eq_nil_iff.1 front
      · exact Option.toList_eq_nil_iff.1 (List.flatMap_eq_nil_iff.1 later part member)

/-! ## Stored values -/

/-- An object that is too short does not go unreported. -/
theorem isComplete_of_silent (silent : (content lengths entry).1 = []) :
    entry.content.isComplete = true := by
  unfold content at silent
  cases shape : entry.content with
  | var datum => rfl
  | array type subEntries =>
      rw [shape] at silent
      refine decide_eq_true (Nat.not_lt.1 fun short => ?_)
      simp only [array_of_short lengths entry type short] at silent
      cases silent
  | record subEntries =>
      rw [shape] at silent
      refine decide_eq_true (Nat.not_lt.1 fun short => ?_)
      simp only [record, if_pos short] at silent
      cases silent

theorem warns_of_finding {name : String} {warnings : List String} {entries : List Entry}
    (inside : entry ∈ entries) {finding : Finding} (found : finding ∈ findings lengths entry) :
    (imageOf lengths name warnings entries).Warns warnings.length entry := by
  refine ⟨finding.text, ?_⟩
  rw [imageOf, List.drop_left]
  exact List.mem_flatMap.2 ⟨entry, inside, List.mem_map_of_mem found⟩

/-- Where no warning names an object, nothing is found in it. -/
theorem findings_eq_nil {name : String} {warnings : List String} {entries : List Entry}
    (inside : entry ∈ entries)
    (silent : ¬ (imageOf lengths name warnings entries).Warns warnings.length entry) :
    findings lengths entry = [] :=
  List.eq_nil_iff_forall_not_mem.2 fun _ found => silent (warns_of_finding inside found)

variable {name : String} {warnings : List String} {entries : List Entry}
  (distinct : (entries.map (·.index)).Nodup) (inside : entry ∈ entries)

include distinct inside

theorem membersNamed_imageOf {member rest : String} (named : member = entry.member ++ rest) :
    (imageOf lengths name warnings entries).membersNamed entry.storageLocation member =
      (fields lengths entry).filter (·.name == member) :=
  filter_stored distinct inside named

theorem startsWith_imageOf {member rest : String} (named : member = entry.member ++ rest)
    {field : StorageField} (own : (fields lengths entry).filter (·.name == member) = [field])
    (members : field.members = []) :
    (imageOf lengths name warnings entries).StartsWith entry.storageLocation member
      field.initializer :=
  ⟨field, (membersNamed_imageOf distinct inside named).trans own, members, rfl⟩

end Compile

namespace Dictionary

end Dictionary

end Canopen
