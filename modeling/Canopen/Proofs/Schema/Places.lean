import Canopen.Proofs.Display
import Canopen.Schema.Reader

/-!
# Where issues are found

Every issue that the schema reports is found at a place of the document: its path leads through known
fields and listed items, and ends at the value, the missing field or the key that is wrong.  Behind
the position of an object the path names its shape, which is no place of the document.
-/

namespace Canopen.Schema

variable {α β : Type}

/-- The keys of all fields that are known anywhere. -/
def knownKeys : List String :=
  ["name", "objects"] ++ entryKeys ++ ["sub_entries"] ++ subEntryKeys

/-- The issue is found in the value: its path leads through known fields and listed items to what is
wrong, which is a value, a field that is missing, or a key. -/
inductive FoundIn : Value → Issue → Prop where
  | here (value : Value) (problem : Problem) : FoundIn value ⟨[], problem⟩
  | field {value inner : Value} {fields : Fields} {name : String} {path : List Step}
      {problem : Problem} (content : value.content = .map fields) (known : name ∈ knownKeys)
      (given : Value.field? name fields = some inner) (below : FoundIn inner ⟨path, problem⟩) :
      FoundIn value ⟨.key name :: path, problem⟩
  | item {value inner : Value} {items : List Value} {position : Nat} {path : List Step}
      {problem : Problem} (listed : items? value = some items)
      (there : items[position]? = some inner) (below : FoundIn inner ⟨path, problem⟩) :
      FoundIn value ⟨.position position :: path, problem⟩
  | missing {value : Value} {fields : Fields} {name : String}
      (content : value.content = .map fields) (known : name ∈ knownKeys)
      (absent : Value.field? name fields = none) : FoundIn value ⟨[.key name], .missing⟩
  | unknown {value inner : Value} {fields : Fields} {name : String}
      (content : value.content = .map fields) (present : (.text name, inner) ∈ fields) :
      FoundIn value ⟨[.key name], .unknownField⟩
  | notText {value key inner : Value} {fields : Fields} (content : value.content = .map fields)
      (present : (key, inner) ∈ fields) (other : ∀ name, key ≠ .text name) :
      FoundIn value ⟨[stepOfKey key], .keyNotText⟩

/-- The issue is found in an object: all issues of its fields stand behind its shape. -/
inductive FoundInObject : Value → Issue → Prop where
  | here (value : Value) (problem : Problem) : FoundInObject value ⟨[], problem⟩
  | selected {value : Value} {path : List Step} {problem : Problem} (shape : Shape)
      (below : FoundIn value ⟨path, problem⟩) :
      FoundInObject value ⟨.shape shape :: path, problem⟩

/-- The value is the object at the position in the list of objects of the document. -/
inductive ListedAt : Value → Nat → Value → Prop where
  | object {document list object : Value} {fields : Fields} {items : List Value} {position : Nat}
      (content : document.content = .map fields) (given : Value.field? "objects" fields = some list)
      (listed : items? list = some items) (there : items[position]? = some object) :
      ListedAt document position object

/-- The issue is found in the document: in one of its objects, or at the document itself or one of
its keys. -/
inductive FoundInDocument : Value → Issue → Prop where
  | outside {document : Value} {issue : Issue} (found : FoundIn document issue)
      (short : issue.path.length ≤ 1) : FoundInDocument document issue
  | inside {document object : Value} {position : Nat} {path : List Step} {problem : Problem}
      (listed : ListedAt document position object) (found : FoundInObject object ⟨path, problem⟩) :
      FoundInDocument document ⟨.key "objects" :: .position position :: path, problem⟩

/-! ## Results -/

namespace Checked

variable {P : Issue → Prop} {source : Value}

/-- All issues have the property. -/
def Each (P : Issue → Prop) (value : Checked α) : Prop :=
  ∀ issue ∈ value.issues, P issue

/-- All issues are about the value itself. -/
def Flat (value : Checked α) : Prop :=
  value.Each (·.path = [])

/-- All issues are found in the value. -/
def Within (source : Value) (value : Checked α) : Prop :=
  value.Each (FoundIn source)

theorem each_sound (value : α) : (sound value).Each P :=
  List.forall_mem_nil _

theorem flat_problem (found : Problem) : (problem found : Checked α).Flat :=
  List.forall_mem_singleton.2 rfl

theorem flat_ofFault (value : Except Fault α) : (ofFault value).Flat := by
  cases value with
  | ok value => exact each_sound value
  | error fault => exact flat_problem _

theorem Flat.each {value : Checked α} (flat : value.Flat)
    (usual : ∀ problem, P ⟨[], problem⟩) : value.Each P := by
  rintro ⟨path, problem⟩ found
  cases flat _ found
  exact usual problem

theorem Flat.within {value : Checked α} (flat : value.Flat) (source : Value) :
    value.Within source :=
  flat.each (.here source)

theorem Each.andThen {value : Checked α} {next : α → Checked β} (first : value.Each P)
    (onward : ∀ result, (next result).Each P) : (value.andThen next).Each P := by
  cases value with
  | sound result => exact onward result
  | faulty issues => exact first

theorem Each.apply {f : Checked (α → β)} {value : Checked α} (first : f.Each P)
    (second : value.Each P) : (f.apply value).Each P := by
  rw [Each, issues_apply]
  exact List.forall_mem_append.2 ⟨first, second⟩

theorem Each.refuseIf {value : Checked α} {more : List Issue} (first : value.Each P)
    (others : ∀ issue ∈ more, P issue) : (value.refuseIf more).Each P := by
  rw [Each, issues_refuseIf]
  exact List.forall_mem_append.2 ⟨first, others⟩

theorem Each.checkKeys {fields : Fields} {value : Checked α} (first : value.Each P)
    (usual : ∀ problem, P ⟨[], problem⟩) : (checkKeys fields value).Each P := by
  unfold Schema.checkKeys
  split
  · exact (flat_problem _).each usual
  · exact first

theorem issues_under (step : Step) (value : Checked α) :
    (value.under step).issues =
      value.issues.map fun issue => { issue with path := step :: issue.path } := by
  cases value <;> rfl

end Checked

open Checked

/-! ## Fields and lists -/

/-- What is wrong with a field that is left out is that it is missing, if anything. -/
def IsDefault (absent : Checked α) : Prop :=
  absent.Each (· = ⟨[], .missing⟩)

theorem isDefault_sound (value : α) : IsDefault (.sound value) :=
  List.forall_mem_nil _

theorem isDefault_required : IsDefault (required : Checked α) :=
  List.forall_mem_singleton.2 rfl

section

variable {source : Value} {fields : Fields}

theorem within_readField (name : String) {absent : Checked α} {read : Value → Checked α}
    (content : source.content = .map fields) (known : name ∈ knownKeys)
    (usual : IsDefault absent) (each : ∀ value, (read value).Within value) :
    (readField fields name absent read).Within source := by
  intro issue found
  rw [readField, issues_under] at found
  obtain ⟨⟨path, problem⟩, inner, rfl⟩ := List.mem_map.1 found
  cases given : Value.field? name fields with
  | none =>
      rw [given] at inner
      cases usual _ inner
      exact .missing content known given
  | some value =>
      rw [given] at inner
      exact .field content known given (each value _ inner)

theorem mem_readAt {read : Value → Checked α} {start : Nat} {items : List Value}
    {checked : Checked α} :
    checked ∈ readAt read start items ↔ ∃ position item, items[position]? = some item ∧
      checked = (read item).under (.position (start + position : Nat)) := by
  induction items generalizing start with
  | nil => simp [readAt]
  | cons first rest ih =>
      rw [readAt, List.mem_cons, ih]
      constructor
      · rintro (rfl | ⟨position, item, there, rfl⟩)
        · exact ⟨0, first, rfl, rfl⟩
        · exact ⟨position + 1, item, there, by rw [Nat.add_right_comm, Nat.add_assoc]⟩
      · rintro ⟨position, item, there, rfl⟩
        cases position with
        | zero =>
            cases there
            exact .inl rfl
        | succ position =>
            exact .inr ⟨position, item, there, by rw [Nat.add_right_comm, Nat.add_assoc]⟩

/-- The issues of a list are those of its items, each behind the position of the item. -/
theorem mem_issues_readAt {read : Value → Checked α} {items : List Value} {issue : Issue} :
    issue ∈ (Checked.all (readAt read 0 items)).issues ↔
      ∃ (position : Nat) (item : Value), items[position]? = some item ∧
        ∃ inner ∈ (read item).issues,
          { inner with path := .position position :: inner.path } = issue := by
  simp only [issues_all, List.mem_flatMap, mem_readAt, Nat.zero_add]
  constructor
  · rintro ⟨_, ⟨position, item, there, rfl⟩, found⟩
    rw [issues_under] at found
    exact ⟨position, item, there, List.mem_map.1 found⟩
  · rintro ⟨position, item, there, found⟩
    refine ⟨_, ⟨position, item, there, rfl⟩, ?_⟩
    rw [issues_under]
    exact List.mem_map.2 found

theorem within_readItems {read : Value → Checked α} (each : ∀ value, (read value).Within value)
    (value : Value) : (readItems read value).Within value := by
  unfold readItems
  split
  · next items listed =>
    intro issue found
    obtain ⟨position, item, there, ⟨path, problem⟩, among, rfl⟩ := mem_issues_readAt.1 found
    exact .item listed there (each item _ among)
  · exact (flat_problem _).within value

theorem found_unknownKeys {known : List String} (content : source.content = .map fields) :
    ∀ issue ∈ unknownKeys known fields, FoundIn source issue := by
  intro issue found
  obtain ⟨⟨key, inner⟩, present, made⟩ := List.mem_filterMap.1 found
  dsimp only at made
  split at made
  · split at made
    · cases made
    · cases made
      exact .unknown content present
  · next other =>
    cases made
    exact .notText content present other

end

/-! ## Readers of single fields -/

theorem flat_readScript (value : Value) : (readScript value).Flat := by
  unfold readScript
  split
  · exact each_sound _
  · exact each_sound _
  · split
    · exact each_sound _
    · exact flat_problem _
  · exact flat_problem _

theorem flat_readText (value : Value) : (readText value).Flat := by
  refine (flat_readScript value).andThen fun script => ?_
  cases script with
  | whole text => exact each_sound text
  | halved _ => exact flat_problem _

theorem flat_readIdentifier (value : Value) : (readIdentifier value).Flat := by
  refine (flat_readText value).andThen fun text => ?_
  split
  · exact each_sound _
  · exact flat_problem _

theorem flat_truthOfNumber (number : Int) : (truthOfNumber number).Flat := by
  unfold truthOfNumber
  split
  · exact each_sound _
  · split
    · exact each_sound _
    · split
      · exact flat_problem _
      · exact flat_problem _

theorem flat_readTruth (value : Value) : (readTruth value).Flat := by
  unfold readTruth
  split
  case h_1 => exact each_sound _
  case h_2 => exact flat_truthOfNumber _
  case h_3 =>
    split
    · exact flat_truthOfNumber _
    · exact flat_problem _
  case h_6 => exact flat_problem _
  case h_7 => exact flat_problem _
  all_goals
    split
    · exact each_sound _
    · exact flat_problem _

theorem flat_readAccess (value : Value) : (readAccess value).Flat := by
  unfold readAccess
  split
  · exact each_sound _
  · exact flat_problem _
  · split
    · exact each_sound _
    · exact flat_problem _

theorem flat_readMapping (value : Value) : (readMapping value).Flat := by
  unfold readMapping
  split
  · exact flat_problem _
  · split
    · exact each_sound _
    · exact flat_problem _

/-! ## Objects -/

section

variable {source : Value} {fields : Fields}

theorem within_readDatum (content : source.content = .map fields) :
    (readDatum fields).Within source := by
  have type := within_readField "data_type" content (by decide) (isDefault_sound none)
    fun value => (flat_ofFault (readType value)).within value
  have default := within_readField "default" content (by decide) (isDefault_sound none)
    fun value => (flat_ofFault (readDefault value)).within value
  have access := within_readField "access" content (by decide) (isDefault_sound none)
    fun value => (flat_readAccess value).within value
  have mapping := within_readField "pdo_mapping" content (by decide)
    (isDefault_sound Mapping.no) fun value => (flat_readMapping value).within value
  exact ((((each_sound Datum.mk).apply type).apply default).apply access).apply mapping

theorem within_readSubEntry (value : Value) : (readSubEntry value).Within value := by
  unfold readSubEntry
  split
  · next fields content =>
    have subindex := within_readField "subindex" content (by decide) isDefault_required
      fun value => (flat_ofFault ((readUnsigned 8 value).map UInt8.ofNat)).within value
    have name := within_readField "name" content (by decide) (isDefault_sound (.whole ""))
      fun value => (flat_readScript value).within value
    have parts := (((each_sound SubEntry.mk).apply subindex).apply name).apply
      (within_readDatum content)
    exact (parts.refuseIf (found_unknownKeys content)).checkKeys (.here _)
  · exact (flat_problem _).within value

theorem within_readContent (content : source.content = .map fields) (shape : Shape) :
    (readContent fields shape).Within source := by
  have subEntries := within_readField "sub_entries" content (by decide)
    (isDefault_sound []) (within_readItems within_readSubEntry)
  cases shape with
  | var => exact (each_sound Content.var).apply (within_readDatum content)
  | array =>
      have type := within_readField "data_type" content (by decide)
        (isDefault_sound none) fun value => (flat_ofFault (readType value)).within value
      exact ((each_sound Content.array).apply type).apply subEntries
  | record => exact (each_sound Content.record).apply subEntries

theorem within_readFields (content : source.content = .map fields) (shape : Shape) :
    (readFields shape fields).Within source := by
  have index := within_readField "index" content (by decide) isDefault_required
    fun value => (flat_ofFault ((readUnsigned 16 value).map UInt16.ofNat)).within value
  have text (name : String) (standard : Script) (known : name ∈ knownKeys) :=
    within_readField name content known (isDefault_sound standard)
      fun value => (flat_readScript value).within value
  have truth (name : String) (known : name ∈ knownKeys) :=
    within_readField name content known (isDefault_sound false)
      fun value => (flat_readTruth value).within value
  have location := within_readField "storage_location" content (by decide)
    (isDefault_sound "RAM") fun value => (flat_readIdentifier value).within value
  have parts := (((((((each_sound Entry.mk).apply index).apply (text "name" "" (by decide))).apply
    (truth "disabled" (by decide))).apply location).apply (truth "ext_io" (by decide))).apply
    (text "count_label" "ALL" (by decide))).apply (within_readContent content shape)
  exact (parts.refuseIf (found_unknownKeys content)).checkKeys (.here _)

end

theorem flat_selectShape (fields : Fields) : (selectShape fields).Flat := by
  unfold selectShape
  split
  · exact each_sound _
  · split
    · exact each_sound _
    · exact flat_problem _
    · exact flat_problem _

theorem each_readEntry (value : Value) : (readEntry value).Each (FoundInObject value) := by
  unfold readEntry
  split
  · next fields content =>
    refine Each.andThen ((flat_selectShape fields).each (.here value)) fun shape => ?_
    intro issue found
    rw [issues_under] at found
    obtain ⟨⟨path, problem⟩, inner, rfl⟩ := List.mem_map.1 found
    exact .selected shape (within_readFields content shape _ inner)
  · exact (flat_problem _).each (.here value)

/-! ## Documents -/

section

variable {document : Value} {fields : Fields}

/-- Issues of a field without parts of its own stand at the field. -/
theorem short_readField (name : String) {absent : Checked α} {read : Value → Checked α}
    (usual : IsDefault absent) (flat : ∀ value, (read value).Flat) :
    (readField fields name absent read).Each (·.path.length ≤ 1) := by
  intro issue found
  rw [readField, issues_under] at found
  obtain ⟨inner, among, rfl⟩ := List.mem_map.1 found
  cases given : Value.field? name fields with
  | none =>
      rw [given] at among
      cases usual _ among
      exact Nat.le_refl 1
  | some value =>
      rw [given] at among
      exact Nat.le_of_eq (congrArg (·.length + 1) (flat value _ among))

theorem short_unknownKeys (known : List String) :
    ∀ issue ∈ unknownKeys known fields, issue.path.length ≤ 1 := by
  intro issue found
  obtain ⟨_, _, made⟩ := List.mem_filterMap.1 found
  dsimp only at made
  split at made
  · split at made
    · cases made
    · cases made
      exact Nat.le_refl 1
  · cases made
    exact Nat.le_refl 1

theorem each_readObjects (content : document.content = .map fields) :
    (readField fields "objects" (.sound []) (readItems readEntry)).Each
      (FoundInDocument document) := by
  intro issue found
  rw [readField, issues_under] at found
  obtain ⟨inner, among, rfl⟩ := List.mem_map.1 found
  cases given : Value.field? "objects" fields with
  | none =>
      rw [given] at among
      cases among
  | some list =>
      rw [given, Option.elim, readItems] at among
      split at among
      · next items listed =>
        obtain ⟨position, object, there, ⟨path, problem⟩, within, rfl⟩ := mem_issues_readAt.1 among
        exact .inside (.object content given listed there) (each_readEntry object _ within)
      · cases List.mem_singleton.1 among
        exact .outside (.field content (by decide) given (.here list .notList)) (Nat.le_refl 1)

theorem flat_checkIndices (dictionary : Dictionary) : (checkIndices dictionary).Flat := by
  unfold checkIndices
  split
  · exact flat_problem _
  · exact each_sound dictionary

/-- Every issue of a document is found in it. -/
theorem each_read (document : Value) : (read document).Each (FoundInDocument document) := by
  have usual (problem : Problem) : FoundInDocument document ⟨[], problem⟩ :=
    .outside (.here document problem) (Nat.zero_le 1)
  unfold read
  split
  · next fields content =>
    have name : (readField fields "name" (.sound "OD") readIdentifier).Each
        (FoundInDocument document) := by
      have found := within_readField "name" content (by decide) (isDefault_sound "OD")
        fun value => (flat_readIdentifier value).within value
      have short : (readField fields "name" (.sound "OD") readIdentifier).Each
          (·.path.length ≤ 1) := short_readField "name" (isDefault_sound "OD") flat_readIdentifier
      exact fun issue among => .outside (found issue among) (short issue among)
    have parts := ((each_sound Dictionary.mk).apply name).apply (each_readObjects content)
    have others : ∀ issue ∈ unknownKeys ["name", "objects"] fields,
        FoundInDocument document issue := fun issue among =>
      .outside (found_unknownKeys content issue among) (short_unknownKeys _ issue among)
    exact ((parts.refuseIf others).checkKeys usual).andThen fun dictionary =>
      (flat_checkIndices dictionary).each usual
  · exact (flat_problem _).each usual

end

end Canopen.Schema
