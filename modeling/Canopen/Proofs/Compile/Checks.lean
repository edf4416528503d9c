import Canopen.Proofs.Compile.Elements

/-!
# Checks of arrays

The parts of an array are checked one by one, and each element is compared with the first one.  A
difference is reported once for the whole array, so that the reports are known from the parts: which
of them stand in the wrong place, whether the first one is a byte, and which differences there are
at all.
-/

namespace Canopen

namespace Compile

/-- What is found at an object before its parts are looked at. -/
def extensionFindings (entry : Entry) : List Finding :=
  if lacksExtension entry then [.extensionMissing] else []

/-- How many parts stand in another place than their subindices say, counted from a position on. -/
def misplaced (start : Nat) (parts : List EncodedPart) : Nat :=
  (parts.zipIdx start).countP fun (part, position) => part.sub.subindex.toNat ≠ position

/-- One finding, if it is called for. -/
def findingIf (condition : Prop) [Decidable condition] (finding : Finding) : List Finding :=
  if condition then [finding] else []

/-- What is to be found in an array with these parts, in some order. -/
def arrayReport (count element : EncodedPart) (rest : List EncodedPart) : List Finding :=
  (count :: element :: rest).filterMap (·.finding) ++
    List.replicate (misplaced 0 (count :: element :: rest)) .arrayOrder ++
    findingIf (¬ (count.encoding.cType = some .uint8 ∧ count.encoding.length = 1))
      (.arrayCountType (shownType count.sub.datum.dataType)) ++
    findingIf (∃ part ∈ rest, part.encoding.cType ≠ element.encoding.cType ∨
      part.encoding.length ≠ element.encoding.length) .arrayTypes ++
    findingIf (∃ part ∈ rest, part.encoding.isDefined ≠ element.encoding.isDefined) .arrayValues ++
    findingIf (∃ part ∈ rest, part.attributes ≠ element.attributes) .arrayAttributes

/-- What stands for a part in the list of the elements: its value, or zero in the form in which the
first element is declared. -/
structure IsItem (element part : EncodedPart) (item : String) : Prop where
  stored : ∀ value, part.encoding.initializer = some value → item = value.text
  missing : part.encoding.initializer = none →
    item = if element.encoding.arraySuffix = "" then "0" else "\x7b0\x7d"

/-- What an array adds to an image, apart from what is stored and listed of it. -/
structure ChecksArray (lengths : StringLengths) (entry : Entry) (type : Option TypeName)
    (subEntries : List SubEntry) (before after : Image) : Prop where
  /-- An array of fewer than two parts is reported, and only its group is kept. -/
  short : subEntries.length < 2 → after =
    { before with
      groups := Image.withGroup entry.storageLocation before.groups
      warnings := before.warnings ++
        (extensionFindings entry ++ [Finding.arrayTooShort subEntries.length]).map
          (Finding.report entry.label) }
  /-- Any other array is reported as its parts call for. -/
  checked : 2 ≤ subEntries.length → ∃ count element rest found,
    arrayParts lengths entry type subEntries = count :: element :: rest ∧
      found.Perm (arrayReport count element rest) ∧
      after.warnings = before.warnings ++
        (extensionFindings entry ++ found).map (Finding.report entry.label)

end Compile

/-- The elements of an array are stored together exactly when the first of them has a value. -/
structure Image.StoresElements (image : Image) (entry : Entry) (element : EncodedPart)
    (elements : List EncodedPart) : Prop where
  missing : element.encoding.initializer = none →
    image.membersNamed entry.storageLocation entry.member = []
  stored : element.encoding.initializer ≠ none → ∃ items : List String,
    items.length = elements.length ∧
      List.Forall₂ (Compile.IsItem element) elements items ∧
      image.membersNamed entry.storageLocation entry.member =
        [{ cType := (element.encoding.cType.map CType.name).getD ""
           name := entry.member
           array := "[" ++ Number.decimal elements.length ++ "]" ++ element.encoding.arraySuffix
           initializer := "\x7b" ++ ", ".intercalate items ++ "\x7d"
           halved := elements.any (·.encoding.isHalved) }]

namespace Compile

/-! ## Findings of parts -/

/-- A finding about a value is reported for every value. -/
theorem isReportedOnce_finding {type : Option TypeName} {default : Option Script} {elements : Int}
    {finding : Finding} (found : (Encoding.ofDefault type default elements).2 = some finding) :
    isReportedOnce finding = false := by
  unfold Encoding.ofDefault at found
  split at found
  · dsimp only at found
    split at found <;> cases found <;> rfl
  · cases found
    rfl

/-- Nothing that is found at a value is reported only once. -/
def FindsValues (part : EncodedPart) : Prop :=
  ∀ finding, part.finding = some finding → isReportedOnce finding = false

theorem findsValues (lengths : StringLengths) (entry : Entry) (type : Option TypeName)
    (subEntries : List SubEntry) :
    ∀ part ∈ arrayParts lengths entry type subEntries, FindsValues part := by
  intro part among finding found
  obtain ⟨position, bound, rfl⟩ := List.mem_mapIdx.1 among
  exact isReportedOnce_finding found

variable {element part : EncodedPart} {parts : List EncodedPart} {position start : Nat}

/-- A comparison finds nothing but differences. -/
theorem isReportedOnce_of_difference {single : Finding}
    (among : single ∈ differences element part) : isReportedOnce single = true := by
  simp only [differences, List.mem_append, List.mem_ite_nil_right, List.mem_singleton] at among
  rcases among with (⟨_, rfl⟩ | ⟨_, rfl⟩) | ⟨_, rfl⟩ <;> rfl

/-- What is found at one part for itself, without comparing it. -/
def ownFindings (position : Nat) (part : EncodedPart) : List Finding :=
  part.finding.toList ++ (if part.sub.subindex.toNat ≠ position then [.arrayOrder] else [])

theorem arrayFindings_eq (element part : EncodedPart) (position : Nat) :
    arrayFindings element position part = ownFindings position part ++
      if position = 0 then
        if isByte part.encoding then [] else [.arrayCountType (shownType part.sub.datum.dataType)]
      else if position = 1 then []
      else differences element part :=
  rfl

theorem isReportedOnce_of_own (values : FindsValues part) {finding : Finding}
    (among : finding ∈ ownFindings position part) : isReportedOnce finding = false := by
  rcases List.mem_append.1 among with value | order
  · exact values finding (Option.mem_toList.1 value)
  · obtain ⟨_, same⟩ := List.mem_ite_nil_right.1 order
    rw [List.mem_singleton.1 same]
    rfl

theorem filter_ownFindings (values : FindsValues part) :
    (ownFindings position part).filter (!isReportedOnce ·) = ownFindings position part := by
  refine List.filter_eq_self.2 fun finding among => ?_
  rw [isReportedOnce_of_own values among]
  rfl

theorem filter_not_differences (element part : EncodedPart) :
    (differences element part).filter (!isReportedOnce ·) = [] := by
  refine List.filter_eq_nil_iff.2 fun single among => ?_
  rw [isReportedOnce_of_difference among]
  exact Bool.false_ne_true

/-- Later parts are compared, and what this shows is reported once. -/
theorem filter_not_arrayFindings (later : position ≠ 0) (values : FindsValues part) :
    (arrayFindings element position part).filter (!isReportedOnce ·) = ownFindings position part := by
  rw [arrayFindings_eq, if_neg later, List.filter_append, filter_ownFindings values,
    List.append_right_eq_self]
  split
  · rfl
  · exact filter_not_differences element part

/-- Differences are found at the parts behind the first element. -/
theorem mem_arrayFindings {single : Finding} (once : isReportedOnce single = true)
    (values : FindsValues part) :
    single ∈ arrayFindings element position part ↔
      2 ≤ position ∧ single ∈ differences element part := by
  have other : single ∉ ownFindings position part := by
    intro among
    rw [isReportedOnce_of_own values among] at once
    cases once
  rw [arrayFindings_eq, List.mem_append]
  simp only [other, false_or]
  match position with
  | 0 =>
      rw [if_pos rfl]
      refine iff_of_false (fun among => ?_) (by omega)
      split at among
      · cases among
      · rw [List.mem_singleton.1 among] at once
        cases once
  | 1 => simp
  | _ + 2 => simp

theorem misplaced_cons (start : Nat) (part : EncodedPart) (rest : List EncodedPart) :
    misplaced start (part :: rest) =
      misplaced (start + 1) rest + if part.sub.subindex.toNat ≠ start then 1 else 0 := by
  simp [misplaced, List.zipIdx_cons, List.countP_cons]

theorem filterMap_finding_cons (part : EncodedPart) (rest : List EncodedPart) :
    (part :: rest).filterMap (·.finding) = part.finding.toList ++ rest.filterMap (·.finding) := by
  cases found : part.finding <;> simp [found]

theorem ownFindings_eq (position : Nat) (part : EncodedPart) :
    ownFindings position part = part.finding.toList ++
      List.replicate (if part.sub.subindex.toNat ≠ position then 1 else 0) .arrayOrder := by
  unfold ownFindings
  split <;> rfl

/-- What is found at parts behind the first one, each for itself. -/
theorem arrayFindingsFrom_perm (element : EncodedPart) (later : start ≠ 0)
    (values : ∀ part ∈ parts, FindsValues part) :
    ((arrayFindingsFrom element start parts).filter (!isReportedOnce ·)).Perm
      (parts.filterMap (·.finding) ++ List.replicate (misplaced start parts) .arrayOrder) := by
  induction parts generalizing start with
  | nil => exact .refl _
  | cons part rest ih =>
      obtain ⟨own, others⟩ := List.forall_mem_cons.1 values
      rw [arrayFindingsFrom, List.filter_append, filter_not_arrayFindings later own, ownFindings_eq,
        filterMap_finding_cons, misplaced_cons, List.replicate_add]
      refine List.perm_iff_count.2 fun finding => ?_
      have behind := (ih (Nat.add_one_ne_zero start) others).count_eq finding
      simp only [List.count_append] at behind ⊢
      omega

/-- What is found by comparing the elements with the first one. -/
theorem mem_arrayFindingsFrom {single : Finding} (once : isReportedOnce single = true)
    (values : ∀ part ∈ parts, FindsValues part) :
    single ∈ arrayFindingsFrom element (start + 2) parts ↔
      ∃ part ∈ parts, single ∈ differences element part := by
  induction parts generalizing start with
  | nil => simp [arrayFindingsFrom]
  | cons part rest ih =>
      obtain ⟨own, others⟩ := List.forall_mem_cons.1 values
      rw [arrayFindingsFrom, List.mem_append, mem_arrayFindings once own, ih others]
      simp

variable {count : EncodedPart} {rest : List EncodedPart}

/-- What is found at the first part for itself. -/
theorem filter_not_arrayFindings_zero (values : FindsValues count) :
    (arrayFindings element 0 count).filter (!isReportedOnce ·) =
      ownFindings 0 count ++
        findingIf (¬ (count.encoding.cType = some .uint8 ∧ count.encoding.length = 1))
          (.arrayCountType (shownType count.sub.datum.dataType)) := by
  rw [arrayFindings_eq, if_pos rfl, List.filter_append, filter_ownFindings values]
  simp only [findingIf, ite_not, ← isByte_iff]
  split <;> rfl

/-- What is found at the parts of an array for themselves. -/
theorem arrayFindings_perm (values : ∀ part ∈ count :: element :: rest, FindsValues part) :
    ((arrayFindingsFrom element 0 (count :: element :: rest)).filter (!isReportedOnce ·)).Perm
      ((count :: element :: rest).filterMap (·.finding) ++
        List.replicate (misplaced 0 (count :: element :: rest)) .arrayOrder ++
        findingIf (¬ (count.encoding.cType = some .uint8 ∧ count.encoding.length = 1))
          (.arrayCountType (shownType count.sub.datum.dataType))) := by
  obtain ⟨own, others⟩ := List.forall_mem_cons.1 values
  rw [arrayFindingsFrom, List.filter_append, filter_not_arrayFindings_zero own, ownFindings_eq,
    filterMap_finding_cons, misplaced_cons, List.replicate_add]
  refine List.perm_iff_count.2 fun finding => ?_
  have behind := (arrayFindingsFrom_perm element (Nat.add_one_ne_zero 0) others).count_eq finding
  simp only [List.count_append] at behind ⊢
  omega

/-- What is found by comparing the elements of an array. -/
theorem mem_findings {single : Finding} (once : isReportedOnce single = true)
    (values : ∀ part ∈ count :: element :: rest, FindsValues part) :
    single ∈ arrayFindingsFrom element 0 (count :: element :: rest) ↔
      ∃ part ∈ rest, single ∈ differences element part := by
  simp only [List.forall_mem_cons] at values
  obtain ⟨first, second, others⟩ := values
  rw [arrayFindingsFrom, arrayFindingsFrom, List.mem_append, List.mem_append,
    mem_arrayFindings once first, mem_arrayFindings once second, mem_arrayFindingsFrom once others]
  simp

theorem filter_singleton_mem {findings : List Finding} {single : Finding} {condition : Prop}
    [Decidable condition] (found : single ∈ findings ↔ condition) :
    [single].filter (· ∈ findings) = findingIf condition single := by
  by_cases holds : condition
  · simp [findingIf, holds, found.2 holds]
  · simp [findingIf, holds, mt found.1 holds]

/-- What is found by comparing the elements of an array, each kind of finding once. -/
theorem filter_singleFindings (values : ∀ part ∈ count :: element :: rest, FindsValues part) :
    singleFindings.filter (· ∈ arrayFindingsFrom element 0 (count :: element :: rest)) =
      findingIf (∃ part ∈ rest, part.encoding.cType ≠ element.encoding.cType ∨
          part.encoding.length ≠ element.encoding.length) .arrayTypes ++
        findingIf (∃ part ∈ rest, part.encoding.isDefined ≠ element.encoding.isDefined)
          .arrayValues ++
        findingIf (∃ part ∈ rest, part.attributes ≠ element.attributes) .arrayAttributes := by
  have types : .arrayTypes ∈ arrayFindingsFrom element 0 (count :: element :: rest) ↔
      ∃ part ∈ rest, part.encoding.cType ≠ element.encoding.cType ∨
        part.encoding.length ≠ element.encoding.length := by
    rw [mem_findings rfl values]
    simp [differences]
  have defined : .arrayValues ∈ arrayFindingsFrom element 0 (count :: element :: rest) ↔
      ∃ part ∈ rest, part.encoding.isDefined ≠ element.encoding.isDefined := by
    rw [mem_findings rfl values]
    simp [differences]
  have attributes : .arrayAttributes ∈ arrayFindingsFrom element 0 (count :: element :: rest) ↔
      ∃ part ∈ rest, part.attributes ≠ element.attributes := by
    rw [mem_findings rfl values]
    simp [differences]
  have split : singleFindings = [.arrayTypes] ++ [.arrayValues] ++ [.arrayAttributes] := rfl
  rw [split, List.filter_append, List.filter_append, filter_singleton_mem types,
    filter_singleton_mem defined, filter_singleton_mem attributes]

/-- The findings in an array are those that its parts call for. -/
theorem reportOnce_arrayReport (values : ∀ part ∈ count :: element :: rest, FindsValues part) :
    (reportOnce [] (arrayFindingsFrom element 0 (count :: element :: rest))).Perm
      (arrayReport count element rest) := by
  have all := (reportOnce_perm _).trans ((arrayFindings_perm values).append_right _)
  rw [filter_singleFindings values, ← List.append_assoc, ← List.append_assoc] at all
  exact all

/-! ## One array -/

section

variable {lengths : StringLengths} {entry : Entry} {type : Option TypeName}
  {subEntries : List SubEntry}

/-- Whatever the image, compiling an array checks it. -/
theorem entry_checksArray (image : Image) (shape : entry.content = .array type subEntries) :
    ChecksArray lengths entry type subEntries image (Compile.entry lengths image entry) where
  short few := by
    have made : content lengths entry = ([.arrayTooShort subEntries.length], none) := by
      rw [content, shape]
      exact array_of_short lengths entry type few
    unfold Compile.entry findings
    rw [made]
    rfl
  checked enough := by
    obtain ⟨count, element, rest, parts⟩ := arrayParts_eq_cons lengths entry type enough
    have values := findsValues lengths entry type subEntries
    rw [parts] at values
    refine ⟨count, element, rest, _, parts, reportOnce_arrayReport values, ?_⟩
    rw [entry_eq]
    simp only [reports, findings, content, shape, array, parts]
    rfl

/-! ## Stored elements -/

theorem arraySuffix_eq_empty_iff (encoding : Encoding) :
    encoding.arraySuffix = "" ↔ encoding.elements = none := by
  rw [← String.toList_eq_nil_iff, toList_arraySuffix]
  cases encoding.elements <;> simp [Layout.declared]

theorem isItem_elementText (element part : EncodedPart) :
    IsItem element part (elementText element part) where
  stored value made := by
    rw [elementText, made]
  missing none := by
    simp only [elementText, none, arraySuffix_eq_empty_iff]
    cases element.encoding.elements <;> rfl

/-- Without a first element only the number of elements is stored. -/
theorem filter_arrayFields_none (name : String) (count : EncodedPart) {element : EncodedPart}
    (elements : List EncodedPart) (none : element.encoding.initializer = none) :
    (arrayFields name count element elements).filter (·.name == name) = [] := by
  have other := append_sub0_ne name
  cases first : count.encoding.initializer <;>
    simp [arrayFields, Encoding.isDefined, none, first, other]

/-- The image stores the elements of an array as the first one says. -/
theorem storesElements {name : String} {warnings : List String} {entries : List Entry}
    (distinct : (entries.map (·.index)).Nodup) (inside : entry ∈ entries)
    {count element : EncodedPart} {rest : List EncodedPart}
    (shape : entry.content = .array type subEntries)
    (parts : arrayParts lengths entry type subEntries = count :: element :: rest) :
    (imageOf lengths name warnings entries).StoresElements entry element (element :: rest) := by
  have kept := fields_of_arrayParts lengths shape parts
  have members : (imageOf lengths name warnings entries).membersNamed entry.storageLocation
      entry.member = _ := membersNamed_imageOf distinct inside String.append_empty.symm
  rw [kept] at members
  constructor
  · intro none
    exact members.trans (filter_arrayFields_none entry.member count (element :: rest) none)
  · intro some
    have defined : element.encoding.isDefined = true := Option.isSome_iff_ne_none.2 some
    refine ⟨(element :: rest).map (elementText element), List.length_map _, ?_,
      members.trans (filter_arrayFields_elements entry.member count (element :: rest) defined)⟩
    rw [List.forall₂_map_right_iff, List.forall₂_same]
    exact fun part _ => isItem_elementText element part

end

end Compile

namespace Example

/-- A document with an array of one part that should have an extension, and an array in which each
part has a fault of its own. -/
def faultyDocument : Value :=
  mapping [("objects", .list [
    mapping [("index", .int 0x1003), ("name", .text "A"), ("object_type", .int 8),
      ("sub_entries", .list [
        mapping [("subindex", .int 0), ("data_type", .int 5), ("default", .int 1)]])],
    mapping [("index", .int 0x2000), ("name", .text "B"), ("object_type", .int 8),
      ("sub_entries", .list [
        mapping [("subindex", .int 0), ("data_type", .int 6), ("default", .int 3)],
        mapping [("subindex", .int 1), ("data_type", .int 5), ("default", .int 7)],
        mapping [("subindex", .int 1), ("data_type", .int 5)],
        mapping [("subindex", .int 3), ("data_type", .int 6), ("default", .int 9)]])]])]

def stub : Entry where
  index := 0x1003
  name := "A"
  content := .array none [
    { subindex := 0, datum := { dataType := some (.known .unsigned8), default := some "1" } }]

def unevenParts : List SubEntry := [
  { subindex := 0, datum := { dataType := some (.known .unsigned16), default := some "3" } },
  { subindex := 1, datum := { dataType := some (.known .unsigned8), default := some "7" } },
  { subindex := 1, datum := { dataType := some (.known .unsigned8) } },
  { subindex := 3, datum := { dataType := some (.known .unsigned16), default := some "9" } }]

def uneven : Entry where
  index := 0x2000
  name := "B"
  content := .array none unevenParts

def faulty : Dictionary where
  objects := [stub, uneven]

theorem faulty_accepted : faulty.Accepted :=
  ⟨faultyDocument, by decide +kernel⟩

end Example

namespace Dictionary

/-- Wherever an array stands among the enabled objects of an accepted dictionary, compiling it
reports what its parts call for, and its elements are stored as the first of them says.  Of an array
that is too short only the report and the group remain. -/
theorem compile_checksArray {dictionary : Dictionary} (accepted : dictionary.Accepted)
    (lengths : StringLengths) (name : Option String) (warnings : List String)
    {earlier later : List Entry} {entry : Entry}
    (listed : dictionary.enabled = earlier ++ entry :: later) {type : Option TypeName}
    {subEntries : List SubEntry} (shape : entry.content = .array type subEntries) :
    let before := earlier.foldl (Compile.entry lengths)
      { name := dictionary.imageName name, warnings }
    let after := Compile.entry lengths before entry
    dictionary.compile lengths name warnings = later.foldl (Compile.entry lengths) after ∧
      Compile.ChecksArray lengths entry type subEntries before after ∧
      ∀ count element rest,
        Compile.arrayParts lengths entry type subEntries = count :: element :: rest →
          (element :: rest).length = subEntries.length - 1 ∧
            (dictionary.compile lengths name warnings).StoresElements entry element
              (element :: rest) := by
  intro before after
  refine ⟨?_, Compile.entry_checksArray before shape, fun count element rest parts => ⟨?_, ?_⟩⟩
  · rw [compile_eq, listed, ← Compile.foldl_entry, List.foldl_append]
    rfl
  · have total := Compile.length_arrayParts lengths entry type subEntries
    rw [parts] at total
    rw [← total]
    rfl
  · have inside : entry ∈ dictionary.enabled := by
      rw [listed]
      exact List.mem_append_right _ List.mem_cons_self
    rw [compile_eq]
    exact Compile.storesElements accepted.enabled_indices_nodup inside shape parts

/-- An array of one part is reported, and every fault of an uneven array is. -/
theorem compile_checksArray_faulty :
    Example.faulty.Accepted ∧
      (Compile.entry (fixedLength 1) {} Example.stub).warnings =
        ["Error in 0x1003: extIO must be enabled for this object!",
          "Error in 0x1003: ARRAY must have minimum two sub entries, not 1!"] ∧
      ∃ found : List Finding, found.Perm
          [.arrayOrder, .arrayCountType "UNSIGNED16", .arrayTypes, .arrayValues,
            .arrayAttributes] ∧
        (Example.faulty.compile (fixedLength 1) none []).warnings =
          (Compile.entry (fixedLength 1) {} Example.stub).warnings ++
            found.map (Finding.report "2000") ∧
        ∃ items : List String, items.length = 3 ∧
          ((Example.faulty.compile (fixedLength 1) none []).membersNamed "RAM" "x2000_b").map
            (·.initializer) = [Initializer.braced items] := by
  have first : Example.faulty.enabled = [] ++ Example.stub :: [Example.uneven] := by decide
  have second : Example.faulty.enabled = [Example.stub] ++ Example.uneven :: [] := by decide
  obtain ⟨_, short, _⟩ := compile_checksArray Example.faulty_accepted (fixedLength 1) none [] first
    rfl
  obtain ⟨last, checks, stored⟩ := compile_checksArray Example.faulty_accepted (fixedLength 1) none
    [] second rfl
  obtain ⟨count, element, rest, found, parts, calls, reported⟩ := checks.checked (by decide)
  obtain ⟨total, elements⟩ := stored count element rest parts
  have report : Compile.arrayReport count element rest =
      [.arrayOrder, .arrayCountType "UNSIGNED16", .arrayTypes, .arrayValues, .arrayAttributes] := by
    cases parts
    decide
  have defined : element.encoding.initializer ≠ none := by
    cases parts
    decide
  obtain ⟨items, length, _, members⟩ := elements.stored defined
  have member : Example.uneven.member = "x2000_b" := by decide
  have label : Example.uneven.label = "2000" := by decide
  refine ⟨Example.faulty_accepted, ?_, found, report ▸ calls, ?_, items, length.trans total, ?_⟩
  · exact (congrArg Image.warnings (short.short (by decide))).trans (by decide)
  · rw [last, ← label]
    exact reported
  · rw [← member]
    exact congrArg (List.map StorageField.initializer) members

end Dictionary

end Canopen
