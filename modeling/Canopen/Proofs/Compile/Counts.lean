import Canopen.Proofs.Compile.Elements
import Canopen.Proofs.Compile.Listing
import Canopen.Proofs.Schema.WellFormed
import Canopen.Proofs.Source.Table

/-!
# Numbers of parts

The list announces the number of parts of every object in two digits at least.  The subindices of an
array without a warning count up from zero, so that it has 256 parts at most.  The subindices of a
record may be repeated, and nothing bounds their number.
-/

namespace Canopen

namespace Number

/-- The digits of a number of parts: they spell the number, and they are two exactly for a byte. -/
structure CountDigits (n : Nat) (digits : List Char) : Prop where
  spells : CapitalHex digits.length n digits
  several : 2 ≤ digits.length
  byte : digits.length = 2 ↔ n ≤ 255

theorem countDigits_paddedHexChars (n : Nat) : CountDigits n (paddedHexChars 2 n) where
  spells := ⟨rfl, fun _ inside => mem_capitalHexDigits inside, spelled?_paddedHexChars 2 n⟩
  several := by
    rw [paddedHexChars, length_padZeros]
    exact Nat.le_max_left _ _
  byte := by
    have short : (hexChars n).length ≤ 2 ↔ n < 16 ^ 2 := by
      rw [hexChars, List.length_map]
      exact Nat.length_toDigits_le_iff (by decide) (by decide)
    rw [paddedHexChars, length_padZeros]
    omega

end Number

/-- The number that an object announces is the number of its parts. -/
structure Content.Counts (content : Content) (count : Nat) : Prop where
  var : ∀ datum, content = .var datum → count = 1
  array :
    ∀ type subEntries, content = .array type subEntries →
      count = subEntries.length ∧ 2 ≤ count ∧ count ≤ 256
  record : ∀ subEntries, content = .record subEntries → count = subEntries.length ∧ 2 ≤ count

/-- The source of the image spells the number of parts of every row, in front of the last row. -/
def Image.SpellsCounts (image : Image) : Prop :=
  ∀ version filename, ∃ columns,
    Source.listCounts image.name (Source.constructs (Source.bodyLines version filename image)) =
      columns ++ [['0', '0']] ∧
    List.Forall₂ (fun row digits => Number.CountDigits row.subCount digits) image.rows columns

/-- The image lists the entries with the numbers of their parts. -/
structure Image.Counts (image : Image) (entries : List Entry) : Prop where
  rows :
    List.Forall₂
      (fun row entry => row.index = entry.index.toNat ∧ entry.content.Counts row.subCount)
      image.rows entries
  spelled : image.SpellsCounts

theorem Image.spellsCounts (image : Image) : image.SpellsCounts := by
  intro version filename
  refine ⟨_, Source.listCounts_source version filename image, ?_⟩
  rw [List.forall₂_map_right_iff, List.forall₂_same]
  exact fun row _ => Number.countDigits_paddedHexChars row.subCount

namespace Compile

variable {lengths : StringLengths} {entry : Entry}

/-! ## Objects without findings -/

/-- A part of an array of which nothing is found has its position for a subindex. -/
theorem subindex_of_silent {element part : EncodedPart} {position : Nat}
    (silent : arrayFindings element position part = []) :
    part.sub.subindex.toNat = position := by
  have ordered := (List.append_eq_nil_iff.1 (List.append_eq_nil_iff.1 silent).1).2
  by_contra other
  rw [if_pos other] at ordered
  cases ordered

/-- No array without findings has more parts than there are subindices. -/
theorem length_le_of_silent {element : EncodedPart} {parts : List EncodedPart}
    (silent : arrayFindingsFrom element 0 parts = []) : parts.length ≤ 256 := by
  by_contra longer
  have bound : 256 < parts.length := Nat.lt_of_not_le longer
  have found := arrayFindings_eq_nil silent (List.getElem?_eq_getElem bound)
  rw [Nat.zero_add] at found
  have small := (parts[256].sub.subindex).toNat_lt
  have placed := subindex_of_silent found
  omega

theorem counts_of_silent (silent : findings lengths entry = []) :
    entry.content.Counts entry.content.subCount := by
  obtain ⟨_, nothing⟩ := List.append_eq_nil_iff.1 silent
  have complete := isComplete_of_silent nothing
  constructor
  · rintro datum shape
    rw [shape]
    rfl
  · intro type subEntries shape
    rw [shape] at complete ⊢
    have enough : 2 ≤ subEntries.length := of_decide_eq_true complete
    obtain ⟨count, element, rest, parts⟩ := arrayParts_eq_cons lengths entry type enough
    simp only [content, shape, array, parts] at nothing
    have bound := length_le_of_silent (eq_nil_of_reportOnce nothing)
    rw [← parts, length_arrayParts] at bound
    exact ⟨rfl, enough, bound⟩
  · intro subEntries shape
    rw [shape] at complete ⊢
    exact ⟨rfl, of_decide_eq_true complete⟩

/-- Where no warning is added, nothing is found in any entry. -/
theorem findings_of_silent {name : String} {warnings : List String} {entries : List Entry}
    (silent : (imageOf lengths name warnings entries).warnings = warnings) :
    ∀ entry ∈ entries, findings lengths entry = [] := by
  have nothing : entries.flatMap (reports lengths) = [] := List.append_right_eq_self.1 silent
  intro entry inside
  exact List.map_eq_nil_iff.1 (List.flatMap_eq_nil_iff.1 nothing entry inside)

theorem imageOf_counts {name : String} {warnings : List String} {entries : List Entry}
    (silent : (imageOf lengths name warnings entries).warnings = warnings) :
    (imageOf lengths name warnings entries).Counts entries where
  rows := by
    have none := findings_of_silent silent
    have complete : completeEntries entries = entries := List.filter_eq_self.2 fun entry inside =>
      isComplete_of_silent (List.append_eq_nil_iff.1 (none entry inside)).2
    have rows : (imageOf lengths name warnings entries).rows =
        (completeEntries entries).map (·.row) := flatMap_rows entries
    rw [rows, complete, List.forall₂_map_left_iff, List.forall₂_same]
    exact fun entry inside => ⟨rfl, counts_of_silent (none entry inside)⟩
  spelled := Image.spellsCounts _

/-! ## Parts without findings -/

/-- Nothing is found in an array of which nothing is found at any part. -/
theorem arrayFindingsFrom_eq_nil {element : EncodedPart} {start : Nat} {parts : List EncodedPart}
    (silent : ∀ position part, parts[position]? = some part →
      arrayFindings element (start + position) part = []) :
    arrayFindingsFrom element start parts = [] := by
  induction parts generalizing start with
  | nil => rfl
  | cons first rest ih =>
      rw [arrayFindingsFrom, List.append_eq_nil_iff]
      refine ⟨silent 0 first rfl, ih fun position part there => ?_⟩
      have later := silent (position + 1) part there
      rwa [Nat.add_assoc, Nat.add_comm 1]

/-- Nothing is found at a byte in its place that agrees with the first element. -/
theorem arrayFindings_of_byte {element part : EncodedPart} {position : Nat}
    (finding : part.finding = none) (placed : part.sub.subindex.toNat = position)
    (byte : isByte part.encoding = true) (encoding : part.encoding = element.encoding)
    (attributes : part.attributes = element.attributes) :
    arrayFindings element position part = [] := by
  have none : differences element part = [] := by
    simp [differences, encoding, attributes]
  simp [arrayFindings, finding, placed, byte, none]

end Compile

/-! ## Objects of bytes -/

namespace Example

open Compile

def byte : Datum where
  dataType := some (.known .unsigned8)
  default := some "1"

def byteAt (subindex : UInt8) : SubEntry where
  subindex
  datum := byte

/-- A byte as it is encoded for its part. -/
def encodedByte (subindex : UInt8) : EncodedPart where
  sub := byteAt subindex
  encoding := .scalar .uint8 1 (.unsigned 2 1)
  finding := none
  attributes := attributes none (some .no) false

/-- An array of so many bytes, with subindices that count up. -/
def byteArray (count : Nat) : Entry where
  index := 0x2000
  content := .array none ((List.range count).map fun position => byteAt (UInt8.ofNat position))

/-- A record of so many bytes, all with one subindex. -/
def byteRecord (count : Nat) : Entry where
  index := 0x2000
  content := .record (List.replicate count (byteAt 0))

/-- A dictionary of one object. -/
def alone (entry : Entry) : Dictionary where
  objects := [entry]

theorem alone_accepted {entry : Entry} (wellFormed : entry.WellFormed) :
    (alone entry).Accepted := by
  have name : CName.isIdentifier "OD".toList = true := by decide
  refine Dictionary.WellFormed.accepted ⟨name, ?_, List.nodup_singleton _⟩
  intro other inside
  rw [List.mem_singleton.1 inside]
  exact wellFormed

theorem isIdentifier_location : CName.isIdentifier "RAM".toList = true := by
  decide

theorem byteArray_accepted (count : Nat) : (alone (byteArray count)).Accepted := by
  refine alone_accepted ⟨isIdentifier_location, typeKept_none, fun sub inside => ?_⟩
  obtain ⟨position, _, rfl⟩ := List.mem_map.1 inside
  exact typeKept_known .unsigned8

theorem byteRecord_accepted (count : Nat) : (alone (byteRecord count)).Accepted := by
  refine alone_accepted ⟨isIdentifier_location, fun sub inside => ?_⟩
  rw [List.eq_of_mem_replicate inside]
  exact typeKept_known .unsigned8

section

variable (lengths : StringLengths)

/-- A byte is encoded alike with any number of reserved elements. -/
theorem ofDefault_byte (elements : Int) :
    Encoding.ofDefault byte.dataType byte.default elements =
      (Encoding.scalar .uint8 1 (.unsigned 2 1), none) :=
  rfl

theorem encodePart_byte (entry : Entry) (position : Nat) (subindex : UInt8) :
    encodePart lengths entry position byte.dataType (byteAt subindex) = encodedByte subindex := by
  have same : (byteAt subindex).datum = byte := rfl
  simp only [encodePart, same, ofDefault_byte]
  rfl

theorem partType_byte (position : Nat) (subindex : UInt8) :
    partType none position (byteAt subindex) = byte.dataType := by
  unfold partType
  split <;> rfl

/-- Every part of the array is a byte in its place. -/
theorem getElem?_arrayParts_byte {entry : Entry} {count position : Nat} {part : EncodedPart}
    (there : (arrayParts lengths entry none
      ((List.range count).map fun position => byteAt (UInt8.ofNat position)))[position]? =
        some part) :
    position < count ∧ part = encodedByte (UInt8.ofNat position) := by
  rw [arrayParts, List.getElem?_mapIdx, List.getElem?_map] at there
  obtain ⟨sub, here, rfl⟩ := Option.map_eq_some_iff.1 there
  obtain ⟨_, listed, rfl⟩ := Option.map_eq_some_iff.1 here
  obtain ⟨bound, rfl⟩ := List.getElem?_eq_some_iff.1 listed
  rw [List.length_range] at bound
  rw [List.getElem_range, partType_byte, encodePart_byte]
  exact ⟨bound, rfl⟩

theorem findings_byteArray {count : Nat} (enough : 2 ≤ count) (bound : count ≤ 256) :
    findings lengths (byteArray count) = [] := by
  have long : 2 ≤ ((List.range count).map fun position =>
      byteAt (UInt8.ofNat position)).length := by
    rwa [List.length_map, List.length_range]
  obtain ⟨first, element, rest, parts⟩ :=
    arrayParts_eq_cons lengths (byteArray count) none long
  have place {position : Nat} {part : EncodedPart}
      (there : (first :: element :: rest)[position]? = some part) :
      position < count ∧ part = encodedByte (UInt8.ofNat position) :=
    getElem?_arrayParts_byte lengths (parts ▸ there)
  have second : (first :: element :: rest)[1]? = some element := rfl
  obtain ⟨_, rfl⟩ := place second
  have silent : arrayFindingsFrom (encodedByte (UInt8.ofNat 1)) 0
      (first :: encodedByte (UInt8.ofNat 1) :: rest) = [] := by
    refine arrayFindingsFrom_eq_nil fun position part there => ?_
    obtain ⟨small, rfl⟩ := place there
    have fits : position < 256 := Nat.lt_of_lt_of_le small bound
    have placed : (UInt8.ofNat position).toNat = 0 + position := by
      rw [UInt8.toNat_ofNat', Nat.mod_eq_of_lt fits, Nat.zero_add]
    exact arrayFindings_of_byte rfl placed rfl rfl rfl
  simp only [findings, content, byteArray, array]
  rw [byteArray] at parts
  rw [parts]
  simp only [silent]
  rfl

theorem findings_byteRecord {count : Nat} (enough : 2 ≤ count) :
    findings lengths (byteRecord count) = [] := by
  have parts (entry : Entry) : recordParts lengths entry (List.replicate count (byteAt 0)) =
      List.replicate count (encodedByte 0) := by
    rw [recordParts, List.eq_replicate_iff]
    refine ⟨by rw [List.length_mapIdx, List.length_replicate], fun part among => ?_⟩
    obtain ⟨position, bound, rfl⟩ := List.mem_mapIdx.1 among
    rw [List.getElem_replicate]
    rfl
  have short : ¬ (List.replicate count (byteAt 0)).length < 2 := by
    rw [List.length_replicate]
    exact Nat.not_lt.2 enough
  have silent : recordFindings (List.replicate count (encodedByte 0)) = [] := by
    cases count with
    | zero => rfl
    | succ rest =>
        rw [List.replicate_succ, recordFindings, List.append_eq_nil_iff]
        refine ⟨rfl, List.flatMap_eq_nil_iff.2 fun part among => ?_⟩
        rw [List.eq_of_mem_replicate among]
        rfl
  simp only [findings, content, byteRecord, record, if_neg short, parts, silent]
  rfl

/-- A dictionary whose only object has no findings. -/
theorem compile_alone {entry : Entry} (enabled : entry.disabled = false)
    (complete : entry.content.isComplete = true) (silent : findings lengths entry = []) :
    ((alone entry).compile lengths none []).warnings = [] ∧
      ((alone entry).compile lengths none []).rows.map (·.subCount) =
        [entry.content.subCount] := by
  have entries : (alone entry).enabled = [entry] := by
    simp [Dictionary.enabled, alone, enabled, Dictionary.sortByIndex, Dictionary.insertByIndex]
  rw [Dictionary.compile_eq, entries]
  constructor
  · simp [imageOf, reports, silent]
  · simp [imageOf, Entry.rows, complete, Entry.row]

end

end Example

namespace Dictionary

/-- A dictionary that compiles without a warning is listed with the number of parts of every
enabled object: one for a single value, two to 256 for an array and two at least for a record.  Its
source spells these numbers in two digits at least, and in two exactly for a byte. -/
theorem compile_counts {dictionary : Dictionary} {lengths : StringLengths} {name : Option String}
    {warnings : List String}
    (silent : (dictionary.compile lengths name warnings).warnings = warnings) :
    (dictionary.compile lengths name warnings).Counts dictionary.enabled := by
  rw [compile_eq] at silent ⊢
  exact Compile.imageOf_counts silent

/-- Two arrays of three parts each. -/
theorem compile_counts_mixture :
    (Example.mixture.compile (fixedLength 1) none []).warnings = [] ∧
      (Example.mixture.compile (fixedLength 1) none []).Counts Example.mixture.enabled ∧
      (Example.mixture.compile (fixedLength 1) none []).rows.map (·.subCount) = [3, 3] := by
  have silent : (Example.mixture.compile (fixedLength 1) none []).warnings = [] := by decide
  exact ⟨silent, compile_counts silent, by decide⟩

/-- Every number of parts from two to 256 is that of some array without a warning. -/
theorem compile_byteArray (lengths : StringLengths) {count : Nat} (enough : 2 ≤ count)
    (bound : count ≤ 256) :
    (Example.alone (Example.byteArray count)).Accepted ∧
      ((Example.alone (Example.byteArray count)).compile lengths none []).warnings = [] ∧
      ((Example.alone (Example.byteArray count)).compile lengths none []).rows.map (·.subCount) =
        [count] := by
  have parts : (Example.byteArray count).content.subCount = count := by
    simp [Example.byteArray, Content.subCount]
  have complete : (Example.byteArray count).content.isComplete = true := by
    simpa [Example.byteArray, Content.isComplete] using enough
  have compiled := Example.compile_alone lengths rfl complete
    (Example.findings_byteArray lengths enough bound)
  rw [parts] at compiled
  exact ⟨Example.byteArray_accepted count, compiled⟩

/-- Every number of parts from two on is that of some record without a warning. -/
theorem compile_byteRecord (lengths : StringLengths) {count : Nat} (enough : 2 ≤ count) :
    (Example.alone (Example.byteRecord count)).Accepted ∧
      ((Example.alone (Example.byteRecord count)).compile lengths none []).warnings = [] ∧
      ((Example.alone (Example.byteRecord count)).compile lengths none []).rows.map (·.subCount) =
        [count] := by
  have parts : (Example.byteRecord count).content.subCount = count := by
    simp [Example.byteRecord, Content.subCount]
  have complete : (Example.byteRecord count).content.isComplete = true := by
    simpa [Example.byteRecord, Content.isComplete] using enough
  have compiled := Example.compile_alone lengths rfl complete
    (Example.findings_byteRecord lengths enough)
  rw [parts] at compiled
  exact ⟨Example.byteRecord_accepted count, compiled⟩

/-- An array with every subindex and a long record have more parts than a byte counts, and three
digits announce them. -/
theorem compile_counts_exceed_byte :
    (Example.alone (Example.byteArray 256)).Accepted ∧
      ((Example.alone (Example.byteArray 256)).compile defaultLength none []).warnings = [] ∧
      ((Example.alone (Example.byteArray 256)).compile defaultLength none []).rows.map
        (·.subCount) = [256] ∧
      (∀ version filename,
        Source.listCounts
            ((Example.alone (Example.byteArray 256)).compile defaultLength none []).name
            (Source.constructs (Source.bodyLines version filename
              ((Example.alone (Example.byteArray 256)).compile defaultLength none []))) =
          [['1', '0', '0'], ['0', '0']]) ∧
      (Example.alone (Example.byteRecord 300)).Accepted ∧
      ((Example.alone (Example.byteRecord 300)).compile defaultLength none []).warnings = [] ∧
      ((Example.alone (Example.byteRecord 300)).compile defaultLength none []).rows.map
        (·.subCount) = [300] := by
  have several : 2 ≤ 256 ∧ 2 ≤ 300 := by decide
  obtain ⟨accepted, silent, counts⟩ :=
    compile_byteArray defaultLength several.1 (Nat.le_refl 256)
  refine ⟨accepted, silent, counts, fun version filename => ?_,
    compile_byteRecord defaultLength several.2⟩
  have digits : Number.paddedHexChars 2 256 = ['1', '0', '0'] := by decide
  have columns := congrArg (List.map (Number.paddedHexChars 2)) counts
  rw [List.map_map, List.map_singleton, digits] at columns
  rw [Source.listCounts_source]
  exact congrArg (· ++ [['0', '0']]) columns

end Dictionary

end Canopen
