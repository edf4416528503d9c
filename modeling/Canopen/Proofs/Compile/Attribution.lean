import Canopen.Proofs.Literal.Grammar
import Canopen.Proofs.Order
import Canopen.Proofs.Report

/-!
# What warnings are about

Every warning that compiling adds names an enabled object by its index, in the order of the indices,
and is taken apart into this index and what was found there.  A message of any other form is taken
to be about no object.
-/

namespace Canopen

namespace Warning

/-- The location of an object: hexadecimal digits behind their mark. -/
inductive IsLocation : String → Prop where
  | index {digits : List Char} (filled : digits ≠ [])
      (plain : ∀ c ∈ digits, c ∈ Base.hexadecimal.digits) :
      IsLocation ("0x" ++ String.ofList digits)

/-- The message tells of a location what stands behind it. -/
def Tells (location rest message : String) : Prop :=
  message = "Error in " ++ location ++ ": " ++ rest

/-- What a message may be taken apart into: the location that it names and what it tells of it, or
nothing, if it names none. -/
inductive TakenApart (message : String) : String × String → Prop where
  | located {location rest : String} (place : IsLocation location)
      (tells : Tells location rest message) : TakenApart message (location, rest)
  | general (nowhere : ∀ location rest, IsLocation location → ¬ Tells location rest message) :
      TakenApart message ("general", message)

/-- The message tells something of the object with the index, which stands in it with four digits,
and is taken apart into just that. -/
def Attributed (index : UInt16) (rest message : String) : Prop :=
  ∃ digits, Number.CapitalHex 4 index.toNat digits ∧
    Tells ("0x" ++ String.ofList digits) rest message ∧
    split message = ("0x" ++ String.ofList digits, rest)

theorem isHexDigit_iff (c : Char) : isHexDigit c = true ↔ c ∈ Base.hexadecimal.digits := by
  rw [isHexDigit, Literal.isSome_digit?, decide_eq_true_iff]

/-- A message has parts exactly when it is made of them. -/
theorem parts?_eq_some_iff {message index finding : List Char} :
    parts? message = some (index, finding) ↔
      ∃ digits, digits ≠ [] ∧ (∀ c ∈ digits, isHexDigit c = true) ∧
        index = '0' :: 'x' :: digits ∧
        message = "Error in 0x".toList ++ (digits ++ ':' :: ' ' :: finding) := by
  constructor
  · intro read
    obtain ⟨rest, front, read⟩ := Option.bind_eq_some_iff.1 read
    obtain ⟨behind, colon, read⟩ := Option.bind_eq_some_iff.1 read
    rw [after?_eq_some_iff] at front colon
    split at read
    · cases read
    · next filled =>
      cases read
      have cut : rest = rest.takeWhile isHexDigit ++ ':' :: ' ' :: finding :=
        calc
          rest = rest.takeWhile isHexDigit ++ rest.dropWhile isHexDigit :=
            List.takeWhile_append_dropWhile.symm
          _ = rest.takeWhile isHexDigit ++ ':' :: ' ' :: finding := by rw [colon]; rfl
      refine ⟨rest.takeWhile isHexDigit, ?_, ?_, rfl, ?_⟩
      · exact fun empty => filled (List.isEmpty_iff.2 empty)
      · exact fun c inside => List.mem_takeWhile_imp inside
      · rw [← cut, front]
  · rintro ⟨digits, filled, hex, rfl, rfl⟩
    exact parts?_eq filled hex

theorem toList_of_tells {digits : List Char} {rest message : String}
    (tells : Tells ("0x" ++ String.ofList digits) rest message) :
    message.toList = "Error in 0x".toList ++ (digits ++ ':' :: ' ' :: rest.toList) := by
  rw [tells]
  simp [String.toList_append]

theorem tells_of_toList {digits finding : List Char} {message : String}
    (made : message.toList = "Error in 0x".toList ++ (digits ++ ':' :: ' ' :: finding)) :
    Tells ("0x" ++ String.ofList digits) (String.ofList finding) message := by
  rw [Tells, ← String.toList_inj, made]
  simp [String.toList_append]

theorem toList_location (digits : List Char) :
    String.ofList ('0' :: 'x' :: digits) = "0x" ++ String.ofList digits := by
  simp [← String.toList_inj, String.toList_append]

/-- Whatever is told of a location, the location and what is told are found again. -/
theorem parts?_of_tells {location rest message : String} (place : IsLocation location)
    (tells : Tells location rest message) :
    ∃ index, parts? message.toList = some (index, rest.toList) := by
  obtain ⟨filled, plain⟩ := place
  have hex := fun c inside => (isHexDigit_iff c).2 (plain c inside)
  exact ⟨_, parts?_eq_some_iff.2 ⟨_, filled, hex, rfl, toList_of_tells tells⟩⟩

/-- Every message is taken apart as far as it can be. -/
theorem takenApart_split (message : String) : TakenApart message (split message) := by
  rw [split]
  cases parts : parts? message.toList with
  | some pair =>
      obtain ⟨index, finding⟩ := pair
      obtain ⟨digits, filled, hex, rfl, made⟩ := parts?_eq_some_iff.1 parts
      have plain := fun c inside => (isHexDigit_iff c).1 (hex c inside)
      have tells := tells_of_toList made
      simp only [toList_location]
      exact .located (.index filled plain) tells
  | none =>
      refine .general fun location rest place tells => ?_
      obtain ⟨index, found⟩ := parts?_of_tells place tells
      rw [parts] at found
      cases found

/-- A report about an entry is attributed to it. -/
theorem attributed_report (entry : Entry) (finding : Finding) :
    Attributed entry.index finding.text (finding.report entry.label) := by
  have label := Compile.capitalHex_label entry
  refine ⟨entry.label.toList, label, ?_, ?_⟩
  · rw [Tells, String.ofList_toList]
    simp only [Finding.report, ← String.toList_inj, String.toList_append]
    rfl
  · rw [String.ofList_toList]
    exact split_report entry finding

end Warning

namespace Compile

variable (lengths : StringLengths)

/-- What is found in each of the entries, one finding after the other. -/
def foundIn (entries : List Entry) : List (Entry × Finding) :=
  entries.flatMap fun entry => (findings lengths entry).map (entry, ·)

theorem mem_foundIn {entries : List Entry} {entry : Entry} {finding : Finding} :
    (entry, finding) ∈ foundIn lengths entries ↔
      entry ∈ entries ∧ finding ∈ findings lengths entry := by
  simp [foundIn]

/-- The findings come in the order of the entries. -/
theorem pairwise_foundIn {entries : List Entry}
    (ascending : entries.Pairwise (·.index ≤ ·.index)) :
    (foundIn lengths entries).Pairwise (·.1.index ≤ ·.1.index) := by
  refine List.pairwise_flatMap.2 ⟨fun entry _ => ?_, ascending.imp fun below => ?_⟩
  · exact List.pairwise_map.2 (List.pairwise_of_forall fun _ _ => UInt16.le_refl _)
  · intro first among second later
    obtain ⟨_, _, rfl⟩ := List.mem_map.1 among
    obtain ⟨_, _, rfl⟩ := List.mem_map.1 later
    exact below

/-- Every finding becomes one report. -/
theorem flatMap_reports (entries : List Entry) :
    entries.flatMap (reports lengths) =
      (foundIn lengths entries).map fun found => found.2.report found.1.label := by
  rw [foundIn, List.map_flatMap]
  simp only [List.map_map]
  rfl

end Compile

namespace Dictionary

/-- The warnings that compiling adds are about enabled entries: there is one for each finding, in
ascending order of the indices, and each is taken apart into the index of its entry and the text of
what was found there.  Every other message is taken apart into the location that it names and the
rest of it, or not at all. -/
theorem compile_attributed (dictionary : Dictionary) (lengths : StringLengths)
    (name : Option String) (warnings : List String) :
    (∃ (found : List (Entry × Finding)) (added : List String),
      (dictionary.compile lengths name warnings).warnings = warnings ++ added ∧
      (∀ entry finding, (entry, finding) ∈ found ↔
        entry ∈ dictionary.enabled ∧ finding ∈ Compile.findings lengths entry) ∧
      found.Pairwise (fun first second => first.1.index ≤ second.1.index) ∧
      List.Forall₂ (fun about message => Warning.Attributed about.1.index about.2.text message)
        found added) ∧
    ∀ message, Warning.TakenApart message (Warning.split message) := by
  refine ⟨⟨Compile.foundIn lengths dictionary.enabled,
    dictionary.enabled.flatMap (Compile.reports lengths), ?_, ?_, ?_, ?_⟩,
    Warning.takenApart_split⟩
  · rw [compile_eq]
    rfl
  · exact fun entry finding => Compile.mem_foundIn lengths
  · exact Compile.pairwise_foundIn lengths (sortByIndex_pairwise _)
  · rw [Compile.flatMap_reports, List.forall₂_map_right_iff, List.forall₂_same]
    exact fun found _ => Warning.attributed_report found.1 found.2

/-- Only the first prefix counts. -/
example : Warning.split "Error in 0x1003: Error in 0x2000: a" =
    ("0x1003", "Error in 0x2000: a") := by decide

end Dictionary

end Canopen
