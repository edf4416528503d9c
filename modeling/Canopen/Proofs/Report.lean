import Canopen.Proofs.Compile.Listing
import Canopen.Warning

/-!
# Reports taken apart

A report about an object is taken apart into the index of the object and the text of what was found,
whatever this text is.  The kind of a finding can be told from its text.
-/

namespace Canopen

namespace Finding

/-- The second letter of the text of a finding.  It is part of the fixed words in front of any value
or type that the text quotes. -/
def letter : Finding → Char
  | conversion _ _ => 'r'
  | overflow _ _ => 'v'
  | unknownType _ => 'n'
  | extensionMissing => 'x'
  | arrayTooShort _ => 'R'
  | arrayOrder => 'u'
  | arrayCountType _ | arrayTypes | recordCountType _ => 'a'
  | arrayValues => 'e'
  | arrayAttributes => 't'
  | recordTooShort _ => 'E'

theorem getElem?_append {front : String} {c : Char} (rest : String)
    (there : front.toList[1]? = some c) : (front ++ rest).toList[1]? = some c := by
  have inside := (List.getElem?_eq_some_iff.1 there).1
  rw [String.toList_append, List.getElem?_append_left inside, there]

theorem getElem?_text (finding : Finding) : finding.text.toList[1]? = some finding.letter := by
  cases finding with
  | conversion value type =>
      exact getElem?_append _ (getElem?_append _ (getElem?_append _ rfl))
  | overflow value type =>
      exact getElem?_append _ (getElem?_append _ (getElem?_append _ rfl))
  | unknownType type => exact getElem?_append _ rfl
  | arrayTooShort count | arrayCountType type | recordTooShort count | recordCountType type =>
      exact getElem?_append _ (getElem?_append _ rfl)
  | extensionMissing | arrayOrder | arrayTypes | arrayValues | arrayAttributes => decide

/-- No other finding has the text about attributes, whatever values and types it quotes. -/
theorem text_eq_iff (finding : Finding) :
    finding.text = "Attributes of elements in ARRAY must be equal!" ↔
      finding = .arrayAttributes := by
  constructor
  · intro same
    have read := finding.getElem?_text
    rw [same] at read
    have letter : finding.letter = 't' := Option.some.inj read.symm
    cases finding with
    | arrayAttributes => rfl
    | _ => cases letter
  · rintro rfl
    rfl
end Finding

namespace Warning

theorem isHexDigit_of_mem {c : Char} (capital : c ∈ Number.capitalHexDigits) :
    isHexDigit c = true := by
  have all : Number.capitalHexDigits.all isHexDigit = true := by decide
  exact List.all_eq_true.1 all c capital

/-- Hexadecimal digits end in front of the colon. -/
theorem parts?_eq {digits finding : List Char} (some : digits ≠ [])
    (hex : ∀ c ∈ digits, isHexDigit c = true) :
    parts? ("Error in 0x".toList ++ (digits ++ ':' :: ' ' :: finding)) =
      Option.some ('0' :: 'x' :: digits, finding) := by
  have front : (digits ++ ':' :: ' ' :: finding).takeWhile isHexDigit = digits := by
    rw [List.takeWhile_append_of_pos hex, List.takeWhile_cons_of_neg (by decide), List.append_nil]
  have behind : (digits ++ ':' :: ' ' :: finding).dropWhile isHexDigit =
      [':', ' '] ++ finding := by
    rw [List.dropWhile_append_of_pos hex, List.dropWhile_cons_of_neg (by decide)]
    rfl
  have named : digits.isEmpty = false := List.isEmpty_eq_false_iff.2 some
  rw [parts?, after?_eq_some_iff.2 rfl]
  simp only [Option.bind_eq_bind, Option.bind_some, front, behind, after?_eq_some_iff.2 rfl, named,
    Bool.false_eq_true, if_false]

/-- A report is taken apart into what it was made of. -/
theorem split_report (entry : Entry) (finding : Finding) :
    split (finding.report entry.label) = ("0x" ++ entry.label, finding.text) := by
  have text : (finding.report entry.label).toList =
      "Error in 0x".toList ++ (entry.label.toList ++ ':' :: ' ' :: finding.text.toList) := by
    simp [Finding.report, String.toList_append]
  have label := Compile.capitalHex_label entry
  have some : entry.label.toList ≠ [] := List.ne_nil_of_length_pos (by rw [label.length]; decide)
  have digits : ∀ c ∈ entry.label.toList, isHexDigit c = true := fun c inside =>
    isHexDigit_of_mem (label.capital c inside)
  rw [split, text, parts?_eq some digits]
  simp only [String.ofList_toList, Prod.mk.injEq, and_true]
  rw [← String.toList_inj, String.toList_ofList, String.toList_append]
  rfl

end Warning

end Canopen
