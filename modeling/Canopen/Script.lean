/-!
# Texts with halves of characters

A document may spell a character by its code, and some codes are those of half a character.  A text
that holds one can be kept, compared and shown, but no encoding of characters can write it.
-/

namespace Canopen

/-- The code of half a character, as texts in units of sixteen bits have it. -/
def isHalf (code : Nat) : Bool :=
  0xD800 ≤ code && code < 0xE000

/-- A character is no half. -/
theorem isHalf_toNat (c : Char) : isHalf c.toNat = false := by
  have valid : c.toNat < 0xD800 ∨ 0xDFFF < c.toNat ∧ c.toNat < 0x110000 := c.valid
  simp only [isHalf, Bool.and_eq_false_iff, decide_eq_false_iff_not]
  omega

/-- The codes of a text of which at least one is that of half a character. -/
structure Halves where
  codes : List Nat
  half : codes.any isHalf = true
deriving DecidableEq, Repr

namespace Halves

/-- The character that stands where none can. -/
def replacement : Char := '\uFFFD'

/-- The character of a code, or the one that stands where there is none. -/
def shownChar (code : Nat) : Char :=
  if code.isValidChar then Char.ofNat code else replacement

/-- The text as it is shown. -/
def shown (halves : Halves) : String :=
  String.ofList (halves.codes.map shownChar)

end Halves

/-- A text of a document: whole characters, or codes with halves of characters among them. -/
inductive Script where
  | whole (text : String)
  | halved (halves : Halves)
deriving DecidableEq, Repr

namespace Script

instance : Coe String Script :=
  ⟨whole⟩

instance : Inhabited Script :=
  ⟨whole ""⟩

/-- The text as it is shown, with a character in place of every half. -/
def shown : Script → String
  | whole text => text
  | halved halves => halves.shown

@[simp]
theorem shown_whole (text : String) : (whole text).shown = text :=
  rfl

/-- Some character of the text is half a character only. -/
def isHalved : Script → Bool
  | whole _ => false
  | halved _ => true

@[simp]
theorem isHalved_whole (text : String) : (whole text).isHalved = false :=
  rfl

def isEmpty (script : Script) : Bool :=
  script = whole ""

@[simp]
theorem isEmpty_iff {script : Script} : script.isEmpty = true ↔ script = whole "" :=
  decide_eq_true_iff

@[simp]
theorem isEmpty_eq_false_iff {script : Script} : script.isEmpty = false ↔ script ≠ whole "" :=
  decide_eq_false_iff_not

/-- The codes of the text. -/
def codes : Script → List Nat
  | whole text => text.toList.map Char.toNat
  | halved halves => halves.codes

/-- Texts are ordered by their codes. -/
instance : LT Script :=
  ⟨fun first second => first.codes < second.codes⟩

instance (first second : Script) : Decidable (first < second) :=
  inferInstanceAs (Decidable (first.codes < second.codes))

/-- One text behind another. -/
def append : Script → Script → Script
  | whole text, whole other => whole (text ++ other)
  | whole text, halved halves =>
      halved ⟨(whole text).codes ++ halves.codes, by rw [List.any_append, halves.half, Bool.or_true]⟩
  | halved halves, second =>
      halved ⟨halves.codes ++ second.codes, by rw [List.any_append, halves.half, Bool.true_or]⟩

instance : Append Script :=
  ⟨append⟩

theorem isHalved_append (first second : Script) :
    (first ++ second).isHalved = (first.isHalved || second.isHalved) := by
  cases first <;> cases second <;> rfl

theorem toNat_shownChar {code : Nat} (valid : code.isValidChar) :
    (Halves.shownChar code).toNat = code := by
  rw [Halves.shownChar, if_pos valid, Char.ofNat, dif_pos valid]
  rfl

theorem shownChar_toNat (c : Char) : Halves.shownChar c.toNat = c := by
  have valid : c.toNat.isValidChar := c.valid
  rw [Halves.shownChar, if_pos valid, Char.ofNat_toNat]

/-- A text is shown code by code. -/
theorem toList_shown (script : Script) : script.shown.toList = script.codes.map Halves.shownChar := by
  cases script with
  | whole text => simp [shown, codes, Function.comp_def, shownChar_toNat]
  | halved halves => exact String.toList_ofList

/-- Only the empty text has no codes. -/
theorem codes_eq_nil {script : Script} : script.codes = [] ↔ script = whole "" := by
  cases script with
  | whole text => simp [codes]
  | halved halves =>
      refine iff_of_false (fun empty => ?_) nofun
      have half := halves.half
      rw [show halves.codes = [] from empty] at half
      cases half

theorem toList_shown_eq_nil {script : Script} : script.shown.toList = [] ↔ script = whole "" := by
  rw [toList_shown, List.map_eq_nil_iff, codes_eq_nil]

theorem codes_append (first second : Script) :
    (first ++ second).codes = first.codes ++ second.codes := by
  cases first with
  | whole text =>
      cases second with
      | whole other =>
          change (text ++ other).toList.map Char.toNat = _
          rw [String.toList_append, List.map_append]
          rfl
      | halved halves => rfl
  | halved halves => rfl

theorem toList_shown_append (first second : Script) :
    (first ++ second).shown.toList = first.shown.toList ++ second.shown.toList := by
  rw [toList_shown, toList_shown, toList_shown, codes_append, List.map_append]

/-- The codes of whole characters are not those of a text with halves. -/
theorem codes_whole_ne (text : String) (halves : Halves) : (whole text).codes ≠ halves.codes := by
  intro same
  have none : (whole text).codes.any isHalf = false := by simp [codes, isHalf_toNat]
  rw [same, halves.half] at none
  cases none

/-- Texts are the same when their codes are. -/
theorem codes_inj {first second : Script} : first.codes = second.codes ↔ first = second := by
  refine ⟨fun same => ?_, congrArg codes⟩
  cases first with
  | whole text =>
      cases second with
      | whole other =>
          have chars : text.toList = other.toList :=
            (List.map_inj_right fun _ _ => Char.toNat_inj.1).1 same
          exact congrArg whole (String.toList_inj.1 chars)
      | halved halves => exact absurd same (codes_whole_ne text halves)
  | halved halves =>
      cases second with
      | whole other => exact absurd same.symm (codes_whole_ne other halves)
      | halved others =>
          cases halves
          cases others
          exact congrArg halved (by simpa [codes] using same)

theorem append_right_inj (front : Script) {first second : Script} :
    front ++ first = front ++ second ↔ first = second := by
  rw [← codes_inj, codes_append, codes_append, List.append_cancel_left_eq, codes_inj]

theorem lt_irrefl (script : Script) : ¬script < script :=
  List.lt_irrefl script.codes

theorem lt_trans {first second third : Script} (low : first < second) (high : second < third) :
    first < third :=
  List.lt_trans low high

/-- Of two texts one comes first, or they are the same. -/
theorem lt_of_not_lt {first second : Script} (different : first ≠ second)
    (large : ¬first < second) : second < first := by
  refine Classical.byContradiction fun small => different (codes_inj.1 ?_)
  exact List.le_antisymm (List.not_lt.1 small) (List.not_lt.1 large)

end Script

end Canopen
