import Canopen.Proofs.Identifier
import Canopen.Source.Block
import Canopen.Warning

/-!
# Words in a line

A reader follows a reference by its words: the name that a declaration gives behind its type, and the
name behind an address.
-/

namespace Canopen.Source

open CName (IsWord)

/-! ## Words -/

/-- The word at the start of a text. -/
def wordOf (text : List Char) : String :=
  String.ofList (text.takeWhile CName.isWordChar)

/-- The word behind a text. -/
def wordBehind? (front text : String) : Option String :=
  (Warning.after? front.toList text.toList).map wordOf

/-- No word goes on with this text. -/
def EndsWord (text : List Char) : Prop :=
  ∀ c, text.head? = some c → CName.isWordChar c = false

theorem endsWord_nil : EndsWord [] :=
  fun _ none => nomatch none

theorem endsWord_cons {c : Char} (other : CName.isWordChar c = false) (rest : List Char) :
    EndsWord (c :: rest) := by
  rintro _ ⟨⟩
  exact other

theorem wordOf_append {word : String} {rest : List Char} (plain : IsWord word)
    (ends : EndsWord rest) : wordOf (word.toList ++ rest) = word := by
  have none : rest.takeWhile CName.isWordChar = [] := by
    cases rest with
    | nil => rfl
    | cons c later => exact List.takeWhile_cons_of_neg (by simp [ends c rfl])
  rw [wordOf, List.takeWhile_append_of_pos plain, none, List.append_nil, String.ofList_toList]

theorem wordBehind?_of_eq {front word rest text : String} (plain : IsWord word)
    (ends : EndsWord rest.toList) (spelled : text = front ++ word ++ rest) :
    wordBehind? front text = some word := by
  have behind : Warning.after? front.toList text.toList = some (word.toList ++ rest.toList) := by
    rw [Warning.after?_eq_some_iff, spelled, String.toList_append, String.toList_append,
      List.append_assoc]
  rw [wordBehind?, behind, Option.map_some, wordOf_append plain ends]

theorem wordBehind?_other {front text : String} {c d : Char} {frontRest textRest : List Char}
    (begins : front.toList = c :: frontRest) (starts : text.toList = d :: textRest)
    (other : c ≠ d) : wordBehind? front text = none := by
  have none : Warning.after? front.toList text.toList = none := by
    refine Option.eq_none_iff_forall_ne_some.2 fun rest found => other ?_
    have same := Warning.after?_eq_some_iff.1 found
    rw [begins, starts] at same
    exact (List.cons.inj same).1.symm
  rw [wordBehind?, none, Option.map_none]

/-! ## Declarations -/

/-- The name that a line declares: the word behind the type. -/
def declared? (line : String) : Option String :=
  match (line.toList.dropWhile (· = ' ')).dropWhile (· ≠ ' ') with
  | [] => none
  | _ :: text => some (wordOf text)

theorem dropWhile_indent (level : Nat) {c : Char} (other : c ≠ ' ') (text : List Char) :
    ((indent level).toList ++ c :: text).dropWhile (· = ' ') = c :: text := by
  have blanks : ∀ blank ∈ (indent level).toList, decide (blank = ' ') = true := by
    intro blank inside
    rw [indent, String.toList_ofList] at inside
    exact decide_eq_true (List.eq_of_mem_replicate inside)
  rw [List.dropWhile_append_of_pos blanks, List.dropWhile_cons_of_neg (by simp [other])]

theorem declared?_line (level : Nat) (type : String) {name rest line : String}
    (typed : IsWord type) (some : type ≠ "") (named : IsWord name) (ends : EndsWord rest.toList)
    (spelled : line = indent level ++ type ++ " " ++ name ++ rest) :
    declared? line = .some name := by
  obtain ⟨c, word, chars⟩ : ∃ c word, type.toList = c :: word := by
    cases chars : type.toList with
    | nil => exact absurd (String.toList_eq_nil_iff.1 chars) some
    | cons c word => exact ⟨c, word, rfl⟩
  have other : c ≠ ' ' := by
    rintro rfl
    exact typed.not_mem (by decide) (chars ▸ List.mem_cons_self)
  have plain : ∀ d ∈ type.toList, decide (d ≠ ' ') = true := by
    intro d inside
    refine decide_eq_true ?_
    rintro rfl
    exact typed.not_mem (by decide) inside
  have text : line.toList =
      (indent level).toList ++ c :: (word ++ ' ' :: (name.toList ++ rest.toList)) := by
    simp [spelled, String.toList_append, chars]
  have behind : (c :: (word ++ ' ' :: (name.toList ++ rest.toList))).dropWhile (· ≠ ' ') =
      ' ' :: (name.toList ++ rest.toList) := by
    rw [← List.cons_append, ← chars, List.dropWhile_append_of_pos plain,
      List.dropWhile_cons_of_neg (by simp)]
  rw [declared?, text, dropWhile_indent level other, behind]
  exact congrArg Option.some (wordOf_append named ends)

end Canopen.Source
