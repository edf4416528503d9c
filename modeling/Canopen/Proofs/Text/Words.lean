import Canopen.Proofs.Text.Trim

/-!
# Words and the blanks around them

However many blanks, of whatever kind, stand in front of words, between them and behind them, the
words of the text are these words.
-/

namespace Canopen.Text

variable {separates : Char → Bool} {text word : List Char}

/-! ## Separators at the ends -/

theorem wordsBy_append_left (gap text : List Char) (blank : ∀ c ∈ gap, separates c = true) :
    wordsBy separates (gap ++ text) = wordsBy separates text := by
  induction gap with
  | nil => rfl
  | cons c rest ih =>
      have first := blank c List.mem_cons_self
      rw [← ih fun other inside => blank other (List.mem_cons_of_mem _ inside), List.cons_append,
        wordsBy, pieces, if_pos first]
      rfl

/-- A separator at the end has an empty piece behind it. -/
theorem pieces_concat {c : Char} (separator : separates c = true) (text : List Char) :
    pieces separates (text ++ [c]) = pieces separates text ++ [[]] := by
  induction text with
  | nil => simp [pieces, separator]
  | cons first rest ih =>
      rw [List.cons_append, pieces, pieces, ih]
      split
      · rfl
      · cases cut : pieces separates rest with
        | nil => exact absurd cut (pieces_ne_nil separates rest)
        | cons piece later => rfl

theorem wordsBy_append_right (text gap : List Char) (blank : ∀ c ∈ gap, separates c = true) :
    wordsBy separates (text ++ gap) = wordsBy separates text := by
  induction gap generalizing text with
  | nil => rw [List.append_nil]
  | cons c rest ih =>
      have first := blank c List.mem_cons_self
      have shorter := ih (text ++ [c]) fun other inside => blank other (List.mem_cons_of_mem _ inside)
      rw [List.append_assoc, List.singleton_append] at shorter
      rw [shorter, wordsBy, pieces_concat first, List.filter_append]
      exact List.append_nil _

/-- Trimming takes no word away. -/
theorem words_trimChars (text : List Char) : words (trimChars text) = words text := by
  obtain ⟨front, behind, same, blank, blank'⟩ := exists_trimBy isBlank text
  have whole : words text = words (front ++ (trimChars text ++ behind)) := congrArg words same
  rw [whole, words, words, wordsBy_append_left _ _ blank, wordsBy_append_right _ _ blank']

/-! ## Words with blanks around them -/

/-- The words stand in the text, one behind the other, with blanks around them. -/
inductive Spread : List (List Char) → List Char → Prop where
  | blank {gap : List Char} (blank : ∀ c ∈ gap, isBlank c = true) : Spread [] gap
  | word {gap word text : List Char} {words : List (List Char)}
      (blank : ∀ c ∈ gap, isBlank c = true) (filled : word ≠ [])
      (solid : ∀ c ∈ word, isBlank c = false)
      (parted : ∀ c, text.head? = some c → isBlank c = true) (later : Spread words text) :
      Spread (word :: words) (gap ++ (word ++ text))

/-- A word ends at the separator behind it. -/
theorem wordsBy_append (filled : word ≠ []) (solid : ∀ c ∈ word, separates c = false)
    (parted : ∀ c, text.head? = some c → separates c = true) :
    wordsBy separates (word ++ text) = word :: wordsBy separates text := by
  obtain ⟨later, cut⟩ : ∃ later, pieces separates text = [] :: later := by
    cases text with
    | nil => exact ⟨[], rfl⟩
    | cons c rest => exact ⟨pieces separates rest, by rw [pieces, if_pos (parted c rfl)]⟩
  have whole := pieces_append solid cut
  rw [List.append_nil] at whole
  rw [wordsBy, whole, wordsBy, cut, List.filter_cons_of_pos (by simpa using filled)]
  rfl

variable {list : List (List Char)}

/-- The words of a text are the ones that stand in it. -/
theorem Spread.words_eq (spread : Spread list text) : words text = list := by
  induction spread with
  | blank blank =>
      have none := wordsBy_append_left _ [] blank
      rw [List.append_nil] at none
      exact none
  | word blank filled solid parted _ ih =>
      rw [words, wordsBy_append_left _ _ blank, wordsBy_append filled solid parted]
      exact congrArg _ ih

/-- A text with words is not blank. -/
theorem Spread.trimChars_ne_nil (spread : Spread list text) (some : list ≠ []) :
    trimChars text ≠ [] := by
  intro empty
  have none := Spread.blank (trimBy_eq_nil_iff.1 empty)
  exact some (spread.words_eq.symm.trans none.words_eq)

end Canopen.Text
