/-!
# Blank characters

Trimming, cutting and splitting into words.  All three lose nothing but the blanks or the
separators themselves.
-/

namespace Canopen.Text

/-- White space of any script, the four information separators included. -/
def isBlank (c : Char) : Bool :=
  let code := c.toNat
  (9 ≤ code && code ≤ 13) || (28 ≤ code && code ≤ 32) || code == 0x85 || code == 0xA0 ||
    code == 0x1680 || (0x2000 ≤ code && code ≤ 0x200A) || code == 0x2028 || code == 0x2029 ||
    code == 0x202F || code == 0x205F || code == 0x3000

theorem isBlank_of_isWhitespace {c : Char} (white : c.isWhitespace = true) : isBlank c = true := by
  simp only [Char.isWhitespace, Bool.or_eq_true, decide_eq_true_eq] at white
  rcases white with ((rfl | rfl) | rfl) | rfl <;> decide

/-- White space that may surround a number: the information separators may not. -/
def isNumberBlank (c : Char) : Bool :=
  isBlank c && !(28 ≤ c.toNat && c.toNat ≤ 31)

/-- Characters of a kind dropped at both ends. -/
def trimBy (kind : Char → Bool) (text : List Char) : List Char :=
  ((text.dropWhile kind).reverse.dropWhile kind).reverse

/-- Blanks dropped at both ends. -/
def trimChars (text : List Char) : List Char :=
  trimBy isBlank text

/-- Blanks dropped at both ends. -/
def trim (text : String) : String :=
  String.ofList (trimChars text.toList)

/-- Cut at every separator; between two separators that touch lies an empty piece. -/
def pieces (separates : Char → Bool) : List Char → List (List Char)
  | [] => [[]]
  | c :: rest =>
      if separates c then [] :: pieces separates rest
      else
        match pieces separates rest with
        | [] => [[c]]
        | piece :: later => (c :: piece) :: later

theorem pieces_ne_nil (separates : Char → Bool) (text : List Char) :
    pieces separates text ≠ [] := by
  cases text with
  | nil => simp [pieces]
  | cons c rest =>
      unfold pieces
      split
      · simp
      · split <;> simp

/-- Characters that do not separate belong to the piece behind them. -/
theorem pieces_append {separates : Char → Bool} {word text piece : List Char}
    {later : List (List Char)} (plain : ∀ c ∈ word, separates c = false)
    (cut : pieces separates text = piece :: later) :
    pieces separates (word ++ text) = (word ++ piece) :: later := by
  induction word with
  | nil => exact cut
  | cons c rest ih =>
      have inner := ih fun other member => plain other (List.mem_cons_of_mem _ member)
      rw [List.cons_append, pieces, plain c List.mem_cons_self, inner]
      rfl

/-- The pieces hold every character but the separators, in order. -/
theorem flatten_pieces (separates : Char → Bool) (text : List Char) :
    (pieces separates text).flatten = text.filter (!separates ·) := by
  induction text with
  | nil => simp [pieces]
  | cons c rest ih =>
      unfold pieces
      cases hc : separates c with
      | true => simpa [hc] using ih
      | false =>
          cases hp : pieces separates rest with
          | nil => exact absurd hp (pieces_ne_nil separates rest)
          | cons piece later =>
              rw [hp] at ih
              simpa [hc] using ih

/-- The non-empty pieces between separators. -/
def wordsBy (separates : Char → Bool) (text : List Char) : List (List Char) :=
  (pieces separates text).filter fun piece => !piece.isEmpty

theorem flatten_wordsBy (separates : Char → Bool) (text : List Char) :
    (wordsBy separates text).flatten = text.filter (!separates ·) := by
  rw [← flatten_pieces, wordsBy]
  induction pieces separates text with
  | nil => rfl
  | cons piece later ih => cases piece <;> simp_all

/-- The words between blanks. -/
def words (text : List Char) : List (List Char) :=
  wordsBy isBlank text

end Canopen.Text
