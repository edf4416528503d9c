import Canopen.Proofs.Json.Numerals
import Canopen.Yaml.Scanner

/-!
# Scalars on one line

Between brackets, a word of JSON is a plain scalar up to the mark behind it, and a string of JSON is
a quoted scalar up to its closing quote.  Both are read with all their characters, blanks included.
-/

namespace Canopen.Yaml

open Json (Piece Pieces HexDigit Word wordChars)

/-! ## Places on a line -/

/-- A character that ends no line is followed by the next column, unless it has none. -/
theorem exists_placesFrom_cons {c : Char} (inline : isBreak c = false) (index line column : Nat)
    (rest : List Char) :
    ∃ next, column ≤ next ∧ placesFrom index line column (c :: rest) =
      ⟨c, index, line, column⟩ :: placesFrom (index + 1) line next rest := by
  rw [placesFrom, inline, Bool.false_and, if_neg Bool.false_ne_true]
  split
  · exact ⟨column, Nat.le_refl _, rfl⟩
  · exact ⟨column + 1, Nat.le_succ _, rfl⟩

theorem exists_placesFrom_append (front : List Char) (inline : ∀ c ∈ front, isBreak c = false)
    (index line column : Nat) (rest : List Char) :
    ∃ places next, column ≤ next ∧ places.map Place.char = front ∧
      placesFrom index line column (front ++ rest) =
        places ++ placesFrom (index + front.length) line next rest := by
  induction front generalizing index column with
  | nil => exact ⟨[], column, Nat.le_refl _, rfl, rfl⟩
  | cons c later ih =>
      obtain ⟨next, further, first⟩ := exists_placesFrom_cons (inline c List.mem_cons_self) index
        line column (later ++ rest)
      obtain ⟨places, last, behind, chars, others⟩ :=
        ih (fun other inside => inline other (List.mem_cons_of_mem _ inside)) (index + 1) next
      refine ⟨⟨c, index, line, column⟩ :: places, last, Nat.le_trans further behind, ?_, ?_⟩
      · rw [List.map_cons, chars]
      · rw [List.cons_append, first, others, List.cons_append, List.length_cons, Nat.add_assoc,
          Nat.add_comm 1]

/-! ## Plain scalars -/

/-- Characters of words are no marks, blanks or line ends. -/
theorem wordChars_plain : ∀ c ∈ wordChars, c ≠ ' ' ∧ c ≠ '\r' ∧ c ≠ '\t' ∧ c ≠ ':' ∧ c ≠ endChar ∧
    isBreak c = false ∧ isFlowMark c = false :=
  forall_mem_of_all rfl

/-- A word is read up to the mark behind it. -/
theorem exists_plainFrom {word : List Char} (known : ∀ c ∈ word, c ∈ wordChars)
    {mark : Char} (ends : mark ∈ [',', ']', '\x7d']) (indent : Int) (read : List Char)
    (index line column : Nat) (rest : List Char) :
    ∃ next, column ≤ next ∧
      plainFrom true indent read .none (placesFrom index line column (word ++ mark :: rest)) =
        ⟨String.ofList (read.reverse ++ word), false,
          placesFrom (index + word.length) line next (mark :: rest)⟩ := by
  induction word generalizing read index column with
  | nil =>
      have marks : ∀ c ∈ [',', ']', '\x7d'], c ≠ ' ' ∧ c ≠ '\r' ∧ isBreak c = false ∧
          isFlowMark c = true := forall_mem_of_all rfl
      obtain ⟨blank, first, inline, flow⟩ := marks mark ends
      obtain ⟨next, further, places⟩ := exists_placesFrom_cons inline index line column rest
      refine ⟨column, Nat.le_refl _, ?_⟩
      rw [List.nil_append, places, plainFrom]
      simp [blank, first, inline, isFirstOfTwo, endsPlain, flow, Gap.isLines, places]
  | cons c later ih =>
      obtain ⟨blank, first, tab, colon, ends', inline, flow⟩ :=
        wordChars_plain c (known c List.mem_cons_self)
      obtain ⟨next, further, places⟩ := exists_placesFrom_cons inline index line column
        (later ++ mark :: rest)
      obtain ⟨last, behind, later'⟩ := ih
        (fun other inside => known other (List.mem_cons_of_mem _ inside)) (c :: read) (index + 1)
        next
      refine ⟨last, Nat.le_trans further behind, ?_⟩
      rw [List.cons_append, places, plainFrom]
      simp [blank, first, inline, isFirstOfTwo, endsPlain, flow, tab, colon, ends', Gap.isNone,
        pushGap, Gap.text, later', Nat.add_assoc, Nat.add_comm 1]

/-! ## Quoted scalars -/

/-- Blanks are kept, and other characters are read behind them. -/
theorem exists_quotedFrom_raw {c : Char} (stands : Json.standsRaw c = true)
    (inline : isBreak c = false) (text : QuotedText) {gap : Gap} (blanks : gap.isLines = false)
    (index line column : Nat) (rest : List Char) :
    ∃ text' gap' next, column ≤ next ∧ gap'.isLines = false ∧
      text'.pushGap gap' = (text.pushGap gap).push c ∧
      quotedFrom .double text (.text gap) (placesFrom index line column (c :: rest)) =
        quotedFrom .double text' (.text gap') (placesFrom (index + 1) line next rest) := by
  obtain ⟨next, further, places⟩ := exists_placesFrom_cons inline index line column rest
  simp only [Json.standsRaw, Bool.and_eq_true, decide_eq_true_eq] at stands
  obtain ⟨⟨large, quote⟩, slash⟩ := stands
  have control : ∀ other : Char, other.toNat < 0x20 → c ≠ other := by
    rintro other small rfl
    exact absurd small (Nat.not_lt.2 large)
  have none : c ≠ endChar := control endChar (by decide)
  have tab : c ≠ '\t' := control '\t' (by decide)
  have first : c ≠ '\r' := control '\r' (by decide)
  by_cases blank : c = ' '
  · refine ⟨text, gap.addBlank c, next, further, ?_, ?_, ?_⟩
    · cases gap <;> first | rfl | cases blanks
    · cases gap <;> simp_all [QuotedText.pushGap, QuotedText.push, pushGap, Gap.addBlank, Gap.text,
        Gap.isLines]
    · rw [places, quotedFrom]
      exact (if_neg none).trans (if_pos (.inl blank))
  · refine ⟨(text.pushGap gap).push c, .none, next, further, rfl, rfl, ?_⟩
    rw [places, quotedFrom]
    simp only [none, blank, tab, first, inline, isFirstOfTwo, or_self, if_false, decide_false,
      Bool.false_and, Bool.false_eq_true]
    split
    · contradiction
    · exact absurd rfl quote
    · exact absurd rfl slash
    · rfl

/-- Letters behind a backslash mean the same as in JSON. -/
theorem escaped?_of_json {letter c : Char} (stands : Json.escaped? letter = some c) :
    escaped? letter = some c ∧ letter ≠ '\r' ∧ isBreak letter = false := by
  unfold Json.escaped? at stands
  split at stands <;> cases stands <;> decide

theorem hexDigit_inline (digit : HexDigit) : isBreak digit.char = false := by
  have spelled := digit.spelled
  by_contra ends
  simp only [isBreak, Bool.or_eq_false_iff, decide_eq_false_iff_not, not_and_or, not_not] at ends
  rcases ends with (((feed | feed) | feed) | feed) | feed <;>
    · rw [feed] at spelled
      cases spelled

theorem charOfCode_of_whole {code : Nat} (small : code < 0x10000) (whole : isHalf code = false) :
    charOfCode code = .ok (Char.ofNat code) := by
  have valid : code.isValidChar := by
    simp only [isHalf, Bool.and_eq_false_iff, decide_eq_false_iff_not] at whole
    rcases whole with low | high
    · exact .inl (by omega)
    · exact .inr ⟨by omega, by omega⟩
  rw [charOfCode, if_neg (by omega), if_neg (by omega), Halves.shownChar, if_pos valid]

theorem codeOf_lt (a b c d : HexDigit) : Piece.codeOf a b c d < 0x10000 := by
  have small (digit : HexDigit) : digit.value < 16 := Literal.digit?_lt digit.spelled
  have := small a
  have := small b
  have := small c
  have := small d
  rw [Piece.codeOf]
  omega

theorem quotedFrom_backslash (text : QuotedText) (gap : Gap) {place : Place}
    (backslash : place.char = '\\') (rest : List Place) :
    quotedFrom .double text (.text gap) (place :: rest) =
      quotedFrom .double (text.pushGap gap) .escape rest := by
  rw [quotedFrom]
  simp [backslash, endChar, isFirstOfTwo, isBreak]

/-- A digit of a code is added to those before it. -/
theorem quotedFrom_digit {left code : Nat} (more : 1 < left) (text : QuotedText) {a : HexDigit}
    {place : Place} (spelled : place.char = a.char) (rest : List Place) :
    quotedFrom .double text (.code left code) (place :: rest) =
      quotedFrom .double text (.code (left - 1) (code * 16 + a.value)) rest := by
  rw [quotedFrom]
  simp only [spelled, hexDigit?, a.spelled, if_neg (Nat.not_le.2 more)]

/-- With its last digit a code is a character. -/
theorem quotedFrom_lastDigit {code : Nat} {text pushed : QuotedText} {a : HexDigit} {place : Place}
    (spelled : place.char = a.char) (push : text.pushCode (code * 16 + a.value) = .ok pushed)
    (rest : List Place) :
    quotedFrom .double text (.code 1 code) (place :: rest) =
      quotedFrom .double pushed (.text .none) rest := by
  rw [quotedFrom]
  simp only [spelled, hexDigit?, a.spelled, push, if_pos (Nat.le_refl 1)]

/-- A code of four digits is read as its character. -/
theorem quotedFrom_codeOf {a b c d : HexDigit} (whole : isHalf (Piece.codeOf a b c d) = false)
    (text : QuotedText) {p q r s : Place} (first : p.char = a.char) (second : q.char = b.char)
    (third : r.char = c.char) (fourth : s.char = d.char) (rest : List Place) :
    quotedFrom .double text (.code 4 0) (p :: q :: r :: s :: rest) =
      quotedFrom .double (text.push (Char.ofNat (Piece.codeOf a b c d))) (.text .none) rest := by
  have pushed : text.pushCode (Piece.codeOf a b c d) =
      .ok (text.push (Char.ofNat (Piece.codeOf a b c d))) := by
    rw [QuotedText.pushCode, charOfCode_of_whole (codeOf_lt a b c d) whole, whole]
    rfl
  rw [quotedFrom_digit (by decide) text first, quotedFrom_digit (by decide) text second,
    quotedFrom_digit (by decide) text third]
  refine quotedFrom_lastDigit fourth ?_ rest
  rw [Nat.zero_mul, Nat.zero_add]
  exact pushed

/-- A piece of a string is read as its character. -/
theorem exists_quotedFrom_piece {piece : Piece} (portable : piece.Portable) (text : QuotedText)
    {gap : Gap} (blanks : gap.isLines = false) (index line column : Nat) (rest : List Char) :
    ∃ text' gap' next, column ≤ next ∧ gap'.isLines = false ∧
      text'.pushGap gap' = (text.pushGap gap).push piece.char ∧
      quotedFrom .double text (.text gap) (placesFrom index line column (piece.text ++ rest)) =
        quotedFrom .double text' (.text gap')
          (placesFrom (index + piece.text.length) line next rest) := by
  cases piece with
  | raw c stands => exact exists_quotedFrom_raw stands portable.2 text blanks index line column rest
  | escape letter c stands =>
      obtain ⟨known, first, inline⟩ := escaped?_of_json stands
      obtain ⟨places, next, further, chars, split⟩ :=
        exists_placesFrom_append ['\\', letter] (by simpa [isBreak] using inline) index line
          column rest
      simp only [List.map_eq_cons_iff, List.map_eq_nil_iff] at chars
      obtain ⟨p, _, rfl, backslash, q, _, rfl, rfl, rfl⟩ := chars
      refine ⟨(text.pushGap gap).push c, .none, next, further, rfl, rfl, ?_⟩
      rw [Piece.text, split, List.cons_append, List.cons_append, List.nil_append,
        quotedFrom_backslash _ _ backslash, quotedFrom]
      simp [isFirstOfTwo, first, inline, known]
  | code a b c d =>
      obtain ⟨places, next, further, chars, split⟩ :=
        exists_placesFrom_append ['\\', 'u', a.char, b.char, c.char, d.char]
          (by simpa [hexDigit_inline] using by decide) index line column rest
      simp only [List.map_eq_cons_iff, List.map_eq_nil_iff] at chars
      obtain ⟨p, _, rfl, backslash, q, _, rfl, mark, r, _, rfl, first, s, _, rfl, second, t, _, rfl,
        third, u, _, rfl, fourth, rfl⟩ := chars
      refine ⟨(text.pushGap gap).push (Char.ofNat (Piece.codeOf a b c d)), .none, next, further,
        rfl, rfl, ?_⟩
      have coded := quotedFrom_codeOf portable (text.pushGap gap) first second third fourth
        (placesFrom (index + 6) line next rest)
      rw [Piece.text, split]
      simp only [List.cons_append, List.nil_append]
      rw [quotedFrom_backslash _ _ backslash, quotedFrom]
      simp only [mark]
      exact coded

/-- The pieces up to the closing quote are read, one after the other. -/
theorem exists_quotedFrom_pieces {pieces : Pieces} (portable : pieces.Portable) (text : QuotedText)
    (gap : Gap) (blanks : gap.isLines = false) (index line column : Nat) (rest : List Char) :
    ∃ next, column ≤ next ∧
      quotedFrom .double text (.text gap)
          (placesFrom index line column (pieces.flatMap Piece.text ++ '"' :: rest)) =
        .ok (((pieces.map Piece.char).foldl QuotedText.push (text.pushGap gap)).token,
          placesFrom (index + (pieces.flatMap Piece.text).length + 1) line next rest) := by
  induction pieces generalizing text gap index column with
  | nil =>
      obtain ⟨next, further, places⟩ := exists_placesFrom_cons (c := '"') rfl index line column rest
      refine ⟨next, further, ?_⟩
      rw [List.flatMap_nil, List.nil_append, places, quotedFrom]
      rfl
  | cons piece later ih =>
      obtain ⟨text', gap', middle, front, blanks', pushed, first⟩ :=
        exists_quotedFrom_piece (portable piece List.mem_cons_self) text blanks index line column
          (later.flatMap Piece.text ++ '"' :: rest)
      obtain ⟨next, behind, others⟩ := ih
        (fun other inside => portable other (List.mem_cons_of_mem _ inside)) text' gap' blanks'
        (index + piece.text.length) middle
      refine ⟨next, Nat.le_trans front behind, ?_⟩
      rw [List.flatMap_cons, List.append_assoc, first, others, pushed, List.map_cons,
        List.foldl_cons, List.length_append, Nat.add_assoc index]

/-- Whole characters make a plain quoted scalar. -/
theorem style_of_whole {text : QuotedText} (whole : text.halves = []) : text.style = .quoted := by
  have codes : ¬ text.codes.any isHalf = true := by
    rw [QuotedText.codes, whole, List.any_eq_true]
    rintro ⟨code, inside, half⟩
    obtain ⟨position, bound, rfl⟩ := List.mem_mapIdx.1 inside
    rw [List.lookup_nil, Option.getD_none, isHalf_toNat] at half
    cases half
  rw [QuotedText.style, dif_neg codes]

theorem token_foldl_push {text : QuotedText} (whole : text.halves = []) (chars : List Char) :
    (chars.foldl QuotedText.push text).token =
      .scalar .quoted (String.ofList (text.read.reverse ++ chars)) := by
  induction chars generalizing text with
  | nil => rw [List.foldl_nil, QuotedText.token, style_of_whole whole, List.append_nil]
  | cons c rest ih =>
      have whole' : (text.push c).halves = [] := whole
      rw [List.foldl_cons, ih whole', QuotedText.push, List.reverse_cons, List.append_assoc]
      rfl

/-- A string of JSON is a quoted scalar with the same text. -/
theorem exists_quotedScalar {pieces : Pieces} (portable : pieces.Portable)
    (index line column : Nat) (rest : List Char) :
    ∃ next, column ≤ next ∧
      quotedScalar .double (placesFrom index line column (pieces.quoted ++ rest)) =
        .ok (.scalar .quoted pieces.string,
          placesFrom (index + pieces.quoted.length) line next rest) := by
  obtain ⟨middle, front, places⟩ := exists_placesFrom_cons (c := '"') rfl index line column
    (pieces.flatMap Piece.text ++ '"' :: rest)
  obtain ⟨next, behind, inner⟩ := exists_quotedFrom_pieces portable {} .none rfl (index + 1)
    line middle rest
  refine ⟨next, Nat.le_trans front behind, ?_⟩
  have quoted : pieces.quoted ++ rest = '"' :: (pieces.flatMap Piece.text ++ '"' :: rest) := by
    simp [Pieces.quoted]
  have length : pieces.quoted.length = 1 + (pieces.flatMap Piece.text).length + 1 := by
    simp [Pieces.quoted]
    omega
  rw [quoted, places, quotedScalar, List.drop_succ_cons, List.drop_zero, inner,
    token_foldl_push rfl, length, ← Nat.add_assoc, ← Nat.add_assoc]
  rfl

end Canopen.Yaml
