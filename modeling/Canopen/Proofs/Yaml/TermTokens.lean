import Canopen.Proofs.Yaml.FlowTokens

/-!
# Tokens of a JSON text

A JSON text on one line, portable as it is, has the tokens that its parts have, one part after the
other, and all of its characters may stand in a text.
-/

namespace Canopen

namespace Json.Term

open Yaml (Token)

mutual

/-- The tokens of a value. -/
def tokens : Term → List Token
  | .word scalar => [.scalar .plain (String.ofList scalar.text)]
  | .string pieces => [.scalar .quoted pieces.string]
  | .list [] => [.flowSequenceStart, .flowSequenceEnd]
  | .list (item :: rest) => .flowSequenceStart :: (item.tokens ++ tokensBehindItem rest)
  | .map [] => [.flowMappingStart, .flowMappingEnd]
  | .map ((key, value) :: rest) =>
      .flowMappingStart :: .key :: .scalar .quoted key.string :: .value ::
        (value.tokens ++ tokensBehindField rest)

/-- The tokens behind an item in front of the given ones. -/
def tokensBehindItem : List Term → List Token
  | [] => [.flowSequenceEnd]
  | item :: rest => .flowEntry :: (item.tokens ++ tokensBehindItem rest)

/-- The tokens behind a field in front of the given ones. -/
def tokensBehindField : List (Pieces × Term) → List Token
  | [] => [.flowMappingEnd]
  | (key, value) :: rest =>
      .flowEntry :: .key :: .scalar .quoted key.string :: .value ::
        (value.tokens ++ tokensBehindField rest)

end

end Json.Term

namespace Yaml.Scanner

open Json (HexDigit Piece Pieces Term Word wordChars)
open Json.Term (textBehindItem textBehindField tokensBehindItem tokensBehindField)

/-- What follows a value between brackets. -/
def Follows (rest : List Char) : Prop :=
  ∃ mark later, rest = mark :: later ∧ mark ∈ [',', ']', '\x7d']

/-- A value is read up to what follows it. -/
def Spans (term : Term) : Prop :=
  ∀ (tokens : List Token) (depth : Nat) (gap rest : List Char) (keyAllowed : Bool), IsGap gap →
    Follows rest →
      Reaches ⟨tokens, gap ++ (term.text ++ rest), keyAllowed, depth + 1⟩
        ⟨tokens ++ term.tokens, rest, false, depth + 1⟩

theorem follows_item (items : List Term) (rest : List Char) :
    Follows (textBehindItem items ++ rest) := by
  cases items with
  | nil => exact ⟨']', rest, by rw [textBehindItem]; rfl, by decide⟩
  | cons item later => exact ⟨',', _, by rw [textBehindItem]; rfl, by decide⟩

theorem follows_field (fields : List (Pieces × Term)) (rest : List Char) :
    Follows (textBehindField fields ++ rest) := by
  cases fields with
  | nil => exact ⟨'\x7d', rest, by rw [textBehindField]; rfl, by decide⟩
  | cons field later => exact ⟨',', _, by rw [textBehindField]; rfl, by decide⟩

variable {tokens : List Token} {depth : Nat} {gap rest : List Char} {keyAllowed : Bool}

/-- The items behind an item lead out of the list. -/
theorem reaches_behindItem {items : List Term} (each : ∀ item ∈ items, Spans item) :
    Reaches ⟨tokens, textBehindItem items ++ rest, keyAllowed, depth + 1⟩
      ⟨tokens ++ tokensBehindItem items, rest, false, depth⟩ := by
  induction items generalizing tokens keyAllowed with
  | nil =>
      rw [textBehindItem, tokensBehindItem]
      exact reaches_close ']' .flowSequenceEnd (by decide)
  | cons item later ih =>
      have comma := reaches_comma tokens (depth + 1)
        (' ' :: (item.text ++ (textBehindItem later ++ rest))) keyAllowed
      have value := each item List.mem_cons_self (tokens ++ [.flowEntry]) depth [' ']
        (textBehindItem later ++ rest) true (.inr rfl) (follows_item later rest)
      have way := (comma.trans value).trans
        (ih fun other inside => each other (List.mem_cons_of_mem _ inside))
      rw [textBehindItem, tokensBehindItem]
      simpa only [List.append_assoc, List.cons_append, List.nil_append] using way

/-- A list is read, inside of brackets or outside of all. -/
theorem reaches_list {items : List Term} (each : ∀ item ∈ items, Spans item) (short : IsGap gap) :
    Reaches ⟨tokens, gap ++ ((Term.list items).text ++ rest), keyAllowed, depth⟩
      ⟨tokens ++ (Term.list items).tokens, rest, false, depth⟩ := by
  have opens (behind : List Char) : Reaches ⟨tokens, gap ++ '[' :: behind, keyAllowed, depth⟩
      ⟨tokens ++ [.flowSequenceStart], behind, true, depth + 1⟩ :=
    reaches_open short '[' .flowSequenceStart (by decide)
  cases items with
  | nil =>
      have way := (opens (']' :: rest)).trans (reaches_close ']' .flowSequenceEnd (by decide))
      rw [Term.text, Term.tokens]
      simpa only [List.append_assoc, List.cons_append, List.nil_append] using way
  | cons item later =>
      have value := each item List.mem_cons_self (tokens ++ [.flowSequenceStart]) depth []
        (textBehindItem later ++ rest) true (.inl rfl) (follows_item later rest)
      have way := ((opens _).trans value).trans
        (reaches_behindItem fun other inside => each other (List.mem_cons_of_mem _ inside))
      rw [Term.text, Term.tokens]
      simpa only [List.append_assoc, List.cons_append, List.nil_append] using way

/-- Keys that may be read. -/
def HasKeys (fields : List (Pieces × Term)) : Prop :=
  ∀ field ∈ fields, field.1.Portable ∧ field.1.quoted.length ≤ Term.longestKey

/-- A field leads to what follows it. -/
theorem reaches_field (tokens : List Token) (depth : Nat) {key : Pieces} {value : Term}
    (portable : key.Portable) (near : key.quoted.length ≤ Term.longestKey) (spans : Spans value)
    (short : IsGap gap) (follows : Follows rest) :
    Reaches ⟨tokens, gap ++ (key.quoted ++ ':' :: ' ' :: (value.text ++ rest)), true, depth + 1⟩
      ⟨tokens ++ .key :: .scalar .quoted key.string :: .value :: value.tokens, rest, false,
        depth + 1⟩ := by
  have way := (reaches_key tokens depth short portable near).trans
    (spans (tokens ++ [.key, .scalar .quoted key.string, .value]) depth [' '] rest false (.inr rfl)
      follows)
  simpa only [List.append_assoc, List.cons_append, List.nil_append] using way

/-- The fields behind a field lead out of the mapping. -/
theorem reaches_behindField {fields : List (Pieces × Term)} (keys : HasKeys fields)
    (each : ∀ field ∈ fields, Spans field.2) :
    Reaches ⟨tokens, textBehindField fields ++ rest, keyAllowed, depth + 1⟩
      ⟨tokens ++ tokensBehindField fields, rest, false, depth⟩ := by
  induction fields generalizing tokens keyAllowed with
  | nil =>
      rw [textBehindField, tokensBehindField]
      exact reaches_close '\x7d' .flowMappingEnd (by decide)
  | cons field later ih =>
      obtain ⟨key, value⟩ := field
      obtain ⟨portable, near⟩ := keys (key, value) List.mem_cons_self
      have comma := reaches_comma tokens (depth + 1) (' ' :: (key.quoted ++ ':' :: ' ' ::
        (value.text ++ (textBehindField later ++ rest)))) keyAllowed
      have field := reaches_field (tokens ++ [.flowEntry]) depth portable near
        (each (key, value) List.mem_cons_self) (.inr rfl) (follows_field later rest)
      have way := (comma.trans field).trans
        (ih (fun other inside => keys other (List.mem_cons_of_mem _ inside))
          fun other inside => each other (List.mem_cons_of_mem _ inside))
      rw [textBehindField, tokensBehindField]
      simpa only [List.append_assoc, List.cons_append, List.nil_append] using way

theorem reaches_map {fields : List (Pieces × Term)} (keys : HasKeys fields)
    (each : ∀ field ∈ fields, Spans field.2) (short : IsGap gap) :
    Reaches ⟨tokens, gap ++ ((Term.map fields).text ++ rest), keyAllowed, depth⟩
      ⟨tokens ++ (Term.map fields).tokens, rest, false, depth⟩ := by
  have opens (behind : List Char) : Reaches ⟨tokens, gap ++ '\x7b' :: behind, keyAllowed, depth⟩
      ⟨tokens ++ [.flowMappingStart], behind, true, depth + 1⟩ :=
    reaches_open short '\x7b' .flowMappingStart (by decide)
  cases fields with
  | nil =>
      have way := (opens ('\x7d' :: rest)).trans
        (reaches_close '\x7d' .flowMappingEnd (by decide))
      rw [Term.text, Term.tokens]
      simpa only [List.append_assoc, List.cons_append, List.nil_append] using way
  | cons field later =>
      obtain ⟨key, value⟩ := field
      obtain ⟨portable, near⟩ := keys (key, value) List.mem_cons_self
      have field := reaches_field (tokens ++ [.flowMappingStart]) depth portable near
        (each (key, value) List.mem_cons_self) (.inl rfl) (follows_field later rest)
      have way := ((opens _).trans field).trans
        (reaches_behindField (fun other inside => keys other (List.mem_cons_of_mem _ inside))
          fun other inside => each other (List.mem_cons_of_mem _ inside))
      rw [Term.text, Term.tokens]
      simpa only [List.append_assoc, List.cons_append, List.nil_append] using way

/-- Every portable value is read up to what follows it. -/
theorem spans_of_portable {levels : Nat} {term : Term} (portable : term.Portable levels) :
    Spans term := by
  induction portable with
  | word portable =>
      intro tokens depth gap rest keyAllowed short follows
      obtain ⟨mark, later, rfl, known⟩ := follows
      rw [Term.text, Term.tokens]
      exact reaches_word short _ known
  | string portable =>
      intro tokens depth gap rest keyAllowed short follows
      rw [Term.text, Term.tokens]
      exact reaches_string short portable
  | list portable each =>
      intro tokens depth gap rest keyAllowed short follows
      exact reaches_list each short
  | map keys portable each =>
      intro tokens depth gap rest keyAllowed short follows
      exact reaches_map keys each short

/-! ## Characters -/

theorem isAllowed_hexDigit (digit : HexDigit) : isAllowed digit.char = true := by
  have ascii : 48 ≤ digit.char.toNat ∧ digit.char.toNat ≤ 122 := by
    have spelled := digit.spelled
    by_contra outside
    have beyond (least most : Char) (within : 48 ≤ least.toNat ∧ most.toNat ≤ 122) :
        ¬ (least ≤ digit.char ∧ digit.char ≤ most) := by
      intro (inside : least.toNat ≤ digit.char.toNat ∧ digit.char.toNat ≤ most.toNat)
      omega
    have none : Literal.asciiDigit? digit.char = none := by
      rw [Literal.asciiDigit?, if_neg (beyond '0' '9' (by decide)), Text.letterDigit?,
        if_neg (beyond 'a' 'z' (by decide)), if_neg (beyond 'A' 'Z' (by decide))]
    rw [Literal.digit?, none] at spelled
    cases spelled
  simp [isAllowed]
  omega

theorem isAllowed_piece {piece : Piece} (portable : piece.Portable) :
    piece.text.all isAllowed = true := by
  cases piece with
  | raw c stands => simpa [Piece.text] using portable.1
  | escape letter c stands =>
      unfold Json.escaped? at stands
      split at stands <;> cases stands <;> decide
  | code a b c d =>
      have marks : isAllowed '\\' = true ∧ isAllowed 'u' = true := by decide
      simp [Piece.text, isAllowed_hexDigit, marks]

/-- Marks and blanks may stand in a text. -/
theorem isAllowed_marks : isAllowed '"' = true ∧ isAllowed '[' = true ∧ isAllowed ']' = true ∧
    isAllowed '\x7b' = true ∧ isAllowed '\x7d' = true ∧ isAllowed ',' = true ∧
    isAllowed ':' = true ∧ isAllowed ' ' = true := by
  decide

theorem isAllowed_quoted {pieces : Pieces} (portable : pieces.Portable) :
    pieces.quoted.all isAllowed = true := by
  have inside : (pieces.flatMap Piece.text).all isAllowed = true := by
    rw [List.all_flatMap, List.all_eq_true]
    exact fun piece member => isAllowed_piece (portable piece member)
  simp only [Pieces.quoted, List.cons_append, List.all_cons, List.all_append, inside,
    isAllowed_marks, List.all_nil, Bool.and_self]

theorem isAllowed_word (scalar : Word) : scalar.text.all isAllowed = true := by
  have all : ∀ c ∈ wordChars, isAllowed c = true := forall_mem_of_all rfl
  rw [List.all_eq_true]
  exact fun c inside => all c (Word.mem_wordChars inside)

theorem isAllowed_behindItem {items : List Term}
    (each : ∀ item ∈ items, item.text.all isAllowed = true) :
    (textBehindItem items).all isAllowed = true := by
  induction items with
  | nil => rfl
  | cons item later ih =>
      rw [List.forall_mem_cons] at each
      simp only [textBehindItem, List.all_cons, List.all_append, each.1, ih each.2,
        isAllowed_marks, Bool.and_self]

theorem isAllowed_behindField {fields : List (Pieces × Term)} (keys : HasKeys fields)
    (each : ∀ field ∈ fields, field.2.text.all isAllowed = true) :
    (textBehindField fields).all isAllowed = true := by
  induction fields with
  | nil => rfl
  | cons field later ih =>
      rw [List.forall_mem_cons] at each
      rw [HasKeys, List.forall_mem_cons] at keys
      simp only [textBehindField, List.all_cons, List.all_append, each.1, ih keys.2 each.2,
        isAllowed_quoted keys.1.1, isAllowed_marks, Bool.and_self]

theorem isAllowed_text {levels : Nat} {term : Term} (portable : term.Portable levels) :
    term.text.all isAllowed = true := by
  induction portable with
  | @word levels scalar portable => rw [Term.text]; exact isAllowed_word scalar
  | string portable => rw [Term.text]; exact isAllowed_quoted portable
  | @list levels items portable each =>
      cases items with
      | nil => rfl
      | cons item later =>
          rw [List.forall_mem_cons] at each
          simp only [Term.text, List.all_cons, List.all_append, each.1,
            isAllowed_behindItem each.2, isAllowed_marks, Bool.and_self]
  | @map levels fields keys portable each =>
      cases fields with
      | nil => rfl
      | cons field later =>
          rw [List.forall_mem_cons] at each keys
          simp only [Term.text, List.all_cons, List.all_append, each.1, isAllowed_quoted keys.1.1,
            isAllowed_behindField keys.2 each.2, isAllowed_marks, Bool.and_self]

/-- The tokens of a text that is one portable mapping. -/
theorem tokens_map {levels : Nat} {fields : List (Pieces × Term)}
    (portable : (Term.map fields).Portable levels) :
    Yaml.tokens (Term.map fields).text = ((Term.map fields).tokens ++ [.streamEnd], none) := by
  have start : Stands [] { rest := places (Term.map fields).text }
      ⟨[], (Term.map fields).text, true, 0⟩ := {
    rest := ⟨0, 0, rfl, fun inside => absurd inside (Nat.lt_irrefl 0)⟩
    given := rfl
    tokens := rfl
    going := rfl
    indent := rfl
    outer := rfl
    depth := rfl
    keyAllowed := rfl
    loose := fun candidate inside => nomatch List.mem_singleton.1 inside }
  have way : Reaches ⟨[], (Term.map fields).text, true, 0⟩
      ⟨(Term.map fields).tokens, [], false, 0⟩ := by
    cases portable with
    | map keys values =>
        have way : Reaches ⟨[], [] ++ ((Term.map fields).text ++ []), true, 0⟩
            ⟨[] ++ (Term.map fields).tokens, [], false, 0⟩ :=
          reaches_map keys (fun field inside => spans_of_portable (values field inside)) (.inl rfl)
        rw [List.append_nil] at way
        exact way
  obtain ⟨steps, read, scanner, far, passes, stands⟩ := way [] _ start
  have fuel : (Term.map fields).text.length + 1 =
      (Term.map fields).text.length - steps + 1 + steps := by
    dsimp only [List.length_nil] at far
    omega
  rw [Yaml.tokens, if_pos (isAllowed_text portable), fuel, passes]
  exact stands.run_end _

end Yaml.Scanner

end Canopen
