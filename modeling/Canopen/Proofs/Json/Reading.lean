import Canopen.Json.Reader
import Canopen.Proofs.Json.Numerals

/-!
# Reading JSON on one line

A term is read back from its text, with the value that it has.  Its lexemes follow each other as its
parts do, and wherever a value may come, they deliver the value of the term.
-/

namespace Canopen

namespace Text

/-- Letters of ASCII are no decimal digits. -/
theorem decimalDigit?_eq_none {c : Char} {value : Nat} (letter : letterDigit? c = some value) :
    decimalDigit? c = none := by
  have bounds : 65 ≤ c.toNat ∧ c.toNat ≤ 122 := by
    unfold letterDigit? at letter
    split at letter
    · next small => exact ⟨Nat.le_trans (by decide) small.1, small.2⟩
    · split at letter
      · next capital => exact ⟨capital.1, Nat.le_trans capital.2 (by decide)⟩
      · cases letter
  have zeros : ∀ least ∈ digitZeros, least = 0x30 ∨ 0x660 ≤ least := by decide
  rw [decimalDigit?, List.find?_eq_none.2, Option.map_none]
  intro least inside
  have := zeros least inside
  simp only [Bool.and_eq_true, decide_eq_true_eq]
  omega

end Text

namespace Json

/-- A hexadecimal digit is read as one. -/
theorem HexDigit.digitIn?_char (digit : HexDigit) :
    Text.digitIn? 16 digit.char = some digit.value := by
  have small : digit.value < 16 := Literal.digit?_lt digit.spelled
  have ascii : Literal.asciiDigit? digit.char = some digit.value := by
    have spelled := digit.spelled
    rw [Literal.digit?] at spelled
    split at spelled
    · next value ascii =>
      split at spelled
      · rw [ascii, spelled]
      · cases spelled
    · cases spelled
  rw [Literal.asciiDigit?] at ascii
  split at ascii
  · next decimal =>
    have digit' : digit.char.isDigit = true :=
      Bool.and_eq_true_iff.2 ⟨decide_eq_true decimal.1, decide_eq_true decimal.2⟩
    rw [Text.digitIn?, Text.decimalDigit?_of_isDigit digit']
    change (if digit.char.toNat - '0'.toNat < 16 then _ else _) = _
    rw [Option.some.inj ascii, if_pos small]
  · rw [Text.digitIn?, Text.decimalDigit?_eq_none ascii, ascii]
    exact if_pos small

/-! ## Lexemes -/

namespace Term

mutual

/-- The lexemes of a value. -/
def lexemes : Term → List Lexeme
  | .word scalar => [.scalar scalar.value]
  | .string pieces => [.scalar (.text pieces.string)]
  | .list [] => [.openList, .closeList]
  | .list (item :: rest) => .openList :: (item.lexemes ++ lexemesBehindItem rest)
  | .map [] => [.openMap, .closeMap]
  | .map ((key, value) :: rest) =>
      .openMap :: .scalar (.text key.string) :: .colon ::
        (value.lexemes ++ lexemesBehindField rest)

/-- The lexemes behind an item in front of the given ones. -/
def lexemesBehindItem : List Term → List Lexeme
  | [] => [.closeList]
  | item :: rest => .comma :: (item.lexemes ++ lexemesBehindItem rest)

/-- The lexemes behind a field in front of the given ones. -/
def lexemesBehindField : List (Pieces × Term) → List Lexeme
  | [] => [.closeMap]
  | (key, value) :: rest =>
      .comma :: .scalar (.text key.string) :: .colon ::
        (value.lexemes ++ lexemesBehindField rest)

end

end Term

open Term (textBehindItem textBehindField lexemesBehindItem lexemesBehindField)

/-- No word goes on behind the text. -/
def EndsWord (rest : List Char) : Prop :=
  ∀ c ∈ rest.head?, (punctuation? c).isSome

/-- A text has these lexemes, whatever follows. -/
def Spells (text : List Char) (marks : List Lexeme) : Prop :=
  ∀ rest later, EndsWord rest → lexemesFrom .between rest = some later →
    lexemesFrom .between (text ++ rest) = some (marks ++ later)

/-! ## Marks and words -/

theorem lexemesFrom_mark {c : Char} {mark : Lexeme} (known : punctuation? c = some mark)
    (rest : List Char) :
    lexemesFrom .between (c :: rest) = (lexemesFrom .between rest).map (mark :: ·) := by
  have plain : isSpace c = false ∧ c ≠ '"' := by
    unfold punctuation? at known
    split at known <;> first | cases known; done | decide
  rw [lexemesFrom, plain.1, if_neg Bool.false_ne_true, if_neg plain.2, known]

theorem wordChars_inside : ∀ c ∈ wordChars,
    isSpace c = false ∧ c ≠ '"' ∧ punctuation? c = none :=
  forall_mem_of_all rfl

theorem lexemesFrom_word {front rest : List Char} {value : Value} {later : List Lexeme}
    (known : ∀ c ∈ front, c ∈ wordChars) (read : List Char)
    (spelled : scalar? (read.reverse ++ front) = some value) (ends : EndsWord rest)
    (others : lexemesFrom .between rest = some later) :
    lexemesFrom (.word read) (front ++ rest) = some (.scalar value :: later) := by
  induction front generalizing read with
  | nil =>
      rw [List.append_nil] at spelled
      cases rest with
      | nil =>
          cases others
          rw [List.append_nil, lexemesFrom, spelled]
          rfl
      | cons c rest =>
          obtain ⟨mark, known⟩ := Option.isSome_iff_exists.1 (ends c rfl)
          rw [lexemesFrom_mark known] at others
          obtain ⟨behind, read, rfl⟩ := Option.map_eq_some_iff.1 others
          rw [List.nil_append, lexemesFrom, known, spelled]
          dsimp only
          rw [read]
          rfl
  | cons c front ih =>
      rw [List.forall_mem_cons] at known
      obtain ⟨blank, quote, none⟩ := wordChars_inside c known.1
      rw [List.cons_append, lexemesFrom, none]
      dsimp only
      rw [blank, if_neg Bool.false_ne_true]
      exact ih known.2 (c :: read) (by rw [List.reverse_cons, List.append_assoc]; exact spelled)

theorem spells_word (scalar : Word) : Spells scalar.text [.scalar scalar.value] := by
  intro rest later ends others
  obtain ⟨first, front, text, -⟩ := scalar.exists_text
  have known : ∀ c ∈ first :: front, c ∈ wordChars := by
    rw [← text]
    exact fun c inside => Word.mem_wordChars inside
  rw [List.forall_mem_cons] at known
  obtain ⟨blank, quote, none⟩ := wordChars_inside first known.1
  have spelled := scalar.scalar?_text
  rw [text] at spelled
  rw [text, List.cons_append, lexemesFrom, blank, if_neg Bool.false_ne_true, if_neg quote, none]
  exact lexemesFrom_word known.2 [first] spelled ends others

/-! ## Strings -/

/-- The code of a whole character is read as the character. -/
theorem pushCode_whole {code : Nat} (whole : isHalf code = false) (read : List Char) :
    Under.pushCode ⟨read, none⟩ code = ⟨Char.ofNat code :: read, none⟩ := by
  have outside : ¬ (0xD800 ≤ code ∧ code < 0xE000) := by
    simpa [isHalf] using whole
  have first : ¬ (0xD800 ≤ code ∧ code < 0xDC00) := by omega
  have second : ¬ (0xDC00 ≤ code ∧ code < 0xE000) := by omega
  rw [Under.pushCode]
  dsimp only
  rw [if_neg first, if_neg second]
  rfl

/-- A piece is read as its character. -/
theorem lexemesFrom_piece {piece : Piece} (portable : piece.Portable) (read rest : List Char) :
    lexemesFrom (.string ⟨read, none⟩) (piece.text ++ rest) =
      lexemesFrom (.string ⟨piece.char :: read, none⟩) rest := by
  cases piece with
  | raw c stands =>
      obtain ⟨⟨visible, quote⟩, slash⟩ : (0x20 ≤ c.toNat ∧ c ≠ '"') ∧ c ≠ '\\' := by
        simpa [standsRaw] using stands
      rw [Piece.text, List.singleton_append, lexemesFrom, if_neg quote, if_neg slash,
        if_neg (Nat.not_lt.2 visible)]
      rfl
  | escape letter c stands =>
      have letter_ne : letter ≠ 'u' := by
        rintro rfl
        cases stands
      rw [Piece.text, List.cons_append, List.cons_append, lexemesFrom, if_neg (by decide),
        if_pos rfl, lexemesFrom, if_neg letter_ne, stands]
      rfl
  | code a b c d =>
      have pushed : Under.pushCode ⟨read, none⟩ (Piece.codeOf a b c d) =
          ⟨Char.ofNat (Piece.codeOf a b c d) :: read, none⟩ := pushCode_whole portable read
      have value : ((0 * 16 + a.value) * 16 + b.value) * 16 + c.value =
          (a.value * 16 + b.value) * 16 + c.value := by omega
      simp only [Piece.text, List.cons_append, List.nil_append, lexemesFrom, HexDigit.digitIn?_char]
      rw [value]
      change lexemesFrom (.string (Under.pushCode ⟨read, none⟩ (Piece.codeOf a b c d))) rest = _
      rw [pushed]
      rfl

theorem lexemesFrom_pieces {pieces : Pieces} (portable : pieces.Portable)
    (read rest : List Char) :
    lexemesFrom (.string ⟨read, none⟩) (pieces.flatMap Piece.text ++ rest) =
      lexemesFrom (.string ⟨(pieces.map Piece.char).reverse ++ read, none⟩) rest := by
  induction pieces generalizing read with
  | nil => rfl
  | cons piece later ih =>
      rw [Pieces.Portable, List.forall_mem_cons] at portable
      rw [List.flatMap_cons, List.append_assoc, lexemesFrom_piece portable.1, ih portable.2,
        List.map_cons, List.reverse_cons, List.append_assoc]
      rfl

theorem spells_quoted {pieces : Pieces} (portable : pieces.Portable) :
    Spells pieces.quoted [.scalar (.text pieces.string)] := by
  intro rest later _ others
  rw [Pieces.quoted, List.cons_append, List.cons_append, List.append_assoc, lexemesFrom]
  change lexemesFrom (.string ⟨[], none⟩) (pieces.flatMap Piece.text ++ '"' :: rest) = _
  rw [lexemesFrom_pieces portable, lexemesFrom, if_pos rfl, others]
  simp [Under.settled, Pieces.string]

/-! ## Collections -/

/-- A blank between lexemes is none. -/
theorem lexemesFrom_blank (rest : List Char) :
    lexemesFrom .between (' ' :: rest) = lexemesFrom .between rest := by
  rw [lexemesFrom, if_pos (by decide)]

theorem endsWord_behindItem (items : List Term) (rest : List Char) :
    EndsWord (textBehindItem items ++ rest) := by
  cases items with
  | nil => simp [EndsWord, textBehindItem, punctuation?]
  | cons item later => simp [EndsWord, textBehindItem, punctuation?]

theorem endsWord_behindField (fields : List (Pieces × Term)) (rest : List Char) :
    EndsWord (textBehindField fields ++ rest) := by
  cases fields with
  | nil => simp [EndsWord, textBehindField, punctuation?]
  | cons field later => simp [EndsWord, textBehindField, punctuation?]

/-- The items behind an item have their lexemes. -/
theorem lexemesFrom_behindItem {items : List Term}
    (each : ∀ item ∈ items, Spells item.text item.lexemes) {rest : List Char}
    {later : List Lexeme} (others : lexemesFrom .between rest = some later) :
    lexemesFrom .between (textBehindItem items ++ rest) =
      some (lexemesBehindItem items ++ later) := by
  induction items with
  | nil =>
      rw [textBehindItem, lexemesBehindItem]
      exact (lexemesFrom_mark rfl rest).trans (by rw [others]; rfl)
  | cons item behind ih =>
      rw [List.forall_mem_cons] at each
      have value := each.1 _ _ (endsWord_behindItem behind rest) (ih each.2)
      rw [textBehindItem, lexemesBehindItem, List.cons_append, lexemesFrom_mark rfl,
        List.cons_append, lexemesFrom_blank, List.append_assoc, value, Option.map_some,
        List.cons_append, List.append_assoc]

theorem spells_list {items : List Term} (each : ∀ item ∈ items, Spells item.text item.lexemes) :
    Spells (Term.list items).text (Term.list items).lexemes := by
  intro rest later _ others
  cases items with
  | nil =>
      rw [Term.text, Term.lexemes, List.cons_append, lexemesFrom_mark rfl, List.cons_append,
        lexemesFrom_mark rfl, List.nil_append, others]
      rfl
  | cons item behind =>
      rw [List.forall_mem_cons] at each
      have value := each.1 _ _ (endsWord_behindItem behind rest)
        (lexemesFrom_behindItem each.2 others)
      rw [Term.text, Term.lexemes, List.cons_append, lexemesFrom_mark rfl, List.append_assoc, value,
        Option.map_some, List.cons_append, List.append_assoc]

/-- A field has its lexemes. -/
theorem lexemesFrom_field {key : Pieces} {value : Term} (portable : key.Portable)
    (spells : Spells value.text value.lexemes) {rest : List Char} {later : List Lexeme}
    (ends : EndsWord rest) (others : lexemesFrom .between rest = some later) :
    lexemesFrom .between (key.quoted ++ ':' :: ' ' :: (value.text ++ rest)) =
      some (.scalar (.text key.string) :: .colon :: (value.lexemes ++ later)) := by
  have colon : lexemesFrom .between (':' :: ' ' :: (value.text ++ rest)) =
      some (.colon :: (value.lexemes ++ later)) := by
    rw [lexemesFrom_mark rfl, lexemesFrom_blank, spells rest later ends others, Option.map_some]
  exact spells_quoted portable _ _ (by simp [EndsWord, punctuation?]) colon

/-- The fields behind a field have their lexemes. -/
theorem lexemesFrom_behindField {fields : List (Pieces × Term)}
    (keys : ∀ field ∈ fields, field.1.Portable)
    (each : ∀ field ∈ fields, Spells field.2.text field.2.lexemes) {rest : List Char}
    {later : List Lexeme} (others : lexemesFrom .between rest = some later) :
    lexemesFrom .between (textBehindField fields ++ rest) =
      some (lexemesBehindField fields ++ later) := by
  induction fields with
  | nil =>
      rw [textBehindField, lexemesBehindField]
      exact (lexemesFrom_mark rfl rest).trans (by rw [others]; rfl)
  | cons field behind ih =>
      obtain ⟨key, value⟩ := field
      rw [List.forall_mem_cons] at keys each
      have field := lexemesFrom_field keys.1 each.1 (endsWord_behindField behind rest)
        (ih keys.2 each.2)
      rw [textBehindField, lexemesBehindField, List.cons_append, lexemesFrom_mark rfl,
        List.cons_append, lexemesFrom_blank]
      simp only [List.append_assoc, List.cons_append, field, Option.map_some]

theorem spells_map {fields : List (Pieces × Term)} (keys : ∀ field ∈ fields, field.1.Portable)
    (each : ∀ field ∈ fields, Spells field.2.text field.2.lexemes) :
    Spells (Term.map fields).text (Term.map fields).lexemes := by
  intro rest later _ others
  cases fields with
  | nil =>
      rw [Term.text, Term.lexemes, List.cons_append, lexemesFrom_mark rfl, List.cons_append,
        lexemesFrom_mark rfl, List.nil_append, others]
      rfl
  | cons field behind =>
      obtain ⟨key, value⟩ := field
      rw [List.forall_mem_cons] at keys each
      have field := lexemesFrom_field keys.1 each.1 (endsWord_behindField behind rest)
        (lexemesFrom_behindField keys.2 each.2 others)
      rw [Term.text, Term.lexemes, List.cons_append, lexemesFrom_mark rfl]
      simp only [List.append_assoc, List.cons_append, field, Option.map_some]

/-- The text of every portable value has its lexemes. -/
theorem spells_of_portable {levels : Nat} {term : Term} (portable : term.Portable levels) :
    Spells term.text term.lexemes := by
  induction portable with
  | @word _ scalar _ =>
      rw [Term.text, Term.lexemes]
      exact spells_word scalar
  | string portable =>
      rw [Term.text, Term.lexemes]
      exact spells_quoted portable
  | list _ each => exact spells_list each
  | map keys _ each => exact spells_map (fun field inside => (keys field inside).1) each

/-! ## Reading -/

namespace Reader

/-- Wherever a value may come, the lexemes deliver it. -/
def Reads (term : Term) : Prop :=
  ∀ reader : Reader, takesValue reader.expected = true →
    term.lexemes.foldlM step reader = reader.deliver term.value

variable {reader : Reader}

theorem reads_scalar (value : Value) (takes : takesValue reader.expected = true) :
    [.scalar value].foldlM step reader = reader.deliver value := by
  have delivers : reader.step (.scalar value) = reader.deliver value := if_pos takes
  rw [List.foldlM_cons, delivers]
  exact bind_pure _

/-- What is expected does not matter for what is delivered. -/
theorem deliver_expected (reader : Reader) (expected : Expected) (value : Value) :
    deliver { reader with expected } value = reader.deliver value := by
  rw [deliver, deliver]

theorem reads_behindItem {items : List Term} (each : ∀ item ∈ items, Reads item)
    (read : List Value) :
    (lexemesBehindItem items).foldlM step
        { reader with frames := .list read :: reader.frames, expected := .commaOrClose } =
      reader.deliver (.list (read.reverse ++ Term.values items)) := by
  induction items generalizing read with
  | nil =>
      rw [lexemesBehindItem, Term.values, List.append_nil, List.foldlM_cons]
      exact (bind_pure _).trans (deliver_expected reader .commaOrClose _)
  | cons item later ih =>
      rw [List.forall_mem_cons] at each
      rw [lexemesBehindItem, List.foldlM_cons]
      change (item.lexemes ++ lexemesBehindItem later).foldlM step
        { reader with frames := .list read :: reader.frames, expected := .value } = _
      rw [List.foldlM_append, each.1 _ rfl]
      change (lexemesBehindItem later).foldlM step { reader with
        frames := .list (item.value :: read) :: reader.frames, expected := .commaOrClose } = _
      rw [ih each.2, Term.values, List.reverse_cons, List.append_assoc]
      rfl

theorem reads_list {items : List Term} (each : ∀ item ∈ items, Reads item) :
    Reads (.list items) := by
  intro reader takes
  have opens : reader.step .openList = some { reader with
      frames := .list [] :: reader.frames, expected := .valueOrClose } := if_pos takes
  cases items with
  | nil =>
      rw [Term.lexemes, List.foldlM_cons, opens]
      exact (bind_pure _).trans (deliver_expected reader .valueOrClose _)
  | cons item later =>
      rw [List.forall_mem_cons] at each
      rw [Term.lexemes, List.foldlM_cons, opens]
      change (item.lexemes ++ lexemesBehindItem later).foldlM step _ = _
      rw [List.foldlM_append, each.1 _ rfl]
      exact reads_behindItem each.2 [item.value]

/-- In an open mapping, a key and its value become one field more. -/
theorem reads_field {value : Term} (reads : Reads value) (name : String)
    (read : List (Value × Value)) (outer : List Frame) {expected : Expected}
    (key : expected = .key ∨ expected = .keyOrClose) (later : List Lexeme) :
    (.scalar (.text name) :: .colon :: (value.lexemes ++ later)).foldlM step
        { reader with frames := .map read :: outer, expected } =
      later.foldlM step { reader with
        frames := .map ((.text name, value.value) :: read) :: outer
        expected := .commaOrClose } := by
  have named : step { reader with frames := .map read :: outer, expected } (.scalar (.text name)) =
      some { reader with frames := .field read (.text name) :: outer, expected := .colon } := by
    rcases key with rfl | rfl <;> rfl
  rw [List.foldlM_cons, named]
  change (value.lexemes ++ later).foldlM step
    { reader with frames := .field read (.text name) :: outer, expected := .value } = _
  rw [List.foldlM_append, reads _ rfl]
  rfl

theorem reads_behindField {fields : List (Pieces × Term)}
    (each : ∀ field ∈ fields, Reads field.2) (read : List (Value × Value)) :
    (lexemesBehindField fields).foldlM step
        { reader with frames := .map read :: reader.frames, expected := .commaOrClose } =
      reader.deliver (.map (Value.ofFields (read.reverse ++ Term.fieldValues fields))) := by
  induction fields generalizing read with
  | nil =>
      rw [lexemesBehindField, Term.fieldValues, List.append_nil, List.foldlM_cons]
      exact (bind_pure _).trans (deliver_expected reader .commaOrClose _)
  | cons field later ih =>
      obtain ⟨key, value⟩ := field
      rw [List.forall_mem_cons] at each
      rw [lexemesBehindField, List.foldlM_cons]
      change (.scalar (.text key.string) :: .colon ::
        (value.lexemes ++ lexemesBehindField later)).foldlM step
          { reader with frames := .map read :: reader.frames, expected := .key } = _
      rw [reads_field each.1 _ _ _ (.inl rfl), ih each.2, Term.fieldValues, List.reverse_cons,
        List.append_assoc]
      rfl

theorem reads_map {fields : List (Pieces × Term)} (each : ∀ field ∈ fields, Reads field.2) :
    Reads (.map fields) := by
  intro reader takes
  have opens : reader.step .openMap = some { reader with
      frames := .map [] :: reader.frames, expected := .keyOrClose } := if_pos takes
  cases fields with
  | nil =>
      rw [Term.lexemes, List.foldlM_cons, opens]
      exact (bind_pure _).trans (deliver_expected reader .keyOrClose _)
  | cons field later =>
      obtain ⟨key, value⟩ := field
      rw [List.forall_mem_cons] at each
      rw [Term.lexemes, List.foldlM_cons, opens]
      change (.scalar (.text key.string) :: .colon ::
        (value.lexemes ++ lexemesBehindField later)).foldlM step
          { reader with frames := .map [] :: reader.frames, expected := .keyOrClose } = _
      rw [reads_field each.1 _ _ _ (.inr rfl)]
      exact reads_behindField each.2 _

theorem reads_of_portable {levels : Nat} {term : Term} (portable : term.Portable levels) :
    Reads term := by
  induction portable with
  | word _ => exact fun reader takes => by rw [Term.lexemes, reads_scalar _ takes, Term.value]
  | string _ => exact fun reader takes => by rw [Term.lexemes, reads_scalar _ takes, Term.value]
  | list _ each => exact reads_list each
  | map _ _ each => exact reads_map each

end Reader

/-- A portable value is read back from its text. -/
theorem read?_text {levels : Nat} {term : Term} (portable : term.Portable levels) :
    read? term.text = some term.value := by
  have marks : lexemes term.text = some term.lexemes := by
    have spelled := spells_of_portable portable [] [] nofun rfl
    rwa [List.append_nil, List.append_nil] at spelled
  rw [read?, marks]
  change term.lexemes.foldlM Reader.step {} >>= _ = _
  rw [Reader.reads_of_portable portable {} rfl]
  rfl

end Json

end Canopen
