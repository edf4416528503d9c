import Canopen.Initializer
import Canopen.Proofs.Literal.Grammar

/-!
# Character constants

The initializer of a text is a list of character constants between braces.  The rules of C for such
constants split a text into tokens in one way at most.  Every code of ASCII is written as a constant
that means this code, so that the codes can be read back from a list of them.
-/

namespace Canopen.Initializer

/-- The tokens of a list of character constants. -/
inductive Token where
  | leftBrace
  | rightBrace
  | comma
  | character (code : Nat)
deriving DecidableEq, Repr

namespace Token

/-- The characters with a meaning of their own behind a backslash, and the codes that they mean. -/
def simpleEscapes : List (Char × Nat) :=
  [('\'', 0x27), ('"', 0x22), ('?', 0x3F), ('\\', 0x5C), ('a', 0x07), ('b', 0x08), ('f', 0x0C),
    ('n', 0x0A), ('r', 0x0D), ('t', 0x09), ('v', 0x0B)]

/-- What stands behind a backslash, and the code that it means. -/
inductive Escape : List Char → Nat → Prop where
  | simple {c : Char} {code : Nat} (known : (c, code) ∈ simpleEscapes) : Escape [c] code
  | octal {digits : List Char} {code : Nat} (numeral : Literal.IsNumeral .octal digits code)
      (few : digits.length ≤ 3) : Escape digits code
  | hexadecimal {digits : List Char} {code : Nat}
      (numeral : Literal.IsNumeral .hexadecimal digits code) : Escape ('x' :: digits) code

/-- What stands between the apostrophes of a constant, and the code that it means. -/
inductive Body : List Char → Nat → Prop where
  | plain {c : Char} (other : c ∉ ['\'', '\\', '\n']) : Body [c] c.toNat
  | escaped {text : List Char} {code : Nat} (escape : Escape text code) : Body ('\\' :: text) code

/-- The tokens of a text; blanks may stand between them. -/
inductive Lexes : List Char → List Token → Prop where
  | done : Lexes [] []
  | blank {c : Char} {rest : List Char} {tokens : List Token}
      (white : c ∈ [' ', '\t', '\n', '\x0B', '\x0C']) (later : Lexes rest tokens) :
      Lexes (c :: rest) tokens
  | leftBrace {rest : List Char} {tokens : List Token} (later : Lexes rest tokens) :
      Lexes ('\x7b' :: rest) (.leftBrace :: tokens)
  | rightBrace {rest : List Char} {tokens : List Token} (later : Lexes rest tokens) :
      Lexes ('\x7d' :: rest) (.rightBrace :: tokens)
  | comma {rest : List Char} {tokens : List Token} (later : Lexes rest tokens) :
      Lexes (',' :: rest) (.comma :: tokens)
  | character {text body rest : List Char} {code : Nat} {tokens : List Token}
      (constant : Body body code) (closed : text = body ++ '\'' :: rest)
      (later : Lexes rest tokens) : Lexes ('\'' :: text) (.character code :: tokens)

/-- The tokens of a list of constants between braces. -/
def list (codes : List Nat) : List Token :=
  .leftBrace :: ((codes.map character).intersperse .comma ++ [.rightBrace])

/-! ## One way to read -/

/-- Where texts are cut at a character that is not in front of the cut, they are cut alike. -/
theorem eq_of_cut {c : Char} {front front' rest rest' : List Char} (plain : c ∉ front)
    (plain' : c ∉ front') (same : front ++ c :: rest = front' ++ c :: rest') :
    front = front' ∧ rest = rest' := by
  induction front generalizing front' with
  | nil =>
      cases front' with
      | nil =>
          cases same
          exact ⟨rfl, rfl⟩
      | cons first _ =>
          cases same
          exact absurd List.mem_cons_self plain'
  | cons first front ih =>
      cases front' with
      | nil =>
          cases same
          exact absurd List.mem_cons_self plain
      | cons first' front' =>
          obtain ⟨rfl, later⟩ := List.cons.inj same
          obtain ⟨rfl, rfl⟩ := ih (fun inside => plain (List.mem_cons_of_mem _ inside))
            (fun inside => plain' (List.mem_cons_of_mem _ inside)) later
          exact ⟨rfl, rfl⟩

/-- A character with a meaning of its own has one meaning, and it is no digit and no mark. -/
theorem simpleEscapes_unique : ∀ entry ∈ simpleEscapes,
    entry.1 ∉ Base.octal.digits ∧ entry.1 ≠ 'x' ∧
      ∀ other ∈ simpleEscapes, other.1 = entry.1 → other.2 = entry.2 := by
  decide

theorem not_mem_digits : '\'' ∉ Base.octal.digits ∧ '\'' ∉ Base.hexadecimal.digits ∧
    'x' ∉ Base.octal.digits := by
  decide

variable {text text' rest rest' : List Char} {code code' : Nat}

theorem Escape.exists_cons (escape : Escape text code) : ∃ c tail, text = c :: tail := by
  cases escape with
  | simple => exact ⟨_, _, rfl⟩
  | octal numeral few => exact List.exists_cons_of_ne_nil numeral.filled
  | hexadecimal => exact ⟨_, _, rfl⟩

/-- The first character behind a backslash tells what kind of escape it is. -/
theorem Escape.of_cons {c : Char} {tail : List Char} (escape : Escape (c :: tail) code) :
    ((c, code) ∈ simpleEscapes ∧ tail = []) ∨
      (c ∈ Base.octal.digits ∧ Literal.IsNumeral .octal (c :: tail) code) ∨
      (c = 'x' ∧ Literal.IsNumeral .hexadecimal tail code) := by
  cases escape with
  | simple known => exact .inl ⟨known, rfl⟩
  | octal numeral few => exact .inr (.inl ⟨numeral.plain c List.mem_cons_self, numeral⟩)
  | hexadecimal numeral => exact .inr (.inr ⟨rfl, numeral⟩)

/-- Digits up to an apostrophe are cut in one way, and have one value. -/
theorem cut_numeral {base : Base} (plain : '\'' ∉ base.digits) {digits digits' : List Char}
    (numeral : Literal.IsNumeral base digits code) (numeral' : Literal.IsNumeral base digits' code')
    (same : digits ++ '\'' :: rest = digits' ++ '\'' :: rest') : code = code' ∧ rest = rest' := by
  obtain ⟨rfl, rfl⟩ := eq_of_cut (fun inside => plain (numeral.plain _ inside))
    (fun inside => plain (numeral'.plain _ inside)) same
  exact ⟨numeral.value.trans numeral'.value.symm, rfl⟩

theorem Escape.unique (escape : Escape text code) (other : Escape text' code')
    (same : text ++ '\'' :: rest = text' ++ '\'' :: rest') : code = code' ∧ rest = rest' := by
  obtain ⟨c, tail, rfl⟩ := escape.exists_cons
  obtain ⟨c', tail', rfl⟩ := other.exists_cons
  obtain ⟨rfl, behind⟩ : c = c' ∧ tail ++ '\'' :: rest = tail' ++ '\'' :: rest' := by
    simpa using same
  obtain ⟨notOctal, notHex, hexOctal⟩ := not_mem_digits
  rcases escape.of_cons with ⟨known, rfl⟩ | ⟨octal, numeral⟩ | ⟨rfl, numeral⟩
  · obtain ⟨noDigit, noMark, one⟩ := simpleEscapes_unique _ known
    rcases other.of_cons with ⟨known', rfl⟩ | ⟨octal', -⟩ | ⟨mark, -⟩
    · exact ⟨(one _ known' rfl).symm, (List.cons.inj behind).2⟩
    · exact absurd octal' noDigit
    · exact absurd mark noMark
  · rcases other.of_cons with ⟨known', -⟩ | ⟨-, numeral'⟩ | ⟨rfl, -⟩
    · exact absurd octal (simpleEscapes_unique _ known').1
    · exact cut_numeral notOctal numeral numeral' same
    · exact absurd octal hexOctal
  · rcases other.of_cons with ⟨known', -⟩ | ⟨octal', -⟩ | ⟨-, numeral'⟩
    · exact absurd rfl (simpleEscapes_unique _ known').2.1
    · exact absurd octal' hexOctal
    · exact cut_numeral notHex numeral numeral' behind

theorem Body.unique (body : Body text code) (other : Body text' code')
    (same : text ++ '\'' :: rest = text' ++ '\'' :: rest') : code = code' ∧ rest = rest' := by
  cases body with
  | plain lone =>
      cases other with
      | plain lone' =>
          cases same
          exact ⟨rfl, rfl⟩
      | escaped escape' =>
          obtain ⟨rfl, -⟩ := List.cons.inj same
          exact absurd (by decide) lone
  | escaped escape =>
      cases other with
      | plain lone' =>
          obtain ⟨rfl, -⟩ := List.cons.inj same
          exact absurd (by decide) lone'
      | escaped escape' => exact escape.unique escape' (List.cons.inj same).2

/-- A text has one sequence of tokens at most. -/
theorem Lexes.unique {tokens tokens' : List Token} (lexes : Lexes text tokens)
    (other : Lexes text tokens') : tokens = tokens' := by
  induction lexes generalizing tokens' with
  | done =>
      cases other
      rfl
  | blank white later ih =>
      cases other with
      | blank white' later' => exact ih later'
      | leftBrace | rightBrace | comma | character => exact absurd white (by decide)
  | leftBrace later ih =>
      cases other with
      | blank white' later' => exact absurd white' (by decide)
      | leftBrace later' => rw [ih later']
  | rightBrace later ih =>
      cases other with
      | blank white' later' => exact absurd white' (by decide)
      | rightBrace later' => rw [ih later']
  | comma later ih =>
      cases other with
      | blank white' later' => exact absurd white' (by decide)
      | comma later' => rw [ih later']
  | character constant closed later ih =>
      cases other with
      | blank white' later' => exact absurd white' (by decide)
      | character constant' closed' later' =>
          obtain ⟨rfl, rfl⟩ := constant.unique constant' (closed.symm.trans closed')
          rw [ih later']

/-! ## Constants that are written -/

theorem isNumeral_paddedHexChars (width n : Nat) :
    Literal.IsNumeral .hexadecimal (Number.paddedHexChars width n) n :=
  Literal.isNumeral_of_spelled Number.paddedHexChars_ne_nil
    (Number.spelled?_paddedHexChars width n)

theorem toNat_ofNat {code : Nat} (ascii : code < 0x80) : (Char.ofNat code).toNat = code := by
  have valid : code.isValidChar := .inl (by omega)
  rw [Char.ofNat, dif_pos valid]
  rfl

/-- Every code of ASCII is written as a constant that means this code. -/
theorem body_escapedChar {code : Nat} (ascii : code < 0x80) :
    Body (escapedChar code).toList code := by
  unfold escapedChar
  split
  case h_1 =>
    rename_i same
    obtain rfl : code = 0 := by exact_mod_cast same
    exact .escaped (.octal ⟨by decide, forall_mem_of_all rfl, by decide⟩ (by decide))
  case h_2 | h_3 | h_4 | h_5 | h_6 | h_7 | h_8 | h_9 | h_10 | h_11 =>
    rename_i same
    norm_cast at same
    subst same
    exact .escaped (.simple (by decide))
  case h_12 =>
    rename_i quote apostrophe backslash
    split
    · have written : Number.signedHex 2 code = String.ofList (Number.paddedHexChars 2 code) := rfl
      rw [String.toList_append, written, String.toList_ofList, String.toList_ofList]
      exact .escaped (.hexadecimal (isNumeral_paddedHexChars 2 code))
    · next printed =>
      have meant := toNat_ofNat ascii
      have other : Char.ofNat code ∉ ['\'', '\\', '\n'] := by
        intro inside
        have among := List.mem_map_of_mem (f := Char.toNat) inside
        rw [meant] at among
        simp only [List.map_cons, List.map_nil, List.mem_cons, List.not_mem_nil, or_false] at among
        rcases among with rfl | rfl | rfl
        · exact apostrophe rfl
        · exact backslash rfl
        · exact printed (by decide)
      have body := Body.plain other
      rw [meant] at body
      rw [Int.toNat_natCast, Char.toString_eq_singleton, String.toList_singleton]
      exact body

/-- The constant that is written for a code. -/
def constant (code : Nat) : String :=
  "'" ++ escapedChar code ++ "'"

/-- A written constant is read as its code, and the text behind it is read after it. -/
theorem lexes_constant {code : Nat} (ascii : code < 0x80) {tokens : List Token}
    (later : Lexes rest tokens) :
    Lexes ((constant code).toList ++ rest) (.character code :: tokens) := by
  have chars : (constant code).toList ++ rest =
      '\'' :: ((escapedChar code).toList ++ '\'' :: rest) := by
    simp [constant, String.toList_append]
  rw [chars]
  exact .character (body_escapedChar ascii) rfl later

/-- The constants of a list are read one by one, with commas between them. -/
theorem lexes_intercalate {codes : List Nat} (ascii : ∀ code ∈ codes, code < 0x80)
    {tokens : List Token} (later : Lexes rest tokens) :
    Lexes ([',', ' '].intercalate (codes.map (String.toList ∘ constant)) ++ rest)
      ((codes.map character).intersperse .comma ++ tokens) := by
  induction codes with
  | nil => exact later
  | cons code codes ih =>
      have first := ascii code List.mem_cons_self
      have behind := ih fun other inside => ascii other (List.mem_cons_of_mem _ inside)
      cases codes with
      | nil =>
          rw [List.map_singleton, List.intercalate_singleton]
          exact lexes_constant first later
      | cons next codes =>
          rw [List.map_cons, List.map_cons, List.intercalate_cons_cons, List.append_assoc,
            List.append_assoc]
          exact lexes_constant first (.comma (.blank (by decide) behind))

/-- A list of constants is read as its codes, and in no other way. -/
theorem lexes_characters_iff {codes : List Nat} (ascii : ∀ code ∈ codes, code < 0x80)
    {tokens : List Token} :
    Lexes (characters codes).text.toList tokens ↔ tokens = list codes := by
  have chars : (characters codes).text.toList =
      '\x7b' :: ([',', ' '].intercalate (codes.map (String.toList ∘ constant)) ++ ['\x7d']) := by
    rw [text, braced, String.toList_append, String.toList_append,
      String.toList_intercalate, List.map_map]
    rfl
  have read : Lexes (characters codes).text.toList (list codes) := by
    rw [chars]
    exact .leftBrace (lexes_intercalate ascii (.rightBrace .done))
  constructor
  · exact fun other => other.unique read
  · rintro rfl
    exact read

end Token

end Canopen.Initializer
