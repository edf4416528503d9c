import Canopen.Proofs.Yaml.Spots

/-!
# Tokens on a line

The marks, words and strings of a JSON text on one line are read as tokens, and the colon behind a
string that starts where a key may start makes it a key.
-/

namespace Canopen.Yaml.Scanner

open Json (Word Pieces)

variable {read : List Token} {scanner ready : Scanner} {spot : Spot}

/-! ## Marks -/

/-- What is done with a character that is a token of its own, or begins a string. -/
def markAction? : Char → Option (Scanner → Result Scanner)
  | '[' => some (·.openBracket .flowSequenceStart)
  | '\x7b' => some (·.openBracket .flowMappingStart)
  | ']' => some (·.closeBracket .flowSequenceEnd)
  | '\x7d' => some (·.closeBracket .flowMappingEnd)
  | ',' => some readComma
  | '"' => some (·.readNode (quotedScalar .double))
  | _ => none

theorem Prepares.readToken_mark (prepares : scanner.Prepares ready)
    {action : Scanner → Result Scanner} (known : markAction? (peek ready.rest) = some action) :
    scanner.readToken = action ready := by
  unfold readToken
  rw [prepares.fresh]
  simp only [bind, Except.bind, prepares.still]
  unfold markAction? at known
  split at known <;> cases known
  all_goals
    next first => simp [first, endChar]

/-- A colon between brackets. -/
theorem Prepares.readToken_colon (prepares : scanner.Prepares ready)
    (first : peek ready.rest = ':') (inFlow : ready.inFlow = true) :
    scanner.readToken = ready.readColon := by
  unfold readToken
  rw [prepares.fresh]
  simp [bind, Except.bind, prepares.still, first, inFlow, endChar]

/-- The end of the text. -/
theorem Prepares.readToken_end (prepares : scanner.Prepares ready)
    (first : peek ready.rest = endChar) : scanner.readToken = ready.readEnd := by
  unfold readToken
  rw [prepares.fresh]
  simp [bind, Except.bind, prepares.still, first]

/-- Characters that words begin with have no meaning of their own. -/
theorem firstChars_plain : ∀ c ∈ Json.firstChars, isBlankOrEnd c = false ∧ isMark c = false ∧
    c ≠ '.' ∧ c ≠ endChar ∧ IsSolid c :=
  forall_mem_of_all rfl

/-- A word. -/
theorem Prepares.readToken_word (prepares : scanner.Prepares ready)
    (positive : 0 < ready.column)
    (starts : peek ready.rest ∈ Json.firstChars ∨
      (peek ready.rest = '-' ∧ peekAt 1 ready.rest ∈ Json.firstChars)) :
    scanner.readToken = ready.readPlain := by
  have marks : ∀ c ∈ Json.firstChars, c ≠ endChar ∧ c ≠ '%' ∧ c ≠ '-' ∧ c ≠ '.' ∧ c ≠ '[' ∧
      c ≠ '\x7b' ∧ c ≠ ']' ∧ c ≠ '\x7d' ∧ c ≠ ',' ∧ c ≠ '?' ∧ c ≠ ':' ∧ c ≠ '*' ∧ c ≠ '&' ∧
      c ≠ '!' ∧ c ≠ '|' ∧ c ≠ '>' ∧ c ≠ '\'' ∧ c ≠ '"' := forall_mem_of_all rfl
  unfold readToken
  rw [prepares.fresh]
  simp only [bind, Except.bind, prepares.still]
  rcases starts with first | ⟨first, second⟩
  · have others := marks _ first
    have plain : startsPlain ready.inFlow ready.rest = true := by
      rw [startsPlain, (firstChars_plain _ first).1, (firstChars_plain _ first).2.1]
      rfl
    simp [others, plain]
  · have separator : atSeparator ready.rest = false := by
      unfold atSeparator
      split
      · next a _ _ _ _ places =>
        have inside : a.column ≠ 0 := by
          rw [column, places] at positive
          exact fun start => absurd positive (by simp [here, start])
        simp [inside]
      · rfl
    have digit := (firstChars_plain _ second).1
    have plain : startsPlain ready.inFlow ready.rest = true := by
      rw [startsPlain, first, digit]
      rfl
    simp [first, separator, digit, plain, endChar]

/-! ## What is left behind a token -/

/-- A character that takes the next column. -/
theorem placesFrom_mark {c : Char} (inline : isBreak c = false) (mark : c ≠ byteOrderMark)
    (index line column : Nat) (rest : List Char) :
    placesFrom index line column (c :: rest) =
      ⟨c, index, line, column⟩ :: placesFrom (index + 1) line (column + 1) rest := by
  rw [placesFrom, inline, Bool.false_and, if_neg Bool.false_ne_true, if_neg mark]

theorem Stands.peek_eq (stands : ready.Stands read spot) :
    peek ready.rest = spot.text.headD endChar := by
  obtain ⟨index, column, rest, -⟩ := stands.rest
  obtain ⟨later, places⟩ := exists_placesFrom index 0 column spot.text
  rw [rest, places]
  rfl

theorem peekAt_placesFrom (ahead index line column : Nat) (text : List Char) :
    peekAt ahead (placesFrom index line column text) =
      ((text ++ [endChar])[ahead]?).getD endChar := by
  rw [← map_char_placesFrom index line column text, List.getElem?_map, peekAt]
  cases (placesFrom index line column text)[ahead]? <;> rfl

theorem Stands.inFlow (stands : ready.Stands read spot) (inside : 0 < spot.depth) :
    ready.inFlow = true := by
  rw [Scanner.inFlow, stands.depth]
  exact decide_eq_true (by omega)

theorem Stands.column_pos (stands : ready.Stands read spot) (inside : 0 < spot.depth) :
    0 < ready.column := by
  obtain ⟨index, column, rest, positive⟩ := stands.rest
  obtain ⟨later, places⟩ := exists_placesFrom index 0 column spot.text
  rw [Scanner.column, rest, places]
  exact_mod_cast positive inside

/-- A mark has been read, and its token waits. -/
theorem Stands.emit_advance (stands : ready.Stands read spot) {c : Char} {rest : List Char}
    (text : spot.text = c :: rest) (solid : IsSolid c) (token : Token) (keyAllowed : Bool)
    (candidates : List (Option Candidate)) {depth : Nat} (length : candidates.length = depth + 1)
    (loose : ∀ candidate, some candidate ∈ candidates →
      candidate.required = false ∧ ready.given ≤ candidate.number) :
    (((({ ready with candidates } : Scanner).emit token).advance 1).allowKey keyAllowed).Stands read
      ⟨spot.tokens ++ [token], rest, keyAllowed, depth⟩ := by
  obtain ⟨index, column, places, -⟩ := stands.rest
  rw [text, placesFrom_mark solid.inline solid.mark] at places
  exact {
    rest := by
      refine ⟨index + 1, column + 1, ?_, fun _ => Nat.succ_pos column⟩
      change ready.rest.drop 1 = _
      rw [places, List.drop_succ_cons, List.drop_zero]
    given := stands.given
    tokens := by
      rw [← stands.tokens, List.append_assoc]
      rfl
    going := stands.going
    indent := stands.indent
    outer := stands.outer
    depth := length
    keyAllowed := rfl
    loose := loose }

theorem Stands.openBracket (stands : ready.Stands read spot) {c : Char} {rest : List Char}
    (text : spot.text = c :: rest) (solid : IsSolid c) (token : Token) :
    ∃ after, ready.openBracket token = .ok after ∧ after.Stands read
      ⟨spot.tokens ++ [token], rest, true, spot.depth + 1⟩ := by
  obtain ⟨saved, save, -, stands'⟩ := stands.saveCandidate
  refine ⟨_, ?_, stands'.emit_advance text solid token true (none :: saved.candidates) ?_ ?_⟩
  · rw [Scanner.openBracket, save]
    rfl
  · rw [List.length_cons, stands'.depth]
  · intro candidate inside
    rcases List.mem_cons.1 inside with same | around
    · cases same
    · exact stands'.loose candidate around

theorem Stands.closeBracket (stands : ready.Stands read spot) {c : Char} {rest : List Char}
    {depth : Nat} (inside : spot.depth = depth + 1) (text : spot.text = c :: rest)
    (solid : IsSolid c) (token : Token) :
    ∃ after, ready.closeBracket token = .ok after ∧ after.Stands read
      ⟨spot.tokens ++ [token], rest, false, depth⟩ := by
  have inFlow := stands.inFlow (by omega)
  refine ⟨_, ?_, stands.emit_advance text solid token false _ ?_ stands.loose_drop⟩
  · rw [Scanner.closeBracket, inFlow, stands.dropCandidate_eq]
    rfl
  · rw [stands.length_drop, inside]

theorem Stands.readComma (stands : ready.Stands read spot) {rest : List Char}
    (text : spot.text = ',' :: rest) :
    ∃ after, ready.readComma = .ok after ∧ after.Stands read
      ⟨spot.tokens ++ [.flowEntry], rest, true, spot.depth⟩ := by
  have dropped := stands.dropCandidate
  refine ⟨_, ?_, stands.emit_advance text (by decide) .flowEntry true _ dropped.depth dropped.loose⟩
  rw [Scanner.readComma, stands.dropCandidate_eq]
  rfl

/-- A scalar has been read, and its token waits. -/
theorem Stands.emit_scalar (stands : ready.Stands read spot) (token : Token) (index : Nat)
    (rest : List Char) {next : Nat} (positive : 0 < spot.depth → 0 < next) :
    ({ ready.emit token with
        rest := placesFrom index 0 next rest
        keyAllowed := false } : Scanner).Stands read
      ⟨spot.tokens ++ [token], rest, false, spot.depth⟩ where
  rest := ⟨index, next, rfl, positive⟩
  given := stands.given
  tokens := by
    rw [← stands.tokens, List.append_assoc]
    rfl
  going := stands.going
  indent := stands.indent
  outer := stands.outer
  depth := stands.depth
  keyAllowed := rfl
  loose := stands.loose

/-! ## Ways along tokens -/

theorem reaches_open {tokens : List Token} {depth : Nat} {gap rest : List Char}
    {keyAllowed : Bool} (short : IsGap gap) (c : Char) (token : Token)
    (mark : (c, token) ∈ [('[', Token.flowSequenceStart), ('\x7b', .flowMappingStart)]) :
    Reaches ⟨tokens, gap ++ c :: rest, keyAllowed, depth⟩
      ⟨tokens ++ [token], rest, true, depth + 1⟩ := by
  have known : IsSolid c ∧ markAction? c = some (·.openBracket token) := by
    simp only [List.mem_cons, Prod.mk.injEq, List.not_mem_nil, or_false] at mark
    rcases mark with ⟨rfl, rfl⟩ | ⟨rfl, rfl⟩
    · exact ⟨by decide, rfl⟩
    · exact ⟨by decide, rfl⟩
  refine reaches_of_token gap rfl short known.1 (by simp; omega) ?_
  intro read scanner ready prepares stands
  obtain ⟨after, step, stands'⟩ := stands.openBracket rfl known.1 token
  refine ⟨after, ?_, stands'⟩
  rw [prepares.readToken_mark (by rw [stands.peek_eq]; exact known.2), step]

theorem reaches_close {tokens : List Token} {depth : Nat} {rest : List Char}
    {keyAllowed : Bool} (c : Char) (token : Token)
    (mark : (c, token) ∈ [(']', Token.flowSequenceEnd), ('\x7d', .flowMappingEnd)]) :
    Reaches ⟨tokens, c :: rest, keyAllowed, depth + 1⟩
      ⟨tokens ++ [token], rest, false, depth⟩ := by
  have known : IsSolid c ∧ markAction? c = some (·.closeBracket token) := by
    simp only [List.mem_cons, Prod.mk.injEq, List.not_mem_nil, or_false] at mark
    rcases mark with ⟨rfl, rfl⟩ | ⟨rfl, rfl⟩
    · exact ⟨by decide, rfl⟩
    · exact ⟨by decide, rfl⟩
  refine reaches_of_token [] rfl (.inl rfl) known.1 (by simp) ?_
  intro read scanner ready prepares stands
  obtain ⟨after, step, stands'⟩ := stands.closeBracket rfl rfl known.1 token
  refine ⟨after, ?_, stands'⟩
  rw [prepares.readToken_mark (by rw [stands.peek_eq]; exact known.2), step]

theorem reaches_comma (tokens : List Token) (depth : Nat) (rest : List Char)
    (keyAllowed : Bool) :
    Reaches ⟨tokens, ',' :: rest, keyAllowed, depth⟩
      ⟨tokens ++ [.flowEntry], rest, true, depth⟩ := by
  refine reaches_of_token [] rfl (.inl rfl) (show IsSolid ',' by decide) (by simp) ?_
  intro read scanner ready prepares stands
  obtain ⟨after, step, stands'⟩ := stands.readComma rfl
  refine ⟨after, ?_, stands'⟩
  rw [prepares.readToken_mark (by rw [stands.peek_eq]; rfl), step]

theorem reaches_word {tokens : List Token} {depth : Nat} {gap rest : List Char}
    {keyAllowed : Bool} (short : IsGap gap) (scalar : Word) {mark : Char}
    (ends : mark ∈ [',', ']', '\x7d']) :
    Reaches ⟨tokens, gap ++ (scalar.text ++ mark :: rest), keyAllowed, depth + 1⟩
      ⟨tokens ++ [.scalar .plain (String.ofList scalar.text)], mark :: rest, false, depth + 1⟩ := by
  obtain ⟨first, later, text, known⟩ := scalar.exists_text
  have solid : IsSolid ((scalar.text ++ mark :: rest).headD endChar) := by
    rw [text]
    rcases known with plain | ⟨rfl, -⟩
    · exact (firstChars_plain first plain).2.2.2.2
    · exact show IsSolid '-' by decide
  have some : 0 < scalar.text.length := by
    rw [text]
    exact Nat.succ_pos _
  refine reaches_of_token gap rfl short solid (by simp; omega) ?_
  intro read scanner ready prepares stands
  have starts : peek ready.rest ∈ Json.firstChars ∨
      (peek ready.rest = '-' ∧ peekAt 1 ready.rest ∈ Json.firstChars) := by
    obtain ⟨index, column, places, -⟩ := stands.rest
    rw [stands.peek_eq, places, peekAt_placesFrom, text]
    rcases known with plain | ⟨rfl, digit, others, rfl, plain⟩
    · exact .inl plain
    · exact .inr ⟨rfl, plain⟩
  obtain ⟨saved, save, same, stands'⟩ := stands.saveCandidate
  obtain ⟨index, column, places, positive⟩ := stands'.rest
  obtain ⟨next, further, plain⟩ := exists_plainFrom
    (fun c (inside : c ∈ scalar.text) => Word.mem_wordChars inside) ends (saved.indent + 1) []
    index 0 column rest
  refine ⟨_, ?_, stands'.emit_scalar (.scalar .plain (String.ofList scalar.text))
    (index + scalar.text.length) (mark :: rest)
    fun inside => Nat.lt_of_lt_of_le (positive inside) further⟩
  rw [prepares.readToken_word (stands.column_pos (Nat.succ_pos _)) starts, readPlain, save]
  simp only [bind, Except.bind, stands'.inFlow (Nat.succ_pos _), places, plainScalar, plain]
  rfl

/-! ## Strings -/

/-- A key that is not too long may have started in front of so many tokens. -/
def Keyed (scanner : Scanner) (number : Nat) : Prop :=
  ∃ candidate around, scanner.candidates = some candidate :: around ∧
    candidate.number = number ∧ isStale (here scanner.rest) candidate = false

/-- Such a key is not forgotten. -/
theorem Keyed.dropStale {number : Nat} (keyed : ready.Keyed number)
    (stands : ready.Stands read spot) {after : Scanner} (fresh : ready.dropStale = .ok after) :
    after.Keyed number := by
  obtain ⟨candidate, around, candidates, numbered, young⟩ := keyed
  rw [stands.dropStale_eq] at fresh
  cases fresh
  refine ⟨candidate, around.map (·.filter fun candidate => !isStale (here ready.rest) candidate),
    ?_, numbered, young⟩
  dsimp only
  rw [candidates, List.map_cons, Option.filter_some, young]
  rfl

/-- A string has been read, and where a key may start it may be one, unless it is too long. -/
theorem Stands.readString {tokens : List Token} {depth : Nat} {rest : List Char}
    {keyAllowed : Bool} {pieces : Pieces} (portable : pieces.Portable)
    (stands : ready.Stands read ⟨tokens, pieces.quoted ++ rest, keyAllowed, depth⟩) :
    ∃ after, ready.readNode (quotedScalar .double) = .ok after ∧
      after.Stands read ⟨tokens ++ [.scalar .quoted pieces.string], rest, false, depth⟩ ∧
      (keyAllowed = true → pieces.quoted.length ≤ 1024 → after.Keyed tokens.length) := by
  obtain ⟨saved, save, same, stands'⟩ := stands.saveCandidate
  obtain ⟨index, column, places, positive⟩ := stands'.rest
  obtain ⟨next, further, quoted⟩ := exists_quotedScalar portable index 0 column rest
  refine ⟨_, ?_, stands'.emit_scalar (.scalar .quoted pieces.string)
    (index + pieces.quoted.length) rest
    (fun inside => Nat.lt_of_lt_of_le (positive inside) further), ?_⟩
  · rw [readNode, save]
    simp only [bind, Except.bind, places, quoted]
    rfl
  · rintro rfl short
    rw [stands.saveCandidate_eq rfl] at save
    cases save
    refine ⟨_, _, rfl, rfl, ?_⟩
    obtain ⟨first, start⟩ := exists_placesFrom index 0 column (pieces.quoted ++ rest)
    obtain ⟨last, goal⟩ := exists_placesFrom (index + pieces.quoted.length) 0 next rest
    have places' : ready.rest = _ := places
    rw [places', start]
    change isStale (here (placesFrom (index + pieces.quoted.length) 0 next rest)) _ = false
    rw [goal]
    simpa [isStale, here] using short

theorem reaches_string {tokens : List Token} {depth : Nat} {gap rest : List Char}
    {keyAllowed : Bool} (short : IsGap gap) {pieces : Pieces} (portable : pieces.Portable) :
    Reaches ⟨tokens, gap ++ (pieces.quoted ++ rest), keyAllowed, depth⟩
      ⟨tokens ++ [.scalar .quoted pieces.string], rest, false, depth⟩ := by
  have some : 0 < pieces.quoted.length := Nat.succ_pos _
  refine reaches_of_token gap rfl short (show IsSolid '"' by decide) (by simp; omega) ?_
  intro read scanner ready prepares stands
  obtain ⟨after, step, stands', -⟩ := stands.readString portable
  refine ⟨after, ?_, stands'⟩
  rw [prepares.readToken_mark (by rw [stands.peek_eq]; rfl), step]

/-! ## Keys -/

/-- A token is put in front of the last one. -/
theorem insertIdx_append_singleton {α : Type} (front : List α) (new last : α) :
    (front ++ [last]).insertIdx front.length new = front ++ [new, last] := by
  induction front with
  | nil => rfl
  | cons first rest ih =>
      rw [List.cons_append, List.length_cons, List.insertIdx_succ_cons, ih, List.cons_append]

/-- The last token waits, unless as many tokens have been given out. -/
theorem Stands.exists_waiting {tokens : List Token} {last : Token} {text : List Char}
    {keyAllowed : Bool} {depth : Nat}
    (stands : ready.Stands read ⟨tokens ++ [last], text, keyAllowed, depth⟩)
    (before : read.length ≤ tokens.length) :
    ∃ middle, ready.waiting = middle ++ [last] ∧ read.reverse ++ middle = tokens := by
  rcases List.append_eq_append_iff.1 stands.tokens with
    ⟨middle, front, waiting⟩ | ⟨more, front, last⟩
  · exact ⟨middle, waiting, front.symm⟩
  · have none : more = [] := by
      have length := congrArg List.length front
      rw [List.length_reverse, List.length_append] at length
      exact List.eq_nil_of_length_eq_zero (by omega)
    subst none
    rw [List.append_nil] at front
    exact ⟨[], last.symm, by rw [front, List.append_nil]⟩

/-- The colon behind a string makes it a key. -/
theorem Stands.readColon {tokens : List Token} {scalar : Token} {depth : Nat}
    {rest : List Char} {keyAllowed : Bool}
    (stands : ready.Stands read ⟨tokens ++ [scalar], ':' :: rest, keyAllowed, depth + 1⟩)
    (keyed : ready.Keyed tokens.length) :
    ∃ after, ready.readColon = .ok after ∧
      after.Stands read ⟨tokens ++ [.key, scalar, .value], rest, false, depth + 1⟩ := by
  obtain ⟨candidate, around, candidates, numbered, -⟩ := keyed
  have inside : some candidate ∈ ready.candidates := by
    rw [candidates]
    exact List.mem_cons_self
  have before := (stands.loose candidate inside).2
  rw [numbered, stands.given] at before
  obtain ⟨middle, waiting, front⟩ := stands.exists_waiting before
  have place : candidate.number - ready.given = middle.length := by
    rw [numbered, stands.given, ← front, List.length_append, List.length_reverse,
      Nat.add_sub_cancel_left]
  have inserted : ready.waiting.insertIdx (candidate.number - ready.given) .key =
      middle ++ [.key, scalar] := by
    rw [waiting, place, insertIdx_append_singleton]
  have length : (none :: around).length = depth + 1 + 1 := by
    rw [← stands.depth, candidates, List.length_cons, List.length_cons]
  have loose : ∀ candidate, some candidate ∈ none :: around →
      candidate.required = false ∧ ready.given ≤ candidate.number := by
    intro other inside
    rcases List.mem_cons.1 inside with same | later
    · cases same
    · exact stands.loose other (by rw [candidates]; exact List.mem_cons_of_mem _ later)
  have keyed : ({ ready with waiting := middle ++ [.key, scalar] } : Scanner).Stands read
      ⟨tokens ++ [.key, scalar], ':' :: rest, keyAllowed, depth + 1⟩ :=
    { stands with
      tokens := by
        dsimp only
        rw [← List.append_assoc, front] }
  have advanced := keyed.emit_advance rfl (by decide) .value false (none :: around) length loose
  simp only [List.append_assoc, List.cons_append, List.nil_append] at advanced
  refine ⟨_, ?_, advanced⟩
  have inFlow : ({ ready with
      waiting := middle ++ [.key, scalar]
      candidates := none :: around } : Scanner).inFlow = true :=
    decide_eq_true (by dsimp only; omega)
  rw [Scanner.readColon, candidates]
  simp only [emitAt, inserted, inFlow, if_true]

theorem Keyed.prepares {number : Nat} (keyed : scanner.Keyed number)
    (stands : scanner.Stands read spot) (solid : IsSolid (spot.text.headD endChar))
    (prepares : scanner.Prepares ready) : ready.Keyed number := by
  obtain ⟨index, column, rest, -⟩ := stands.rest
  obtain ⟨later, places⟩ := exists_placesFrom index 0 column spot.text
  rw [places] at rest
  have same : scanner.skip = scanner := by
    rw [skip, rest, skipMark_of_ne solid.mark, skipFrom_solid _ solid, ← rest]
  have fresh := prepares.fresh
  rw [same] at fresh
  exact keyed.dropStale stands fresh

/-- A string that is not too long and the colon behind it are a key. -/
theorem reaches_key (tokens : List Token) (depth : Nat) {gap rest : List Char}
    (short : IsGap gap) {pieces : Pieces} (portable : pieces.Portable)
    (near : pieces.quoted.length ≤ 1024) :
    Reaches ⟨tokens, gap ++ (pieces.quoted ++ ':' :: rest), true, depth + 1⟩
      ⟨tokens ++ [.key, .scalar .quoted pieces.string, .value], rest, false, depth + 1⟩ := by
  have some : 0 < pieces.quoted.length := Nat.succ_pos _
  intro read scanner stands
  -- the string, in front of which a key may start
  obtain ⟨ready, prepares, there⟩ := stands.prepares rfl short (show IsSolid '"' by decide)
  obtain ⟨after, step, stands', keyed⟩ := there.readString portable
  have string : markAction? (peek ready.rest) = .some (·.readNode (quotedScalar .double)) := by
    rw [there.peek_eq]
    rfl
  obtain ⟨settled, fresh, readOn, settles⟩ :=
    stands'.readOn ((prepares.readToken_mark string).trans step)
  have young : settled.Keyed tokens.length := (keyed rfl near).dropStale stands' fresh
  have kept : settled.give.2.Keyed tokens.length := young
  -- the colon
  have solid : IsSolid ':' := by decide
  obtain ⟨ready', prepares', there'⟩ := settles.give.prepares
    (List.nil_append (':' :: rest)).symm (.inl rfl) solid
  obtain ⟨after', step', stands''⟩ := there'.readColon (kept.prepares settles.give solid prepares')
  rw [← prepares'.readToken_colon (by rw [there'.peek_eq]; rfl) (there'.inFlow (Nat.succ_pos _))]
    at step'
  obtain ⟨settled', -, readOn', settles'⟩ := stands''.readOn step'
  refine ⟨1 + 1, _, _, ?_,
    (passes_one readOn settles.going).trans (passes_one readOn' settles'.going), settles'.give⟩
  simp only [List.length_append, List.length_cons]
  omega

/-! ## The end -/

/-- At the end of the text all tokens are given out. -/
theorem Stands.run_end {tokens : List Token} {keyAllowed : Bool}
    (stands : scanner.Stands read ⟨tokens, [], keyAllowed, 0⟩) (more : Nat) :
    run read (more + 1) scanner = (tokens ++ [.streamEnd], none) := by
  obtain ⟨ready, prepares, there⟩ := stands.prepares (List.nil_append []).symm (.inl rfl)
    (show IsSolid endChar by decide)
  have step : scanner.readToken = .ok { ({ ready with
      candidates := none :: ready.candidates.drop 1 } : Scanner).emit .streamEnd with
        done := true } := by
    rw [prepares.readToken_end (by rw [there.peek_eq]; rfl), readEnd, there.unwind_eq,
      there.dropCandidate_eq]
    rfl
  have all : read.reverse ++ (ready.waiting ++ [Token.streamEnd]) = tokens ++ [.streamEnd] := by
    rw [← List.append_assoc, there.tokens]
  rw [run, Scanner.readOn, step]
  simp only [bind, Except.bind, pure, Except.pure, if_true, Scanner.give, emit, List.take_length,
    List.reverse_append, List.reverse_reverse, all]

end Canopen.Yaml.Scanner
