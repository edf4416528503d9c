import Canopen.Proofs.Yaml.FlowScalars

/-!
# Spots on a line

Between brackets, what the scanner does next depends on little: on what is left of the line, on
whether a key may start and on how many brackets are open.  Where keys may have started matters only
up to the colon of a key, and which tokens have been given out does not matter at all.
-/

namespace Canopen.Yaml

/-- How far a line has been read. -/
structure Spot where
  tokens : List Token
  /-- What is left of the line. -/
  text : List Char
  keyAllowed : Bool
  /-- How many brackets are open. -/
  depth : Nat

namespace Scanner

/-- The scanner, which has given out tokens, stands at a spot. -/
structure Stands (read : List Token) (scanner : Scanner) (spot : Spot) : Prop where
  rest : ∃ index column, scanner.rest = placesFrom index 0 column spot.text ∧
    (0 < spot.depth → 0 < column)
  given : scanner.given = read.length
  tokens : read.reverse ++ scanner.waiting = spot.tokens
  going : scanner.done = false
  indent : scanner.indent = -1
  outer : scanner.outer = []
  depth : scanner.candidates.length = spot.depth + 1
  keyAllowed : scanner.keyAllowed = spot.keyAllowed
  /-- Nothing has to be a key, and no token has been given out in front of which a key may start. -/
  loose : ∀ candidate, some candidate ∈ scanner.candidates →
    candidate.required = false ∧ scanner.given ≤ candidate.number

variable {read : List Token} {scanner : Scanner} {spot : Spot}

/-! ## Giving out tokens -/

theorem settled_le (scanner : Scanner) :
    scanner.settled ≤ scanner.waiting.length ∧
      ∀ candidate, some candidate ∈ scanner.candidates →
        scanner.settled ≤ candidate.number - scanner.given := by
  unfold settled
  generalize scanner.waiting.length = least
  induction scanner.candidates generalizing least with
  | nil => exact ⟨Nat.le_refl _, fun _ inside => nomatch inside⟩
  | cons first rest ih =>
      rw [List.foldl_cons]
      cases first with
      | none =>
          obtain ⟨small, all⟩ := ih least
          refine ⟨small, fun candidate inside => all candidate ?_⟩
          rcases List.mem_cons.1 inside with same | later
          · cases same
          · exact later
      | some first =>
          obtain ⟨small, all⟩ := ih (min least (first.number - scanner.given))
          refine ⟨Nat.le_trans small (Nat.min_le_left _ _), fun candidate inside => ?_⟩
          rcases List.mem_cons.1 inside with same | later
          · cases same
            exact Nat.le_trans small (Nat.min_le_right _ _)
          · exact all candidate later

/-- Giving out tokens leads nowhere else. -/
theorem Stands.give (stands : scanner.Stands read spot) :
    scanner.give.2.Stands (scanner.give.1.reverse ++ read) spot := by
  obtain ⟨waiting, candidates⟩ := scanner.settled_le
  have settled : (if scanner.done then scanner.waiting.length else scanner.settled) =
      scanner.settled := by
    rw [stands.going, if_neg Bool.false_ne_true]
  have parts := scanner.give_append
  exact {
    rest := stands.rest
    given := by
      rw [Scanner.give, settled, List.length_append, List.length_reverse, List.length_take,
        Nat.min_eq_left waiting, stands.given, Nat.add_comm]
    tokens := by
      rw [List.reverse_append, List.reverse_reverse, List.append_assoc, parts, stands.tokens]
    going := stands.going
    indent := stands.indent
    outer := stands.outer
    depth := stands.depth
    keyAllowed := stands.keyAllowed
    loose := by
      intro candidate inside
      obtain ⟨free, before⟩ := stands.loose candidate inside
      have small := candidates candidate inside
      refine ⟨free, ?_⟩
      rw [Scanner.give, settled]
      dsimp only
      omega }

/-! ## Candidates -/

/-- What candidates are left does not matter. -/
theorem Stands.withCandidates (stands : scanner.Stands read spot)
    {candidates : List (Option Candidate)} (same : candidates.length = scanner.candidates.length)
    (loose : ∀ candidate, some candidate ∈ candidates →
      candidate.required = false ∧ scanner.given ≤ candidate.number) :
    { scanner with candidates }.Stands read spot :=
  { stands with
    depth := by
      rw [← stands.depth]
      exact same
    loose := loose }

theorem Stands.dropStale_eq (stands : scanner.Stands read spot) :
    scanner.dropStale = .ok { scanner with
      candidates := scanner.candidates.map
        (·.filter fun candidate => !isStale (here scanner.rest) candidate) } := by
  rw [dropStale, if_neg]
  rw [Bool.not_eq_true, List.any_eq_false]
  intro candidate inside stale
  obtain ⟨candidate, rfl, required⟩ := (Option.any_eq_true _ _).1 stale
  rw [Bool.and_eq_true, (stands.loose candidate inside).1] at required
  exact Bool.false_ne_true required.2

theorem Stands.dropStale (stands : scanner.Stands read spot) :
    ∃ after, scanner.dropStale = .ok after ∧ after.Stands read spot := by
  refine ⟨_, stands.dropStale_eq, stands.withCandidates (List.length_map _) ?_⟩
  intro candidate inside
  obtain ⟨before, member, kept⟩ := List.mem_map.1 inside
  obtain rfl : before = some candidate := by
    cases before with
    | none => cases kept
    | some before =>
        rw [Option.filter_some] at kept
        split at kept
        · exact kept
        · cases kept
  exact stands.loose candidate member

/-- The candidates around the innermost bracket. -/
theorem Stands.loose_drop (stands : scanner.Stands read spot) :
    ∀ candidate, some candidate ∈ scanner.candidates.drop 1 →
      candidate.required = false ∧ scanner.given ≤ candidate.number :=
  fun candidate inside => stands.loose candidate (List.mem_of_mem_drop inside)

theorem Stands.dropCandidate_eq (stands : scanner.Stands read spot) :
    scanner.dropCandidate =
      .ok { scanner with candidates := none :: scanner.candidates.drop 1 } := by
  have depth := stands.depth
  have loose := stands.loose
  cases candidates : scanner.candidates with
  | nil =>
      rw [candidates] at depth
      cases depth
  | cons first around =>
      rw [dropCandidate, candidates]
      cases first with
      | none =>
          dsimp only
          rw [List.drop_one, List.tail_cons, ← candidates]
      | some first =>
          have free := (loose first (by rw [candidates]; exact List.mem_cons_self)).1
          dsimp only
          rw [free, if_neg Bool.false_ne_true]
          rfl

theorem Stands.length_drop (stands : scanner.Stands read spot) :
    (scanner.candidates.drop 1).length = spot.depth := by
  rw [List.length_drop, stands.depth, Nat.add_sub_cancel]

theorem Stands.dropCandidate (stands : scanner.Stands read spot) :
    { scanner with candidates := none :: scanner.candidates.drop 1 }.Stands read spot := by
  refine stands.withCandidates ?_ fun candidate inside => ?_
  · rw [List.length_cons, stands.length_drop, stands.depth]
  · rcases List.mem_cons.1 inside with same | around
    · cases same
    · exact stands.loose_drop candidate around

/-- How many tokens there are. -/
theorem Stands.count_eq (stands : scanner.Stands read spot) :
    scanner.count = spot.tokens.length := by
  rw [count, stands.given, ← stands.tokens, List.length_append, List.length_reverse]

theorem Stands.saveCandidate_eq (stands : scanner.Stands read spot)
    (allowed : spot.keyAllowed = true) :
    scanner.saveCandidate = .ok { scanner with
      candidates := some ⟨spot.tokens.length, false, here scanner.rest⟩ ::
        scanner.candidates.drop 1 } := by
  have outside : (scanner.indent == scanner.column) = false := by
    rw [stands.indent, column, beq_eq_false_iff_ne]
    omega
  have open_ : scanner.keyAllowed = true := by rw [stands.keyAllowed, allowed]
  rw [saveCandidate, if_pos open_, outside, Bool.and_false, stands.dropCandidate_eq,
    ← stands.count_eq]
  rfl

theorem Stands.saveCandidate (stands : scanner.Stands read spot) :
    ∃ after, scanner.saveCandidate = .ok after ∧ after.rest = scanner.rest ∧
      after.Stands read spot := by
  cases allowed : spot.keyAllowed with
  | true =>
      refine ⟨_, stands.saveCandidate_eq allowed, rfl, stands.withCandidates ?_ ?_⟩
      · rw [List.length_cons, stands.length_drop, stands.depth]
      · intro candidate inside
        rcases List.mem_cons.1 inside with same | around
        · cases same
          refine ⟨rfl, ?_⟩
          rw [stands.given, ← stands.tokens, List.length_append, List.length_reverse]
          exact Nat.le_add_right _ _
        · exact stands.loose_drop candidate around
  | false =>
      refine ⟨scanner, ?_, rfl, stands⟩
      rw [Scanner.saveCandidate, stands.keyAllowed, allowed, if_neg Bool.false_ne_true]

/-! ## Where a token starts -/

/-- A token may start with this character, or the text ends here. -/
structure IsSolid (c : Char) : Prop where
  blank : c ≠ ' '
  comment : c ≠ '#'
  inline : isBreak c = false
  mark : c ≠ byteOrderMark

instance (c : Char) : Decidable (IsSolid c) :=
  decidable_of_iff (c ≠ ' ' ∧ c ≠ '#' ∧ isBreak c = false ∧ c ≠ byteOrderMark)
    ⟨fun ⟨blank, comment, inline, mark⟩ => ⟨blank, comment, inline, mark⟩,
      fun ⟨blank, comment, inline, mark⟩ => ⟨blank, comment, inline, mark⟩⟩

/-- The first place is that of the first character, or of the end. -/
theorem exists_placesFrom (index line column : Nat) (text : List Char) :
    ∃ rest, placesFrom index line column text =
      ⟨text.headD endChar, index, line, column⟩ :: rest := by
  cases text with
  | nil => exact ⟨[], rfl⟩
  | cons c rest =>
      rw [placesFrom]
      split
      · exact ⟨_, rfl⟩
      · split <;> exact ⟨_, rfl⟩

theorem skipMark_of_ne {place : Place} (mark : place.char ≠ byteOrderMark) (rest : List Place) :
    skipMark (place :: rest) = place :: rest := by
  rw [skipMark, if_neg fun start => mark start.2]

theorem skipFrom_solid (place : Place) (solid : IsSolid place.char) (inFlow keyAllowed : Bool)
    (rest : List Place) :
    skipFrom inFlow false keyAllowed (place :: rest) = (keyAllowed, place :: rest) := by
  rw [skipFrom]
  simp [solid.blank, solid.inline, solid.comment]

/-- What may stand in front of a token. -/
def IsGap (gap : List Char) : Prop :=
  gap = [] ∨ gap = [' ']

/-- A token may stand behind a blank. -/
theorem Stands.skip (stands : scanner.Stands read spot) {gap body : List Char}
    (text : spot.text = gap ++ body) (short : IsGap gap)
    (solid : IsSolid (body.headD endChar)) :
    scanner.skip.Stands read { spot with text := body } := by
  obtain ⟨index, column, rest, positive⟩ := stands.rest
  rw [text] at rest
  rcases short with rfl | rfl
  · obtain ⟨later, places⟩ := exists_placesFrom index 0 column body
    have same : scanner.skip = scanner := by
      rw [List.nil_append, places] at rest
      rw [Scanner.skip, rest, skipMark_of_ne solid.mark, skipFrom_solid _ solid, ← rest]
    rw [same]
    exact { stands with rest := ⟨index, column, rest, positive⟩ }
  · obtain ⟨next, further, blank⟩ := exists_placesFrom_cons (c := ' ') rfl index 0 column body
    obtain ⟨later, places⟩ := exists_placesFrom (index + 1) 0 next body
    have same : scanner.skip =
        { scanner with rest := placesFrom (index + 1) 0 next body } := by
      rw [List.cons_append, List.nil_append, blank] at rest
      have first : ' ' ≠ byteOrderMark := by decide
      have later := skipFrom_solid ⟨body.headD endChar, index + 1, 0, next⟩ solid
        scanner.inFlow scanner.keyAllowed later
      rw [Scanner.skip, rest, skipMark_of_ne first, skipFrom, places]
      simp only [Bool.not_false, and_self, if_true, later]
    rw [same]
    exact { stands with
      rest := ⟨index + 1, next, rfl, fun inside => Nat.lt_of_lt_of_le (positive inside) further⟩ }

/-- What a scanner makes of itself before it looks at the next token. -/
structure Prepares (scanner ready : Scanner) : Prop where
  fresh : scanner.skip.dropStale = .ok ready
  still : ready.unwind ready.column = ready

theorem Stands.unwind_eq (stands : scanner.Stands read spot) (column : Int) :
    scanner.unwind column = scanner := by
  have none : scanner.waiting ++ List.replicate 0 Token.blockEnd = scanner.waiting :=
    List.append_nil _
  rw [unwind, stands.outer, unwindFrom]
  dsimp only
  rw [none, ← stands.outer, ite_self]

theorem Stands.prepares (stands : scanner.Stands read spot) {gap body : List Char}
    (text : spot.text = gap ++ body) (short : IsGap gap)
    (solid : IsSolid (body.headD endChar)) :
    ∃ ready, scanner.Prepares ready ∧
      ready.Stands read { spot with text := body } := by
  obtain ⟨ready, fresh, again⟩ := (stands.skip text short solid).dropStale
  exact ⟨ready, ⟨fresh, again.unwind_eq _⟩, again⟩

/-! ## Ways along a line -/

/-- So many tokens are read on the way from one scanner to another. -/
def Passes (steps : Nat) (start goal : List Token × Scanner) : Prop :=
  ∀ more, run start.1 (more + steps) start.2 = run goal.1 more goal.2

/-- On the way from one spot to another there are no more tokens than characters. -/
def Reaches (start goal : Spot) : Prop :=
  ∀ read scanner, Stands read scanner start → ∃ steps read' scanner',
    steps + goal.text.length ≤ start.text.length ∧ Passes steps (read, scanner) (read', scanner') ∧
      scanner'.Stands read' goal

theorem Passes.trans {steps steps' : Nat} {start middle goal : List Token × Scanner}
    (first : Passes steps start middle) (second : Passes steps' middle goal) :
    Passes (steps' + steps) start goal := by
  intro more
  rw [← Nat.add_assoc, first, second]

theorem Reaches.trans {start middle goal : Spot} (first : Reaches start middle)
    (second : Reaches middle goal) : Reaches start goal := by
  intro read scanner stands
  obtain ⟨steps, read', scanner', far, passes, stands'⟩ := first read scanner stands
  obtain ⟨steps', read'', scanner'', far', passes', stands''⟩ := second read' scanner' stands'
  exact ⟨steps' + steps, read'', scanner'', by omega, passes.trans passes', stands''⟩

theorem passes_one {after : Scanner} (step : scanner.readOn = .ok after)
    (going : after.done = false) :
    Passes 1 (read, scanner) (after.give.1.reverse ++ read, after.give.2) := by
  intro more
  have still : after.give.2.done = false := going
  rw [run, step]
  dsimp only
  rw [still, if_neg Bool.false_ne_true]

/-- A token is read, and what can no longer be a key is forgotten. -/
theorem Stands.readOn {after : Scanner} {goal : Spot} (step : scanner.readToken = .ok after)
    (stands : after.Stands read goal) :
    ∃ settled, after.dropStale = .ok settled ∧ scanner.readOn = .ok settled ∧
      settled.Stands read goal := by
  obtain ⟨settled, fresh, again⟩ := stands.dropStale
  refine ⟨settled, fresh, ?_, again⟩
  rw [Scanner.readOn, step]
  change (if after.done then _ else after.dropStale) = _
  rw [stands.going, if_neg Bool.false_ne_true, fresh]

/-- One token leads on. -/
theorem reaches_of_token {goal : Spot} (gap : List Char) {body : List Char}
    (text : spot.text = gap ++ body) (short : IsGap gap) (solid : IsSolid (body.headD endChar))
    (shorter : goal.text.length < spot.text.length)
    (token : ∀ (read : List Token) (scanner ready : Scanner), scanner.Prepares ready →
      ready.Stands read { spot with text := body } →
        ∃ after, scanner.readToken = .ok after ∧ after.Stands read goal) :
    Reaches spot goal := by
  intro read scanner stands
  obtain ⟨ready, prepares, there⟩ := stands.prepares text short solid
  obtain ⟨after, step, stands'⟩ := token read scanner ready prepares there
  obtain ⟨settled, -, readOn, again⟩ := stands'.readOn step
  exact ⟨1, _, _, by omega, passes_one readOn again.going, again.give⟩

end Scanner

end Canopen.Yaml
