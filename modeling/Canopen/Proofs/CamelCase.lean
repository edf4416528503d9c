import Canopen.Proofs.Identifier
import Canopen.Proofs.Text.Words

/-!
# Words of identifiers

The words of a name are its runs of identifier characters.  An identifier keeps the letters and
digits of all of them in order: a word is changed in its first character only, and underscores are
put where capitals of two words would meet.  What comes next is settled by the characters that are
written already, so that the identifier is followed from its first word to its last.
-/

namespace Canopen.CName

/-- The words stand in the name, one behind the other, with other characters around them. -/
inductive Parted : List (List Char) → List Char → Prop where
  | rest {gap : List Char} (other : ∀ c ∈ gap, isWordChar c = false) : Parted [] gap
  | word {gap word text : List Char} {words : List (List Char)}
      (other : ∀ c ∈ gap, isWordChar c = false) (filled : word ≠ [])
      (inner : ∀ c ∈ word, isWordChar c = true)
      (ends : ∀ c, text.head? = some c → isWordChar c = false) (later : Parted words text) :
      Parted (word :: words) (gap ++ (word ++ text))

/-- A later word as it is written: a capital in front, unless it is a single character. -/
inductive Capitalized : List Char → List Char → Prop where
  | single (c : Char) : Capitalized [c] [c]
  | several (first second : Char) (rest : List Char) :
      Capitalized (first :: second :: rest) (first.toUpper :: second :: rest)

/-- A capital is written last, and the next word begins with one. -/
structure Meets (front word : List Char) : Prop where
  before : ∃ c, front.getLast? = some c ∧ c.isUpper = true
  behind : ∃ c, word.head? = some c ∧ c.isUpper = true

/-- What is written so far goes on with the later words up to the result, and so many underscores
are put between them. -/
inductive GoesOn : List Char → List (List Char) → Nat → List Char → Prop where
  | done (front : List Char) : GoesOn front [] 0 front
  | apart {front word piece result : List Char} {words : List (List Char)} {inserted : Nat}
      (meets : Meets front word) (written : Capitalized word piece)
      (later : GoesOn (front ++ '_' :: piece) words inserted result) :
      GoesOn front (word :: words) (inserted + 1) result
  | joined {front word piece result : List Char} {words : List (List Char)} {inserted : Nat}
      (free : ¬ Meets front word) (written : Capitalized word piece)
      (later : GoesOn (front ++ piece) words inserted result) :
      GoesOn front (word :: words) inserted result

/-- The result is a single character, or a small letter stands behind its first character. -/
def OpensSmall (result : List Char) : Prop :=
  result.length = 1 ∨ ∃ second, result[1]? = some second ∧ second.isLower = true

/-- The first character of the result, by the first word and what stands behind the character. -/
structure Opens (first : Char) (rest result : List Char) (c : Char) : Prop where
  small : OpensSmall result → c = first.toLower
  capital : ¬ OpensSmall result → rest ≠ [] → c = first.toUpper
  kept : ¬ OpensSmall result → rest = [] → c = first

/-- The result is written of the words, with so many underscores more than they have. -/
inductive WrittenOf : List (List Char) → Nat → List Char → Prop where
  | nothing : WrittenOf [] 0 []
  | words {first c : Char} {rest result : List Char} {later : List (List Char)} {inserted : Nat}
      (opens : Opens first rest result c) (goesOn : GoesOn (c :: rest) later inserted result) :
      WrittenOf ((first :: rest) :: later) inserted result

/-- The letters and digits of a text, all letters small. -/
def folded (text : List Char) : List Char :=
  (text.filter Char.isAlphanum).map Char.toLower

/-- The result is made of identifier characters, and it keeps the words of the name. -/
structure KeepsWords (name result : List Char) : Prop where
  chars : ∀ c ∈ result, c.isAlphanum = true ∨ c = '_'
  letters : (result.filter (· ≠ '_')).map Char.toLower = folded name
  words :
    ∃ words inserted, Parted words name ∧ WrittenOf words inserted result ∧
      result.count '_' = name.count '_' + inserted

/-! ## Words -/

theorem exists_parted (name : List Char) : ∃ words, Parted words name := by
  induction name with
  | nil => exact ⟨[], .rest (List.forall_mem_nil _)⟩
  | cons c rest ih =>
      obtain ⟨words, parted⟩ := ih
      cases kind : isWordChar c with
      | false =>
          -- the character belongs to the gap in front
          refine ⟨words, ?_⟩
          cases parted with
          | rest other => exact .rest (List.forall_mem_cons.2 ⟨kind, other⟩)
          | word other filled inner ends later =>
              exact .word (List.forall_mem_cons.2 ⟨kind, other⟩) filled inner ends later
      | true =>
          have alone : ∀ d ∈ [c], isWordChar d = true := List.forall_mem_singleton.2 kind
          cases parted with
          | rest other =>
              exact ⟨[[c]], .word (List.forall_mem_nil _) (List.cons_ne_nil _ _) alone
                (fun d first => other d (List.mem_of_head? first)) (.rest other)⟩
          | @word gap word text words other filled inner ends later =>
              cases gap with
              | nil =>
                  -- the word behind begins with the character
                  exact ⟨(c :: word) :: words, .word (List.forall_mem_nil _) (List.cons_ne_nil _ _)
                    (List.forall_mem_cons.2 ⟨kind, inner⟩) ends later⟩
              | cons d gap =>
                  have parts : ∀ e, (d :: gap ++ (word ++ text)).head? = some e →
                      isWordChar e = false := by
                    rintro e ⟨⟩
                    exact other d List.mem_cons_self
                  exact ⟨[c] :: word :: words, .word (List.forall_mem_nil _)
                    (List.cons_ne_nil _ _) alone parts (.word other filled inner ends later)⟩

/-- The words of a name are the ones that stand in it. -/
theorem Parted.nameWords_eq {words : List (List Char)} {name : List Char}
    (parted : Parted words name) : nameWords name = words := by
  induction parted with
  | @rest gap other =>
      have none : Text.wordsBy (!isWordChar ·) (gap ++ []) = Text.wordsBy (!isWordChar ·) [] :=
        Text.wordsBy_append_left gap [] fun c inside => by simp [other c inside]
      rw [List.append_nil] at none
      exact none
  | word other filled inner ends _ ih =>
      rw [nameWords, Text.wordsBy_append_left _ _ fun c inside => by simp [other c inside],
        Text.wordsBy_append filled (fun c inside => by simp [inner c inside])
          fun c first => by simp [ends c first]]
      exact congrArg _ ih

theorem parted_nameWords (name : List Char) : Parted (nameWords name) name := by
  obtain ⟨words, parted⟩ := exists_parted name
  exact parted.nameWords_eq ▸ parted

/-! ## Characters in another case -/

/-- One character is the other one, perhaps in another case. -/
structure Recased (c d : Char) : Prop where
  alphanum : d.isAlphanum = c.isAlphanum
  small : d.toLower = c.toLower
  underscore : d = '_' ↔ c = '_'

theorem Recased.refl (c : Char) : Recased c c :=
  ⟨rfl, rfl, Iff.rfl⟩

theorem not_underscore_of_isAlpha {c : Char} (letter : c.isAlpha = true) : c ≠ '_' := by
  rintro rfl
  exact absurd letter (by decide)

theorem recased_toUpper (c : Char) : Recased c c.toUpper := by
  by_cases lower : c.isLower = true
  · have letter : c.isAlpha = true := by simp [Char.isAlpha, lower]
    have letter' : c.toUpper.isAlpha = true := by rw [Char.isAlpha_toUpper_eq_isAlpha, letter]
    exact ⟨by simp [Char.isAlphanum, letter, letter'], Char.toLower_toUpper_eq_toLower c,
      iff_of_false (not_underscore_of_isAlpha letter') (not_underscore_of_isAlpha letter)⟩
  · rw [Char.toUpper_eq_of_not_isLower lower]
    exact .refl c

theorem recased_toLower (c : Char) : Recased c c.toLower := by
  by_cases upper : c.isUpper = true
  · have letter : c.isAlpha = true := by simp [Char.isAlpha, upper]
    have letter' : c.toLower.isAlpha = true := by rw [Char.isAlpha_toLower_eq_isAlpha, letter]
    exact ⟨by simp [Char.isAlphanum, letter, letter'], Char.toLower_toLower_eq_toLower c,
      iff_of_false (not_underscore_of_isAlpha letter') (not_underscore_of_isAlpha letter)⟩
  · rw [Char.toLower_eq_of_not_isUpper upper]
    exact .refl c

theorem Opens.recased {first c : Char} {rest result : List Char}
    (opens : Opens first rest result c) : Recased first c := by
  by_cases small : OpensSmall result
  · exact opens.small small ▸ recased_toLower first
  · by_cases single : rest = []
    · exact opens.kept small single ▸ .refl first
    · exact opens.capital small single ▸ recased_toUpper first

theorem folded_append (front behind : List Char) :
    folded (front ++ behind) = folded front ++ folded behind := by
  simp [folded]

theorem Recased.folded_cons {c d : Char} (recased : Recased c d) (rest : List Char) :
    folded (d :: rest) = folded (c :: rest) := by
  simp only [folded, List.filter_cons, recased.alphanum]
  split
  · rw [List.map_cons, List.map_cons, recased.small]
  · rfl

theorem Recased.count_cons {c d : Char} (recased : Recased c d) (rest : List Char) :
    (d :: rest).count '_' = (c :: rest).count '_' := by
  simp only [List.count_cons, beq_iff_eq, recased.underscore]

/-! ## What is written -/

theorem Capitalized.ne_nil {word piece : List Char} (written : Capitalized word piece) :
    piece ≠ [] := by
  cases written <;> exact List.cons_ne_nil _ _

theorem Capitalized.folded_eq {word piece : List Char} (written : Capitalized word piece) :
    folded piece = folded word := by
  cases written with
  | single c => rfl
  | several first second rest => exact (recased_toUpper first).folded_cons _

theorem Capitalized.count_eq {word piece : List Char} (written : Capitalized word piece) :
    piece.count '_' = word.count '_' := by
  cases written with
  | single c => rfl
  | several first second rest => exact (recased_toUpper first).count_cons _

section

variable {front result : List Char} {words : List (List Char)} {inserted : Nat}

theorem GoesOn.folded_eq (goesOn : GoesOn front words inserted result) :
    folded result = folded front ++ folded words.flatten := by
  induction goesOn with
  | done front => exact (List.append_nil _).symm
  | @apart front word piece result words inserted meets written later ih =>
      have underscore : folded ('_' :: piece) = folded piece := rfl
      rw [ih, folded_append, underscore, written.folded_eq, List.flatten_cons, folded_append,
        List.append_assoc]
  | joined free written later ih =>
      rw [ih, folded_append, written.folded_eq, List.flatten_cons, folded_append,
        List.append_assoc]

theorem GoesOn.count_eq (goesOn : GoesOn front words inserted result) :
    result.count '_' = front.count '_' + words.flatten.count '_' + inserted := by
  induction goesOn with
  | done front => rfl
  | apart meets written later ih =>
      rw [ih, List.count_append, List.count_cons_self, written.count_eq, List.flatten_cons,
        List.count_append]
      omega
  | joined free written later ih =>
      rw [ih, List.count_append, written.count_eq, List.flatten_cons, List.count_append]
      omega

theorem WrittenOf.folded_eq (written : WrittenOf words inserted result) :
    folded result = folded words.flatten := by
  cases written with
  | nothing => rfl
  | words opens goesOn =>
      rw [goesOn.folded_eq, opens.recased.folded_cons, List.flatten_cons, folded_append]

theorem WrittenOf.count_eq (written : WrittenOf words inserted result) :
    result.count '_' = words.flatten.count '_' + inserted := by
  cases written with
  | nothing => rfl
  | words opens goesOn =>
      rw [goesOn.count_eq, opens.recased.count_cons, List.flatten_cons, List.count_append]

end

/-! ## Identifiers -/

theorem capitalized_capitalize {word : List Char} (filled : word ≠ []) :
    Capitalized word (capitalize word) := by
  match word with
  | [] => exact absurd rfl filled
  | [c] => exact .single c
  | first :: second :: rest => exact .several first second rest

/-- Two words are kept apart exactly where they meet. -/
theorem separator_cases {front : List Char} {last : Char} (ends : front.getLast? = some last)
    (word : List Char) :
    (Meets front word ∧ separator last word = ['_']) ∨
      (¬ Meets front word ∧ separator last word = []) := by
  cases word with
  | nil => exact .inr ⟨(nomatch ·.behind), rfl⟩
  | cons first rest =>
      by_cases capitals : last.isUpper = true ∧ first.isUpper = true
      · exact .inl ⟨⟨⟨last, ends, capitals.1⟩, first, rfl, capitals.2⟩, by simp [separator, capitals]⟩
      · refine .inr ⟨fun ⟨⟨c, before, upper⟩, d, behind, upper'⟩ => capitals ?_, ?_⟩
        · rw [ends] at before
          cases before
          cases behind
          exact ⟨upper, upper'⟩
        · rw [separator, if_neg (by simpa using capitals)]

theorem getLast?_append {piece : List Char} (filled : piece ≠ []) (front : List Char)
    (other : Char) : (front ++ piece).getLast? = some (piece.getLastD other) := by
  rw [List.getLast?_append_of_ne_nil front filled, List.getLastD_eq_getLast?,
    List.getLast?_eq_some_getLast filled, Option.getD_some]

/-- What is written goes on as the words are joined.  The character that they are joined after need
not be the one that is written, if it keeps the next word apart alike. -/
theorem exists_goesOn {words : List (List Char)} (filled : ∀ word ∈ words, word ≠ [])
    {front : List Char} {last other : Char} (ends : front.getLast? = some last)
    (alike : ∀ word, words.head? = some word → separator other word = separator last word) :
    ∃ inserted, GoesOn front words inserted (front ++ joinAfter other words) := by
  induction words generalizing front last other with
  | nil => exact ⟨0, by rw [joinAfter, List.append_nil]; exact .done front⟩
  | cons word later ih =>
      have written := capitalized_capitalize (filled word List.mem_cons_self)
      have goesOn (between : List Char) := ih
        (fun word inside => filled word (List.mem_cons_of_mem _ inside))
        (getLast?_append written.ne_nil (front ++ between) other) fun _ _ => rfl
      rw [joinAfter, alike word rfl]
      rcases separator_cases ends word with ⟨meets, same⟩ | ⟨free, same⟩
      · obtain ⟨inserted, later⟩ := goesOn ['_']
        refine ⟨inserted + 1, .apart meets written ?_⟩
        rw [same]
        simpa using later
      · obtain ⟨inserted, later⟩ := goesOn []
        refine ⟨inserted, .joined free written ?_⟩
        rw [same]
        simpa using later

/-- The first character of an identifier, and what stands behind it. -/
theorem exists_opens (first : Char) (rest tail : List Char) :
    ∃ c, lowerFirst (capitalize (first :: rest) ++ tail) = c :: (rest ++ tail) ∧
      Opens first rest (c :: (rest ++ tail)) c := by
  -- the first character before its case is settled
  obtain ⟨head, written, small, capital, kept⟩ : ∃ head,
      capitalize (first :: rest) = head :: rest ∧ head.toLower = first.toLower ∧
        (rest ≠ [] → head = first.toUpper) ∧ (rest = [] → head = first) := by
    cases rest with
    | nil => exact ⟨first, rfl, rfl, fun some => absurd rfl some, fun _ => rfl⟩
    | cons second rest =>
        exact ⟨first.toUpper, rfl, Char.toLower_toUpper_eq_toLower first, fun _ => rfl, nofun⟩
  rw [written, List.cons_append]
  cases behind : rest ++ tail with
  | nil =>
      have opens : OpensSmall [head.toLower] := .inl rfl
      exact ⟨head.toLower, rfl, fun _ => small, fun large => absurd opens large,
        fun large => absurd opens large⟩
  | cons second others =>
      have opens (c : Char) : OpensSmall (c :: second :: others) ↔ second.isLower = true := by
        simp [OpensSmall]
      rw [lowerFirst]
      split
      · next lower =>
        exact ⟨head.toLower, rfl, fun _ => small, fun large => absurd ((opens _).2 lower) large,
          fun large => absurd ((opens _).2 lower) large⟩
      · next upper =>
        exact ⟨head, rfl, fun lower => absurd ((opens _).1 lower) upper, fun _ => capital,
          fun _ => kept⟩

/-- A capital that is written small has no other capital behind it. -/
theorem separator_of_opens {first c : Char} {tail : List Char}
    (opens : Opens first [] (c :: tail) c) {word : List Char} {later : List (List Char)}
    (joined : tail = joinAfter first (word :: later)) :
    separator first word = separator c word := by
  cases word with
  | nil => rfl
  | cons second rest =>
      by_cases capitals : (first.isUpper && second.isUpper) = true
      · have large : ¬ OpensSmall (c :: tail) := by
          rw [joined, joinAfter, separator, if_pos capitals]
          simp [OpensSmall]
        rw [opens.kept large rfl]
      · by_cases small : OpensSmall (c :: tail)
        · rw [opens.small small, separator, separator, if_neg capitals]
          simp
        · rw [opens.kept small rfl]

theorem exists_writtenOf {words : List (List Char)} (filled : ∀ word ∈ words, word ≠ []) :
    ∃ inserted, WrittenOf words inserted (lowerFirst (joinAfter ' ' words)) := by
  match words with
  | [] => exact ⟨0, .nothing⟩
  | [] :: later => exact absurd rfl (filled [] List.mem_cons_self)
  | (first :: rest) :: later =>
      have begins : separator ' ' (first :: rest) = [] := rfl
      rw [joinAfter, begins, List.nil_append]
      obtain ⟨c, same, opens⟩ := exists_opens first rest
        (joinAfter ((capitalize (first :: rest)).getLastD ' ') later)
      have ends : (c :: rest).getLast? = some ((c :: rest).getLastD ' ') :=
        getLast?_append (List.cons_ne_nil c rest) [] ' '
      have alike : ∀ word, later.head? = some word →
          separator ((capitalize (first :: rest)).getLastD ' ') word =
            separator ((c :: rest).getLastD ' ') word := by
        intro word next
        obtain ⟨others, rfl⟩ := List.head?_eq_some_iff.1 next
        cases rest with
        | nil => exact separator_of_opens opens rfl
        | cons second rest => rfl
      obtain ⟨inserted, goesOn⟩ :=
        exists_goesOn (fun word inside => filled word (List.mem_cons_of_mem _ inside)) ends alike
      rw [same]
      exact ⟨inserted, .words opens goesOn⟩

theorem folded_flatten_nameWords (name : List Char) :
    folded (nameWords name).flatten = folded name := by
  have word : ∀ c ∈ name, (c.isAlphanum && isWordChar c) = c.isAlphanum := by
    intro c _
    cases letter : c.isAlphanum <;> simp [isWordChar, letter]
  rw [flatten_nameWords, folded, List.filter_filter, List.filter_congr word, folded]

/-- An identifier has nothing but its letters and digits between its underscores. -/
theorem map_toLower_filter {result : List Char}
    (chars : ∀ c ∈ result, c.isAlphanum = true ∨ c = '_') :
    (result.filter (· ≠ '_')).map Char.toLower = folded result := by
  rw [folded]
  refine congrArg _ (List.filter_congr fun c inside => ?_)
  rcases chars c inside with letter | rfl
  · have other : c ≠ '_' := by
      rintro rfl
      exact absurd letter (by decide)
    rw [letter, decide_eq_true other]
  · decide

/-- Whatever a name holds, its identifier keeps the words of the name. -/
theorem identifier_keepsWords (name : String) :
    KeepsWords name.toList (identifier name).toList := by
  have chars : ∀ c ∈ (identifier name).toList, c.isAlphanum = true ∨ c = '_' := fun c inside => by
    simpa [isWordChar] using isWord_identifier name c inside
  have filled : ∀ word ∈ nameWords name.toList, word ≠ [] := fun _ => ne_nil_of_mem_nameWords
  obtain ⟨inserted, written⟩ := exists_writtenOf filled
  have result : (identifier name).toList = lowerFirst (joinAfter ' ' (nameWords name.toList)) :=
    String.toList_ofList
  rw [← result] at written
  refine ⟨chars, ?_, nameWords name.toList, inserted, parted_nameWords _, written, ?_⟩
  · rw [map_toLower_filter chars, written.folded_eq, folded_flatten_nameWords]
  · rw [written.count_eq, flatten_nameWords, List.count_filter (by decide)]

example : identifier "COB-ID SYNC message" = "COB_ID_SYNCMessage" := by
  decide

end Canopen.CName
