import Mathlib.Data.List.Induction
import Canopen.Files.Basic

/-!
# Where paths lead

A path leads to one place only, whatever files there are: where it leads can be told from its names,
and the files only decide whether it can be followed.  Names that differ in their ending lie side by
side.
-/

namespace Canopen

/-- Where a path leads if it can be followed. -/
def Path.location (working : Location) (path : Path) : Location :=
  (path.settle working).parts

namespace Files

/-- Whatever is there lies in a folder. -/
def IsTree (files : Files) : Prop :=
  ∀ location, files.at? location ≠ none → files.at? location.dropLast = some .folder

variable {files : Files}

/-! ## Following names -/

theorem walk_eq {position location : Location} {parts : List String}
    (leads : files.walk position parts = .ok location) :
    location = parts.foldl Path.step position := by
  induction parts generalizing position with
  | nil =>
      cases leads
      rfl
  | cons part rest ih =>
      rw [walk] at leads
      split at leads
      · exact ih leads
      · cases leads
      · cases leads

/-- A path that can be followed leads where its names say. -/
theorem locate_eq {path : Path} {location : Location} (leads : files.locate path = .ok location) :
    location = path.location files.working :=
  walk_eq leads

theorem stored?_of_locate {path : Path} {location : Location}
    (leads : files.locate path = .ok location) : files.stored? path = files.at? location := by
  rw [stored?, leads]

/-- The last name is followed where the names before it have led to a folder. -/
theorem walk_concat_eq_ok {position location : Location} {parts : List String} {part : String} :
    files.walk position (parts ++ [part]) = .ok location ↔
      ∃ before, files.walk position parts = .ok before ∧ files.at? before = some .folder ∧
        location = Path.step before part := by
  induction parts generalizing position with
  | nil =>
      simp only [List.nil_append, walk]
      constructor
      · intro leads
        split at leads
        · next folder =>
          cases leads
          exact ⟨position, rfl, folder, rfl⟩
        · cases leads
        · cases leads
      · rintro ⟨before, here, folder, rfl⟩
        cases here
        simp only [folder]
  | cons first rest ih =>
      rw [List.cons_append, walk, walk]
      split
      · exact ih
      · simp
      · simp

/-- A way through folders stays open when something is put where no folder is. -/
theorem walk_store {position target location : Location} {parts : List String} {stored : Stored}
    (open_ : files.walk position parts = .ok location)
    (taken : files.at? target ≠ some .folder) :
    (files.store target stored).walk position parts = .ok location := by
  induction parts generalizing position with
  | nil => exact open_
  | cons part rest ih =>
      rw [walk] at open_ ⊢
      split at open_
      · next folder =>
        have apart : position ≠ target := by
          rintro rfl
          exact taken folder
        rw [at?_store_of_ne files apart, folder]
        exact ih open_
      · cases open_
      · cases open_

/-! ## Trees -/

/-- It is enough to look at what is listed. -/
theorem isTree_of_entries
    (folders : ∀ entry ∈ files.entries, files.at? entry.1.dropLast = some .folder) :
    files.IsTree := by
  intro location there
  by_cases root : location = []
  · rw [root]
    rfl
  · rw [at?, if_neg root, ← Option.isSome_iff_ne_none, Option.isSome_iff_exists] at there
    obtain ⟨stored, found⟩ := there
    obtain ⟨earlier, later, split, _⟩ := List.lookup_eq_some_iff.1 found
    exact folders (location, stored) (by simp [split])

/-- Everything on the way to something is a folder. -/
theorem IsTree.folder_above (tree : files.IsTree) {above below : Location}
    (there : files.at? (above ++ below) ≠ none) (more : below ≠ []) :
    files.at? above = some .folder := by
  induction below using List.reverseRecOn with
  | nil => exact absurd rfl more
  | append_singleton rest last ih =>
      have folder := tree _ there
      rw [← List.append_assoc, List.dropLast_concat] at folder
      rcases List.eq_nil_or_concat rest with rfl | ⟨_, _, rfl⟩
      · rwa [List.append_nil] at folder
      · exact ih (by rw [folder]; exact nofun) (by simp)

/-- In a tree, names lead to what is there, unless they lead upward. -/
theorem IsTree.walk_of_plain (tree : files.IsTree) {position : Location} {parts : List String}
    (plain : ".." ∉ parts) (there : files.at? (position ++ parts) ≠ none) :
    files.walk position parts = .ok (position ++ parts) := by
  induction parts generalizing position with
  | nil => rw [walk, List.append_nil]
  | cons part rest ih =>
      rw [List.mem_cons, not_or] at plain
      have folder := tree.folder_above there (List.cons_ne_nil part rest)
      have step : Path.step position part = position ++ [part] :=
        Path.step_of_plain (Ne.symm plain.1)
      have onward : position ++ part :: rest = Path.step position part ++ rest := by
        rw [step, List.append_assoc]
        rfl
      rw [walk, folder, onward]
      exact ih plain.2 (onward ▸ there)

/-- In a tree, what is there is found by every path that leads to it and not upward. -/
theorem IsTree.stored?_of_plain (tree : files.IsTree) {path : Path} (plain : ".." ∉ path.parts)
    (there : files.at? (path.location files.working) ≠ none) :
    files.stored? path = files.at? (path.location files.working) := by
  have straight : path.location files.working =
      (if path.absolute then [] else files.working) ++ path.parts :=
    Path.foldl_step_of_plain plain _
  refine stored?_of_locate ?_
  rw [straight] at there ⊢
  exact tree.walk_of_plain plain there

end Files

/-! ## Names with an ending -/

namespace Text

/-- Characters that do not separate belong to the piece in front of them. -/
theorem pieces_append_plain {separates : Char → Bool} {word : List Char}
    (plain : ∀ c ∈ word, separates c = false) {text : List Char} {earlier : List (List Char)}
    {last : List Char} (cut : pieces separates text = earlier ++ [last]) :
    pieces separates (text ++ word) = earlier ++ [last ++ word] := by
  induction text generalizing earlier last with
  | nil =>
      have alone := pieces_append plain (show pieces separates [] = [] :: [] from rfl)
      rw [List.append_nil] at alone
      obtain ⟨rfl, same⟩ := List.append_inj' (show [] ++ [[]] = earlier ++ [last] from cut) rfl
      cases same
      exact alone
  | cons c rest ih =>
      cases separate : separates c with
      | true =>
          simp only [pieces, separate, ↓reduceIte] at cut
          rw [List.cons_append, pieces, if_pos separate]
          rcases earlier with _ | ⟨first, earlier⟩
          · exact absurd (List.cons.inj cut).2 (pieces_ne_nil separates rest)
          · obtain ⟨rfl, split⟩ := List.cons.inj cut
            rw [ih split]
            rfl
      | false =>
          cases split : pieces separates rest with
          | nil => exact absurd split (pieces_ne_nil separates rest)
          | cons piece later =>
              simp only [pieces, separate, split, Bool.false_eq_true, ↓reduceIte] at cut
              rw [List.cons_append, pieces, if_neg (by simp [separate])]
              rcases earlier with _ | ⟨first, earlier⟩
              · obtain ⟨rfl, rfl⟩ := List.cons.inj cut
                rw [ih (show pieces separates rest = [] ++ [piece] from split)]
                rfl
              · obtain ⟨rfl, rfl⟩ := List.cons.inj cut
                rw [ih (show pieces separates rest = (piece :: earlier) ++ [last] from split)]
                rfl

end Text

/-- An ending of names: it holds no separator, and its last character is no point. -/
structure IsEnding (ending : String) : Prop where
  plain : ∀ c ∈ ending.toList, (c == '/') = false
  closes : ∃ front last, ending.toList = front ++ [last] ∧ last ≠ '.'

theorem IsEnding.last_ne {ending : String} (closed : IsEnding ending) (stem : String)
    (front : List Char) (text : (stem ++ ending).toList = front ++ ['.']) : False := by
  obtain ⟨rest, last, split, other⟩ := closed.closes
  rw [String.toList_append, split, ← List.append_assoc] at text
  exact other (List.cons.inj (List.append_inj' text rfl).2).1

/-- A name with an ending is a name of its own. -/
theorem IsEnding.isVoid_eq {ending : String} (closed : IsEnding ending) (stem : String) :
    Path.isVoid (stem ++ ending) = false := by
  obtain ⟨rest, last, split, _⟩ := closed.closes
  have filled : stem ++ ending ≠ "" := by
    intro empty
    have nothing := congrArg String.toList empty
    rw [String.toList_append, split] at nothing
    simp at nothing
  have other : stem ++ ending ≠ "." := fun same =>
    closed.last_ne stem [] (congrArg String.toList same)
  simp [Path.isVoid, filled, other]

theorem IsEnding.ne_upward {ending : String} (closed : IsEnding ending) (stem : String) :
    stem ++ ending ≠ ".." := fun same =>
  closed.last_ne stem ['.'] (congrArg String.toList same)

/-- Texts that differ in their ending are paths that differ in the ending of their last name. -/
theorem Path.exists_ofText (text : String) :
    ∃ absolute parts stem, ∀ ending, IsEnding ending →
      Path.ofText (text ++ ending) = ⟨absolute, parts ++ [stem ++ ending]⟩ := by
  obtain ⟨earlier, last, cut⟩ :
      ∃ earlier last, Text.pieces (· == '/') text.toList = earlier ++ [last] :=
    ⟨_, _, (List.dropLast_concat_getLast (Text.pieces_ne_nil (· == '/') text.toList)).symm⟩
  refine ⟨text.toList.head? == some '/',
    (earlier.map String.ofList).filter fun part => !isVoid part, String.ofList last,
    fun ending closed => ?_⟩
  have pieces := Text.pieces_append_plain closed.plain cut
  have whole : String.ofList (last ++ ending.toList) = String.ofList last ++ ending := by
    rw [String.ofList_append, String.ofList_toList]
  have rooted : ((text ++ ending).toList.head? == some '/') = (text.toList.head? == some '/') := by
    rw [String.toList_append]
    cases text.toList with
    | cons c rest => rfl
    | nil =>
        obtain ⟨front, final, split, _⟩ := closed.closes
        cases characters : ending.toList with
        | nil => rfl
        | cons c rest =>
            have other := closed.plain c (characters ▸ List.mem_cons_self)
            simpa using other
  have kept : [String.ofList last ++ ending].filter (fun part => !isVoid part) =
      [String.ofList last ++ ending] := by simp [closed.isVoid_eq]
  rw [Path.ofText, rooted, String.toList_append, pieces, List.map_append, List.map_singleton,
    whole, List.filter_append, kept]

end Canopen
