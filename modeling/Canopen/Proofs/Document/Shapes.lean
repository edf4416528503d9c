import Canopen.Proofs.Acceptance
import Canopen.Proofs.Schema.Shapes

/-!
# Shapes in documents

What a document says about the shape of one of its objects: the shape that is selected is the shape
that the object gets, whichever spelling it has, and what names no shape is the only thing that is
told of the object.  A number that is too long to be written cannot be told of.
-/

namespace Canopen.Document

open Schema

variable {document object : Value} {position : Nat}

/-- No key of the document itself holds halves of characters. -/
def WholeKeys (document : Value) : Prop :=
  ∀ fields, document.content = .map fields → KeysWhole fields

/-- What is given names no shape, and this is all that is told of the object. -/
structure Refuses (mismatch : Problem) (document object : Value) (position : Nat) (given : Value) :
    Prop where
  only : readTypedEntry mismatch object = Checked.problem (shapeProblem given)
  /-- What is given cannot be told if a number in it is too long, so that the check ends. -/
  stopped : given.holdsTooLong = true → check document = .error (.scalar .unwritable)
  /-- Otherwise it is told at the object, and nothing else there. -/
  told : isUnwritable document = false → WholeKeys document →
    ∃ issues, check document = .error (.schema issues) ∧ ∀ path problem,
      ⟨.key "objects" :: .position position :: path, problem⟩ ∈ issues ↔
        path = [] ∧ problem = shapeProblem given

theorem mem_issues_andThen {α β : Type} {value : Checked α} {next : α → Checked β} {issue : Issue}
    (flat : ∀ result, (next result).Flat) (deep : issue.path ≠ []) :
    issue ∈ (value.andThen next).issues ↔ issue ∈ value.issues := by
  cases value with
  | faulty issues => rfl
  | sound result => exact iff_of_false (fun found => deep (flat result issue found)) List.not_mem_nil

theorem checkKeys_of_keysWhole {α : Type} {fields : Fields} (whole : KeysWhole fields)
    (checked : Checked α) : checkKeys fields checked = checked :=
  if_neg (Bool.eq_false_iff.1 whole)

theorem mem_issues_readObjects {fields : Fields} {list : Value} {items : List Value}
    (given : Value.field? "objects" fields = some list) (listed : items? list = some items)
    (there : items[position]? = some object) (path : List Step) (problem : Problem) :
    ⟨.key "objects" :: .position position :: path, problem⟩ ∈
        (readField fields "objects" (.sound []) (readItems readEntry)).issues ↔
      ⟨path, problem⟩ ∈ (readEntry object).issues := by
  rw [readField, given, Option.elim, Checked.issues_under, readItems, listed]
  dsimp only
  rw [List.mem_map]
  constructor
  · rintro ⟨inner, among, same⟩
    obtain ⟨other, item, here, found, behind, rfl⟩ := mem_issues_readAt.1 among
    cases same
    rw [there] at here
    cases here
    exact behind
  · intro found
    exact ⟨_, mem_issues_readAt.2 ⟨position, object, there, _, found, rfl⟩, rfl⟩

/-- The issues at an object of a document are those of the object. -/
theorem mem_issues_read (listed : ListedAt document position object) (whole : WholeKeys document)
    (path : List Step) (problem : Problem) :
    ⟨.key "objects" :: .position position :: path, problem⟩ ∈ (Schema.read document).issues ↔
      ⟨path, problem⟩ ∈ (readEntry object).issues := by
  obtain ⟨content, given, listed, there⟩ := listed
  rw [Schema.read, content]
  dsimp only
  rw [mem_issues_andThen flat_checkIndices (List.cons_ne_nil _ _),
    checkKeys_of_keysWhole (whole _ content), Checked.issues_refuseIf, Checked.issues_apply,
    Checked.issues_apply, List.mem_append, List.mem_append, List.mem_append,
    ← mem_issues_readObjects given listed there]
  -- the other issues stand at the document or at one of its keys
  have deep : ¬ (Step.key "objects" :: .position position :: path).length ≤ 1 := by simp
  constructor
  · rintro (((none | name) | found) | unknown)
    · cases none
    · exact absurd (short_readField "name" (isDefault_sound "OD") flat_readIdentifier _ name) deep
    · exact found
    · exact absurd (short_unknownKeys _ _ unknown) deep
  · exact fun found => .inl (.inr found)

/-! ## Refusals -/

theorem readEntry_of_unknown {fields : Fields} {given : Value}
    (content : object.content = .map fields)
    (present : Value.field? "object_type" fields = some given) (other : readShape? given = none) :
    readEntry object = Checked.problem (shapeProblem given) := by
  rw [readEntry, content]
  dsimp only
  rw [selectShape_of_unknown present other]
  rfl

/-- The check ends at an object whose shape is too long to be told. -/
theorem check_of_hasUnwritableShape (listed : ListedAt document position object)
    (unwritable : hasUnwritableShape object = true) :
    check document = .error (.scalar .unwritable) := by
  obtain ⟨content, given, listed, there⟩ := listed
  refine if_pos ?_
  rw [isUnwritable, content]
  dsimp only
  rw [given, Option.bind_some, listed, Option.any_some]
  exact List.any_eq_true.2 ⟨object, List.mem_of_getElem? there, unwritable⟩

theorem refuses (mismatch : Problem) (listed : ListedAt document position object) {fields : Fields}
    (content : object.content = .map fields) {given : Value}
    (present : Value.field? "object_type" fields = some given) (other : readShape? given = none) :
    Refuses mismatch document object position given := by
  have read : readEntry object = Checked.problem (shapeProblem given) :=
    readEntry_of_unknown content present other
  refine ⟨?_, fun long => ?_, fun writable whole => ?_⟩
  · rw [readTypedEntry_eq, read]
    rfl
  · refine check_of_hasUnwritableShape listed ?_
    rw [hasUnwritableShape, content]
    dsimp only
    rw [present, Option.any_some, other, long]
    rfl
  · have among := mem_issues_read listed whole
    rw [read] at among
    have told := (among [] (shapeProblem given)).2 List.mem_cons_self
    rw [check, writable]
    cases result : Schema.read document with
    | sound dictionary =>
        rw [result] at told
        cases told
    | faulty issues =>
        rw [result] at among
        refine ⟨issues, rfl, fun path problem => (among path problem).trans ?_⟩
        simp [Checked.problem, Checked.issues]

end Canopen.Document
