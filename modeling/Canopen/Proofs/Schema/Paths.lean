import Canopen.Proofs.Acceptance
import Canopen.Proofs.Schema.Places

/-!
# Paths in writing

An issue is told together with the path to its place, in which the shape behind the position of an
object is left out.  A shape is told by its spelling there, so that a key of the document that is
spelled like a shape is left out, too.
-/

namespace Canopen.Schema

namespace Step

/-- A step in front of all others. -/
def leading : Step → String
  | position index => "[" ++ Number.decimal index ++ "]"
  | step => step.text

/-- A step behind another one. -/
def following : Step → String
  | position index => "[" ++ Number.decimal index ++ "]"
  | step => "." ++ step.text

end Step

/-- Steps behind another one. -/
def renderedBehind : List Step → String
  | [] => ""
  | step :: rest => step.following ++ renderedBehind rest

/-- A path in writing: positions in brackets, everything else with points in between. -/
def rendered : List Step → String
  | [] => ""
  | step :: rest => step.leading ++ renderedBehind rest

/-- The path without what stands behind the position in the list of objects. -/
def untagged : List Step → List Step
  | first :: .position index :: tag :: rest =>
      if first = .key "objects" then first :: .position index :: rest
      else first :: .position index :: tag :: rest
  | path => path

/-- The path names the shape of an object, which is no place of the document. -/
def IsTagged (path : List Step) : Prop :=
  ∃ position shape rest, path = .key "objects" :: .position position :: .shape shape :: rest

/-- No step is spelled like a shape. -/
def Plain (path : List Step) : Prop :=
  ∀ step ∈ path, step.isShapeName = false

/-- Where an issue is found and how its place is told. -/
structure NamesPlace (document : Value) (issue : Issue) : Prop where
  /-- Nothing but the shape of an object is taken from the path. -/
  tag : untagged issue.path = issue.path ∨ IsTagged issue.path
  /-- What is left leads to a place of the document. -/
  found : FoundIn document ⟨untagged issue.path, issue.problem⟩
  /-- If no key is spelled like a shape, then the place is told by exactly this path. -/
  whole : Plain (untagged issue.path) → issue.detail.location = rendered (untagged issue.path)
  /-- A key that is spelled like a shape is the last step to an unknown field, and is left out. -/
  cut : ∀ name, .key name ∈ untagged issue.path → (Step.key name).isShapeName = true →
    issue.problem = .unknownField ∧ ∃ front, untagged issue.path = front ++ [.key name] ∧
      issue.detail.location = rendered front
  /-- Every other key is told. -/
  told : ∀ name, .key name ∈ untagged issue.path → (Step.key name).isShapeName = false →
    name.toList <:+: issue.detail.location.toList

/-! ## Writing step by step -/

section

variable {path : List Step} {step : Step} {written name : String}

theorem addStep_leading (plain : step.isShapeName = false) :
    Detail.addStep "" step = step.leading := by
  cases step with
  | key name =>
      rw [Detail.addStep, if_neg (Bool.eq_false_iff.1 plain)]
      rfl
  | position index =>
      rw [Detail.addStep, String.empty_append]
      rfl
  | shape selected => cases plain

theorem addStep_following (plain : step.isShapeName = false) (filled : written ≠ "") :
    Detail.addStep written step = written ++ step.following := by
  cases step with
  | key name =>
      rw [Detail.addStep, if_neg (Bool.eq_false_iff.1 plain), if_neg, String.append_assoc]
      · rfl
      · rwa [String.isEmpty_iff]
  | position index =>
      simp only [Detail.addStep, Step.following, String.append_assoc]
  | shape selected => cases plain

theorem addStep_of_isShapeName (shape : step.isShapeName = true) :
    Detail.addStep written step = written := by
  cases step with
  | key name => rw [Detail.addStep, if_pos shape]
  | position index => cases shape
  | shape selected => rfl

theorem append_ne_empty (filled : written ≠ "") (rest : String) : written ++ rest ≠ "" := by
  intro empty
  exact filled (String.append_eq_empty_iff.1 empty).1

theorem foldl_addStep (plain : Plain path) (filled : written ≠ "") :
    path.foldl Detail.addStep written = written ++ renderedBehind path := by
  induction path generalizing written with
  | nil => rw [List.foldl_nil, renderedBehind, String.append_empty]
  | cons step rest ih =>
      obtain ⟨here, later⟩ := List.forall_mem_cons.1 plain
      rw [List.foldl_cons, addStep_following here filled, ih later (append_ne_empty filled _),
        renderedBehind, String.append_assoc]

/-- Unless the path begins with an empty key and goes on, it is written in full. -/
theorem foldl_addStep_eq_rendered (plain : Plain path)
    (starts : ∀ step rest, path = step :: rest → rest = [] ∨ step.leading ≠ "") :
    path.foldl Detail.addStep "" = rendered path := by
  cases path with
  | nil => rfl
  | cons step rest =>
      obtain ⟨here, later⟩ := List.forall_mem_cons.1 plain
      rw [List.foldl_cons, addStep_leading here, rendered]
      rcases starts step rest rfl with rfl | filled
      · exact String.append_empty.symm
      · exact foldl_addStep later filled

theorem infix_renderedBehind (inside : .key name ∈ path) :
    name.toList <:+: (renderedBehind path).toList := by
  induction path with
  | nil => cases inside
  | cons step rest ih =>
      rw [renderedBehind, String.toList_append]
      rcases List.mem_cons.1 inside with rfl | later
      · have ends : name.toList <:+ (Step.key name).following.toList := by
          rw [show (Step.key name).following = "." ++ name from rfl, String.toList_append]
          exact List.suffix_append _ _
        exact ends.isInfix.trans (List.prefix_append _ _).isInfix
      · exact (ih later).trans (List.suffix_append _ _).isInfix

theorem infix_rendered (inside : .key name ∈ path) : name.toList <:+: (rendered path).toList := by
  cases path with
  | nil => cases inside
  | cons step rest =>
      rw [rendered, String.toList_append]
      rcases List.mem_cons.1 inside with rfl | later
      · exact (List.prefix_append _ _).isInfix
      · exact (infix_renderedBehind later).trans (List.suffix_append _ _).isInfix

end

/-! ## Paths of issues -/

theorem not_isShapeName_of_mem_knownKeys {name : String} (known : name ∈ knownKeys) :
    (Step.key name).isShapeName = false :=
  (forall_mem_of_all rfl : ∀ name ∈ knownKeys, (Step.key name).isShapeName = false) name known

theorem ne_empty_of_mem_knownKeys {name : String} (known : name ∈ knownKeys) : name ≠ "" := by
  rintro rfl
  revert known
  decide

/-- The step to a key that is no text is never spelled like a shape. -/
theorem not_isShapeName_stepOfKey (key : Value) : (stepOfKey key).isShapeName = false := by
  have inspected : (Step.key key.inspect).isShapeName = false := by
    rw [Step.isShapeName, Value.ofName?_inspect, Option.isSome_none]
  unfold stepOfKey
  split
  · rfl
  · rfl
  · split
    · rfl
    · split
      · decide
      · exact inspected
  · exact inspected

namespace FoundIn

variable {value : Value} {issue : Issue}

/-- A path that goes on does not begin with an empty key. -/
theorem starts (found : FoundIn value issue) {step : Step} {rest : List Step}
    (path : issue.path = step :: rest) : rest = [] ∨ step.leading ≠ "" := by
  cases found with
  | here problem => cases path
  | field content known given below =>
      cases path
      exact .inr (ne_empty_of_mem_knownKeys known)
  | item listed there below =>
      cases path
      exact .inr (append_ne_empty (append_ne_empty (by decide) _) _)
  | missing content known absent =>
      cases path
      exact .inl rfl
  | unknown content present =>
      cases path
      exact .inl rfl
  | notText content present other =>
      cases path
      exact .inl rfl

/-- Only the last step to an unknown field can be spelled like a shape. -/
theorem plain_or_unknown (found : FoundIn value issue) :
    Plain issue.path ∨ issue.problem = .unknownField ∧ ∃ front name,
      issue.path = front ++ [.key name] ∧ (Step.key name).isShapeName = true ∧ Plain front := by
  induction found with
  | here value problem => exact .inl (List.forall_mem_nil _)
  | field content known given below ih =>
      have here := not_isShapeName_of_mem_knownKeys known
      rcases ih with plain | ⟨unknown, front, name, path, shape, plain⟩
      · exact .inl (List.forall_mem_cons.2 ⟨here, plain⟩)
      · exact .inr ⟨unknown, _ :: front, name, congrArg _ path, shape,
          List.forall_mem_cons.2 ⟨here, plain⟩⟩
  | item listed there below ih =>
      rcases ih with plain | ⟨unknown, front, name, path, shape, plain⟩
      · exact .inl (List.forall_mem_cons.2 ⟨rfl, plain⟩)
      · exact .inr ⟨unknown, _ :: front, name, congrArg _ path, shape,
          List.forall_mem_cons.2 ⟨rfl, plain⟩⟩
  | missing content known absent =>
      exact .inl (List.forall_mem_singleton.2 (not_isShapeName_of_mem_knownKeys known))
  | @unknown value inner fields name content present =>
      cases shape : (Step.key name).isShapeName with
      | false => exact .inl (List.forall_mem_singleton.2 shape)
      | true => exact .inr ⟨rfl, [], name, rfl, shape, List.forall_mem_nil _⟩
  | notText content present other =>
      exact .inl (List.forall_mem_singleton.2 (not_isShapeName_stepOfKey _))

end FoundIn

section

variable {document : Value} {issue : Issue}

theorem untagged_of_short {path : List Step} (short : path.length ≤ 1) : untagged path = path := by
  match path with
  | [] => rfl
  | [_] => rfl

namespace FoundInDocument

theorem tag (found : FoundInDocument document issue) :
    Schema.untagged issue.path = issue.path ∨ IsTagged issue.path := by
  cases found with
  | outside found short => exact .inl (untagged_of_short short)
  | inside listed found =>
      cases found with
      | here => exact .inl rfl
      | selected shape below => exact .inr ⟨_, shape, _, rfl⟩

/-- Without the shape the path leads to the place in the document. -/
theorem untagged (found : FoundInDocument document issue) :
    FoundIn document ⟨untagged issue.path, issue.problem⟩ := by
  cases found with
  | outside found short =>
      rw [untagged_of_short short]
      exact found
  | inside listed found =>
      obtain ⟨content, given, listed, there⟩ := listed
      cases found with
      | here => exact .field content (by decide) given (.item listed there (.here _ _))
      | selected shape below =>
          exact .field content (by decide) given (.item listed there below)

/-- The shape of an object adds nothing to the path in writing. -/
theorem location_eq (found : FoundInDocument document issue) :
    issue.detail.location = (Schema.untagged issue.path).foldl Detail.addStep "" := by
  cases found with
  | outside found short =>
      rw [untagged_of_short short]
      rfl
  | inside listed found =>
      cases found with
      | here => rfl
      | selected shape below => rfl

theorem namesPlace_of_plain (found : FoundInDocument document issue)
    (plain : Plain (Schema.untagged issue.path)) : NamesPlace document issue := by
  have whole : issue.detail.location = rendered (Schema.untagged issue.path) := by
    rw [found.location_eq]
    exact foldl_addStep_eq_rendered plain fun step rest same => found.untagged.starts same
  refine ⟨found.tag, found.untagged, fun _ => whole, fun name among shape => ?_,
    fun name among _ => ?_⟩
  · rw [plain _ among] at shape
    cases shape
  · rw [whole]
    exact infix_rendered among

theorem namesPlace_of_unknown (found : FoundInDocument document issue)
    (unknown : issue.problem = .unknownField) {front : List Step} {last : String}
    (path : Schema.untagged issue.path = front ++ [.key last])
    (shape : (Step.key last).isShapeName = true) (plain : Plain front) :
    NamesPlace document issue := by
  have starts (step : Step) (rest : List Step) (same : front = step :: rest) :
      rest = [] ∨ step.leading ≠ "" := by
    have further : Schema.untagged issue.path = step :: (rest ++ [.key last]) := by
      rw [path, same, List.cons_append]
    exact .inr ((found.untagged.starts further).resolve_left (by simp))
  have cut : issue.detail.location = rendered front := by
    rw [found.location_eq, path, List.foldl_append, List.foldl_cons, List.foldl_nil,
      addStep_of_isShapeName shape]
    exact foldl_addStep_eq_rendered plain starts
  have split (name : String) (among : .key name ∈ Schema.untagged issue.path) :
      .key name ∈ front ∨ name = last := by
    rw [path] at among
    simpa using among
  refine ⟨found.tag, found.untagged, fun whole => ?_, fun name among spelled => ?_,
    fun name among other => ?_⟩
  · have none := whole (.key last) (by rw [path]; simp)
    rw [none] at shape
    cases shape
  · rcases split name among with before | rfl
    · rw [plain _ before] at spelled
      cases spelled
    · exact ⟨unknown, front, path, cut⟩
  · rcases split name among with before | rfl
    · rw [cut]
      exact infix_rendered before
    · rw [other] at shape
      cases shape

end FoundInDocument

/-- The place of an issue is told by its path in the document; only an unknown field whose key is
spelled like a shape is told by the path in front of it. -/
theorem read_namesPlace (among : issue ∈ (read document).issues) : NamesPlace document issue := by
  have found := each_read document issue among
  rcases found.untagged.plain_or_unknown with plain | ⟨unknown, front, last, path, shape, plain⟩
  · exact found.namesPlace_of_plain plain
  · exact found.namesPlace_of_unknown unknown path shape plain

/-- A document with an issue inside an object, and another one with a key like a shape. -/
theorem read_namesPlace_subindex :
    NamesPlace (Example.mapping [("objects", .list [Example.mapping [("index", .int 1),
      ("object_type", .int 9), ("sub_entries", .list [Example.mapping [("name", .text "A")]])]])])
      ⟨[.key "objects", .position 0, .shape .record, .key "sub_entries", .position 0,
        .key "subindex"], .missing⟩ :=
  read_namesPlace (by decide)

/-- An unknown field called like a shape is told as if the document as a whole was wrong. -/
theorem location_without_key :
    ∃ issue ∈ (read (Example.mapping [("VAR", .int 1)])).issues,
      untagged issue.path = [.key "VAR"] ∧ rendered (untagged issue.path) = "VAR" ∧
      issue.detail.location = "" :=
  ⟨⟨[.key "VAR"], .unknownField⟩, by decide, by decide, by decide, by decide⟩

end

end Canopen.Schema
