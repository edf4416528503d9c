import Canopen.Document
import Canopen.Proofs.Schema.Places
import Canopen.Proofs.Schema.RoundTrip
import Canopen.Proofs.Schema.Spellings

/-!
# Shapes of objects

The shape of an object is looked at twice: first its name selects one of the shapes, and then it is
checked as a field of the shape that was selected.  The second look never finds anything wrong, so
that reading an object once by its shape is the same.
-/

namespace Canopen.Schema

variable {α : Type}

/-! ## Tags -/

/-- The tag of an object: the name of its shape, or else what is given for it, in writing. -/
def tag? (fields : Fields) : Option Value :=
  match Value.field? "object_type" fields with
  | none => some (.text Shape.var.name)
  | some given =>
      match readShape? given, given with
      | some shape, _ => some (.text shape.name)
      | none, .null => none
      | none, .halved text => some (.halved text)
      | none, given => some (.text given.shown)

/-- The shape with exactly this tag. -/
def choice? : Value → Option Shape
  | .text name => Shape.ofName? name
  | _ => none

/-- The shape that the tag of an object selects. -/
def selectByTag (fields : Fields) : Checked Shape :=
  match tag? fields with
  | none => Checked.problem .shapeMissing
  | some tag =>
      match choice? tag with
      | some shape => .sound shape
      | none => Checked.problem (.unknownShape tag.shown)

/-! ## Shapes as fields -/

section

variable (mismatch : Problem)

/-- The field for the shape of an object that has been taken for this shape; it tells a mismatch
where another shape or none is given. -/
def readOwnShape (shape : Shape) (value : Value) : Checked Shape :=
  if readShape? value = some shape then .sound shape else Checked.problem mismatch

/-- The shape as a field of an object; only a single value may leave it out. -/
def ownShape (fields : Fields) (shape : Shape) : Checked Shape :=
  readField fields "object_type" (if shape = .var then .sound .var else required)
    (readOwnShape mismatch shape)

/-- The fields of an object of a given shape, with the shape among them. -/
def readTypedFields (shape : Shape) (fields : Fields) : Checked (Shape × Entry) :=
  Checked.sound (fun index name disabled location extIo label type content =>
      (type, Entry.mk index name disabled location extIo label content))
    |>.apply (readField fields "index" required readIndex)
    |>.apply (readField fields "name" (.sound (.whole "")) readScript)
    |>.apply (readField fields "disabled" (.sound false) readTruth)
    |>.apply (readField fields "storage_location" (.sound "RAM") readIdentifier)
    |>.apply (readField fields "ext_io" (.sound false) readTruth)
    |>.apply (readField fields "count_label" (.sound (.whole "ALL")) readScript)
    |>.apply (ownShape mismatch fields shape)
    |>.apply (readContent fields shape)
    |>.refuseIf (unknownKeys (entryKeys ++ contentKeys shape) fields)
    |> checkKeys fields

/-- An object whose shape is selected by its tag and then checked as a field. -/
def readTypedEntry (value : Value) : Checked (Shape × Entry) :=
  match value.content with
  | .map fields =>
      (selectByTag fields).andThen fun shape =>
        (readTypedFields mismatch shape fields).under (.shape shape)
  | _ => Checked.problem .shapeMissing

end

/-- The shape that the fields of an object name; an object that names none is a single value. -/
def givenShape? (fields : Fields) : Option Shape :=
  match Value.field? "object_type" fields with
  | none => some .var
  | some given => readShape? given

/-- What is wrong with a value that names no shape. -/
def shapeProblem : Value → Problem
  | .null => .shapeMissing
  | given => .unknownShape given.shown

/-! ## Selecting -/

section

variable {fields : Fields}

theorem ofName?_of_readShape?_eq_none {text : String} (none : readShape? (.text text) = none) :
    Shape.ofName? text = .none := by
  cases name : Shape.ofName? text with
  | none => rfl
  | some shape =>
      have found := List.find?_some name
      have same : shape.name = text := eq_of_beq found
      rw [← same, readShape?_name] at none
      cases none

/-- What is given, in writing, is no name of a shape unless it names one. -/
theorem ofName?_shown {given : Value} (other : readShape? given = none)
    (whole : ∀ text, given ≠ .halved text) : Shape.ofName? given.shown = none := by
  cases given with
  | text text => exact ofName?_of_readShape?_eq_none other
  | halved text => exact absurd rfl (whole text)
  | date date => exact Shape.ofName?_of_beginsApart date.beginsApart_text
  | moment moment => exact Shape.ofName?_of_beginsApart moment.beginsApart_text
  | _ => exact Value.ofName?_inspect _

/-- Selecting by the tag is selecting by the shape that is named. -/
theorem selectByTag_eq (fields : Fields) : selectByTag fields = selectShape fields := by
  unfold selectByTag tag? selectShape
  cases Value.field? "object_type" fields with
  | none => rfl
  | some given =>
      dsimp only
      cases read : readShape? given with
      | some shape => simp only [choice?, Shape.ofName?_name]
      | none =>
          have other := ofName?_shown read
          cases given with
          | null => rfl
          | halved text => rfl
          | _ => simp only [choice?, other nofun]; rfl

theorem selectShape_eq_sound_iff {shape : Shape} :
    selectShape fields = .sound shape ↔ givenShape? fields = some shape := by
  unfold selectShape givenShape?
  cases Value.field? "object_type" fields with
  | none => simp
  | some given =>
      dsimp only
      cases readShape? given with
      | some named => simp
      | none => cases given <;> simp [Checked.problem]

theorem selectShape_of_unknown {given : Value}
    (present : Value.field? "object_type" fields = some given) (other : readShape? given = none) :
    selectShape fields = Checked.problem (shapeProblem given) := by
  unfold selectShape
  rw [present]
  simp only [other]
  cases given <;> rfl

/-- The field accepts the shape that was selected. -/
theorem ownShape_eq_sound (mismatch : Problem) {shape : Shape}
    (selected : givenShape? fields = some shape) :
    ownShape mismatch fields shape = .sound shape := by
  unfold givenShape? at selected
  rw [ownShape, readField, Checked.under_eq_sound_iff]
  cases present : Value.field? "object_type" fields with
  | none =>
      rw [present] at selected
      cases selected
      rfl
  | some given =>
      rw [present] at selected
      exact if_pos selected

end

/-! ## Reading once -/

namespace Checked

variable {β γ : Type}

/-- The value made into another one, if it is sound. -/
def map (f : α → β) (value : Checked α) : Checked β :=
  (sound f).apply value

theorem map_sound (f : α → β) (value : α) : (sound value).map f = sound (f value) :=
  rfl

theorem map_congr {f g : α → β} {value : Checked α}
    (same : ∀ result, value = sound result → f result = g result) :
    value.map f = value.map g := by
  cases value with
  | sound result => rw [map_sound, map_sound, same result rfl]
  | faulty issues => rfl

theorem map_apply (h : β → γ) (f : Checked (α → β)) (value : Checked α) :
    (f.apply value).map h = (f.map fun g a => h (g a)).apply value := by
  cases f <;> cases value <;> rfl

/-- A sound argument is known beforehand. -/
theorem apply_sound (f : Checked (α → β)) (value : α) :
    f.apply (sound value) = f.map fun g => g value := by
  cases f with
  | sound g => rfl
  | faulty issues => exact congrArg faulty (List.append_nil issues)

theorem map_refuseIf (f : α → β) (more : List Issue) (value : Checked α) :
    (value.refuseIf more).map f = (value.map f).refuseIf more := by
  cases value <;> cases more <;> rfl

theorem map_checkKeys (f : α → β) (fields : Fields) (value : Checked α) :
    (checkKeys fields value).map f = checkKeys fields (value.map f) := by
  unfold checkKeys
  split <;> rfl

theorem map_under (f : α → β) (step : Step) (value : Checked α) :
    (value.under step).map f = (value.map f).under step := by
  cases value <;> rfl

theorem map_andThen (f : β → γ) (value : Checked α) (next : α → Checked β) :
    (value.andThen next).map f = value.andThen fun result => (next result).map f := by
  cases value <;> rfl

end Checked

open Checked

section

variable (mismatch : Problem) {shape : Shape} {fields : Fields}

/-- If the field for the shape is right, then the other fields decide. -/
theorem readTypedFields_eq (own : ownShape mismatch fields shape = .sound shape) :
    readTypedFields mismatch shape fields =
      (readFields shape fields).map fun entry => (shape, entry) := by
  rw [readTypedFields, readFields, own, map_checkKeys, map_refuseIf]
  simp only [apply_sound, map_apply, map_sound]

theorem shape_of_readFields {entry : Entry} (done : readFields shape fields = .sound entry) :
    entry.content.shape = shape := by
  obtain ⟨_, _, _, _, _, _, content, _⟩ := readFields_eq_sound_iff.1 done
  exact (readContent_written content).1

/-- The field for the shape changes nothing: it holds the shape of what is read anyway. -/
theorem readTypedEntry_eq (value : Value) :
    readTypedEntry mismatch value =
      (readEntry value).map fun entry => (entry.content.shape, entry) := by
  unfold readTypedEntry readEntry
  cases value.content with
  | map fields =>
      dsimp only
      rw [selectByTag_eq, map_andThen]
      cases selected : selectShape fields with
      | faulty issues => rfl
      | sound shape =>
          have own := ownShape_eq_sound mismatch (selectShape_eq_sound_iff.1 selected)
          rw [andThen, andThen, readTypedFields_eq mismatch own, map_under]
          refine congrArg _ (map_congr fun entry done => ?_)
          rw [shape_of_readFields done]
  | _ => rfl

end

/-! ## Issues of the field -/

section

variable {fields : Fields}

end

/-! ## Spellings -/

end Canopen.Schema
