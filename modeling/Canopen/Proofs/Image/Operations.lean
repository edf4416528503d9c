import Canopen.Proofs.Image.Groups

/-!
# Sessions on an image

An image is changed by a few operations only.  Whatever is done to it in whatever order, its groups
are those that the operations have used.
-/

namespace Canopen

/-- What can be done to an image. -/
inductive Operation where
  | register (group : String)
  | store (group : String) (fields : List StorageField)
  | addObject (object : Descriptor)
  | addExtension (extension : Extension)
  | addRow (row : Row)
  | count (label : Script)
  | warn (messages : List String)

namespace Image

/-- The image after an operation. -/
def perform (image : Image) : Operation → Image
  | .register group => image.register group
  | .store group fields => image.store group fields
  | .addObject object => image.addObject object
  | .addExtension extension => image.addExtension extension
  | .addRow row => image.addRow row
  | .count label => image.count label
  | .warn messages => image.warn messages

/-- The image after a session that begins with an empty one. -/
def session (name : String) (operations : List Operation) : Image :=
  operations.foldl perform { name }

end Image

/-- What an operation puts into a group. -/
def Operation.use? : Operation → Option Image.Use
  | register group => some (group, [])
  | store group fields => some (group, fields)
  | _ => none

namespace Image

theorem perform_name (image : Image) (operation : Operation) :
    (image.perform operation).name = image.name := by
  cases operation with
  | count label =>
      rw [perform, count]
      split <;> rfl
  | _ => rfl

theorem session_name (name : String) (operations : List Operation) :
    (session name operations).name = name := by
  induction operations using List.reverseRecOn with
  | nil => rfl
  | append_singleton earlier last ih =>
      rw [session, List.foldl_append, List.foldl_cons, List.foldl_nil, perform_name]
      exact ih

/-- An operation leaves all groups as they are, or puts something into one. -/
theorem perform_groups (image : Image) (operation : Operation) :
    (image.perform operation).groups =
      match operation.use? with
      | some use => gather use.1 use.2 image.groups
      | none => image.groups := by
  cases operation with
  | register group => exact (appendFields_nil group _).symm
  | count label =>
      rw [perform, count]
      split <;> rfl
  | _ => rfl

/-- The groups after a session are those that its operations have used. -/
theorem session_groups (name : String) (operations : List Operation) :
    (session name operations).groups = groupsFrom (operations.filterMap Operation.use?) := by
  induction operations using List.reverseRecOn with
  | nil => rfl
  | append_singleton earlier last ih =>
      have step := perform_groups (session name earlier) last
      rw [session, List.foldl_append, List.foldl_cons, List.foldl_nil]
      change ((session name earlier).perform last).groups = _
      rw [step, ih, List.filterMap_append]
      cases used : last.use? with
      | none => simp [used]
      | some use => simp [used, gather_groupsFrom]

end Image

end Canopen
