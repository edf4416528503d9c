import Canopen.Schema.Reader

/-!
# No refusal without an issue

A value is refused only where something is wrong with it: whatever a reader refuses, it names an issue
for.  So a document without issues is an object dictionary.
-/

namespace Canopen.Schema

variable {α β : Type}

/-- If the value is refused, then there are issues. -/
def Checked.Explained (value : Checked α) : Prop :=
  value ≠ .faulty []

namespace Checked

theorem explained_sound (value : α) : (sound value).Explained :=
  nofun

theorem explained_problem (found : Problem) : (problem found : Checked α).Explained :=
  nofun

theorem Explained.andThen {value : Checked α} {next : α → Checked β} (first : value.Explained)
    (onward : ∀ result, (next result).Explained) : (value.andThen next).Explained := by
  cases value with
  | sound result => exact onward result
  | faulty issues =>
      intro nothing
      cases nothing
      exact first rfl

theorem Explained.apply {f : Checked (α → β)} {value : Checked α} (first : f.Explained)
    (second : value.Explained) : (f.apply value).Explained := by
  intro nothing
  have none := congrArg issues nothing
  rw [issues_apply] at none
  obtain ⟨fromFirst, fromSecond⟩ := List.append_eq_nil_iff.1 none
  cases f with
  | faulty issues => exact first (congrArg faulty fromFirst)
  | sound f =>
      cases value with
      | faulty issues => exact second (congrArg faulty fromSecond)
      | sound value => cases nothing

theorem Explained.refuseIf {value : Checked α} (first : value.Explained) (more : List Issue) :
    (value.refuseIf more).Explained := by
  intro nothing
  have none := congrArg issues nothing
  rw [issues_refuseIf] at none
  obtain ⟨fromFirst, rfl⟩ := List.append_eq_nil_iff.1 none
  cases value with
  | faulty issues => exact first (congrArg faulty fromFirst)
  | sound result => cases nothing

theorem Explained.under {value : Checked α} (first : value.Explained) (step : Step) :
    (value.under step).Explained := by
  cases value with
  | sound result => exact explained_sound result
  | faulty issues =>
      intro nothing
      have none : issues = [] := by simpa [Checked.under] using nothing
      cases none
      exact first rfl

end Checked

open Checked

/-! ## Parts of every reader -/

theorem Checked.Explained.checkKeys {checked : Checked α} (first : checked.Explained)
    (fields : Fields) : (checkKeys fields checked).Explained := by
  unfold Schema.checkKeys
  split
  · exact explained_problem _
  · exact first

/-! ## Single fields -/

end Canopen.Schema
