import Canopen.Schema.Problem

/-!
# Checked values

Reading a document goes on after a problem: the result is either the value or every issue, in the
order in which the fields are looked at.
-/

namespace Canopen.Schema

/-- A value read from a document, or all that is wrong with it. -/
inductive Checked (α : Type) where
  | sound (value : α)
  | faulty (issues : List Issue)
deriving DecidableEq, Repr

namespace Checked

variable {α β : Type}

/-- The issues of a result. -/
def issues : Checked α → List Issue
  | sound _ => []
  | faulty issues => issues

def toOption : Checked α → Option α
  | sound value => some value
  | faulty _ => none

/-- Go on with a value only when it is sound. -/
def andThen (value : Checked α) (next : α → Checked β) : Checked β :=
  match value with
  | sound value => next value
  | faulty issues => faulty issues

/-- Apply a checked function to a checked argument; the issues of both are kept. -/
def apply : Checked (α → β) → Checked α → Checked β
  | sound f, sound value => sound (f value)
  | f, value => faulty (f.issues ++ value.issues)

theorem issues_apply (f : Checked (α → β)) (value : Checked α) :
    (f.apply value).issues = f.issues ++ value.issues := by
  cases f <;> cases value <;> rfl

theorem apply_eq_sound {f : Checked (α → β)} {value : Checked α} {result : β}
    (done : f.apply value = sound result) :
    ∃ g v, f = sound g ∧ value = sound v ∧ result = g v := by
  cases f with
  | faulty _ => cases value <;> cases done
  | sound g =>
      cases value with
      | faulty _ => cases done
      | sound v =>
          cases done
          exact ⟨g, v, rfl, rfl, rfl⟩

theorem andThen_eq_sound {value : Checked α} {next : α → Checked β} {result : β}
    (done : value.andThen next = sound result) :
    ∃ middle, value = sound middle ∧ next middle = sound result := by
  cases value with
  | sound middle => exact ⟨middle, rfl, done⟩
  | faulty issues => cases done

/-- Further issues refuse the value. -/
def refuseIf (more : List Issue) (value : Checked α) : Checked α :=
  match value, more with
  | sound result, [] => sound result
  | value, more => faulty (value.issues ++ more)

theorem issues_refuseIf (more : List Issue) (value : Checked α) :
    (value.refuseIf more).issues = value.issues ++ more := by
  cases value <;> cases more <;> rfl

/-- Issues are found below a step. -/
def under (step : Step) : Checked α → Checked α
  | sound value => sound value
  | faulty issues => faulty (issues.map fun issue => { issue with path := step :: issue.path })

/-- Every result, or the issues of all of them. -/
def all : List (Checked α) → Checked (List α)
  | [] => sound []
  | value :: rest => ((sound List.cons).apply value).apply (all rest)

theorem issues_all (values : List (Checked α)) :
    (all values).issues = values.flatMap issues := by
  induction values with
  | nil => rfl
  | cons value rest ih =>
      rw [all, issues_apply, issues_apply, ih]
      rfl

/-- A problem at the place itself. -/
def problem (problem : Problem) : Checked α :=
  faulty [⟨[], problem⟩]

/-- A refusal at the place itself. -/
def ofFault : Except Fault α → Checked α
  | .ok value => sound value
  | .error fault => problem (.refused fault)

end Checked

end Canopen.Schema
