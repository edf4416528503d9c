import Canopen.Yaml.Fault

/-!
# Where results lead

Of a result it is told what its value holds and which faults of scalars it may have; the rules of
the language may be broken anywhere.  Steps that follow each other are told of one by one.
-/

namespace Canopen.Yaml

variable {α β : Type}

/-- A value that holds something, broken rules, or a fault that may be. -/
inductive Leads (holds : α → Prop) (may : ScalarFault → Prop) : Result α → Prop where
  | ok {value : α} (held : holds value) : Leads holds may (.ok value)
  | malformed (reason : String) : Leads holds may (.error (.malformed reason))
  | scalar {fault : ScalarFault} (allowed : may fault) : Leads holds may (.error (.scalar fault))

variable {holds : α → Prop} {after : β → Prop} {may more : ScalarFault → Prop}

namespace Leads

variable {result : Result α}

theorem mono (leads : Leads holds may result) {weaker : α → Prop}
    (values : ∀ value, holds value → weaker value) (faults : ∀ fault, may fault → more fault) :
    Leads weaker more result := by
  cases leads with
  | ok held => exact .ok (values _ held)
  | malformed reason => exact .malformed reason
  | scalar allowed => exact .scalar (faults _ allowed)

/-- What holds may be weakened where the faults stay the same. -/
theorem imp (leads : Leads holds may result) {weaker : α → Prop}
    (values : ∀ value, holds value → weaker value) : Leads weaker may result :=
  leads.mono values fun _ allowed => allowed

theorem bind (leads : Leads holds may result) {next : α → Result β}
    (onward : ∀ value, holds value → Leads after may (next value)) :
    Leads after may (result >>= next) := by
  cases leads with
  | ok held => exact onward _ held
  | malformed reason => exact .malformed reason
  | scalar allowed => exact .scalar allowed

theorem map (leads : Leads holds may result) {f : α → β}
    (onward : ∀ value, holds value → after (f value)) : Leads after may (result.map f) := by
  cases leads with
  | ok held => exact .ok (onward _ held)
  | malformed reason => exact .malformed reason
  | scalar allowed => exact .scalar allowed

/-- What is told of a value under a condition is told beside the rest. -/
theorem given (leads : Leads holds may result) {condition : Prop} {further : α → Prop}
    (conditional : condition → Leads further may result) :
    Leads (fun value => (condition → further value) ∧ holds value) may result := by
  cases leads with
  | ok held =>
      refine .ok ⟨fun condition => ?_, held⟩
      cases conditional condition with
      | ok held => exact held
  | malformed reason => exact .malformed reason
  | scalar allowed => exact .scalar allowed

theorem and (leads : Leads holds may result) {further : α → Prop}
    (more : Leads further may result) :
    Leads (fun value => further value ∧ holds value) may result :=
  (leads.given fun _ : True => more).imp fun _ both => ⟨both.1 trivial, both.2⟩

end Leads

end Canopen.Yaml
