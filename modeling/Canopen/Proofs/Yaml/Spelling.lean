import Canopen.Proofs.Yaml.Results
import Canopen.Yaml.Scanner

/-!
# Faults of spelling

Cutting a text into tokens meets broken rules, and apart from them two things only: the code of a
character that does not exist, and a number of a version that is too long.
-/

namespace Canopen.Yaml

/-- What can be wrong with the spelling of a text although the rules are kept. -/
inductive IsSpelling : ScalarFault → Prop where
  | codeTooLarge : IsSpelling .codeTooLarge
  | noSuchCharacter : IsSpelling .noSuchCharacter
  | integerTooLong (digits : Nat) : IsSpelling (.integerTooLong digits)

/-- Nothing is wrong with the result but rules and spelling. -/
abbrev Spells {α : Type} (result : Result α) : Prop :=
  Leads (fun _ => True) IsSpelling result

variable {α β : Type}

theorem Spells.bind {result : Result α} (first : Spells result) {next : α → Result β}
    (onward : ∀ value, Spells (next value)) : Spells (result >>= next) :=
  Leads.bind first fun value _ => onward value

theorem Spells.map {result : Result α} (first : Spells result) (f : α → β) :
    Spells (result.map f) :=
  Leads.map first fun _ _ => trivial

/-- A fault is handed on. -/
theorem Spells.error {fault : Fault} (first : Spells (.error fault : Result α)) :
    Spells (.error fault : Result β) := by
  cases first with
  | malformed reason => exact .malformed reason
  | scalar allowed => exact .scalar allowed

/-! ## Scalars -/

namespace Scanner

end Scanner

end Canopen.Yaml
