import Canopen.Proofs.Yaml.Building
import Canopen.Yaml.Value
import Mathlib.Data.List.Induction

/-!
# Room for nested collections

Building the nodes needs room for all collections that are open at once.  Where there is enough of
it, it makes no difference how much there is; otherwise the text is refused for that reason, and for
no other one.
-/

namespace Canopen.Yaml

open Builder (stepWithin)

/-- Behind some of the tokens, more collections are open inside each other than there is room for. -/
def TooDeep (room : Nat) (read : List Token) : Prop :=
  ∃ done rest builder, read = done ++ rest ∧ done.foldlM Builder.step {} = .ok builder ∧
    room < builder.depth

variable {room larger : Nat} {read : List Token} {token : Token}

theorem TooDeep.mono (deep : TooDeep larger read) (less : room ≤ larger) : TooDeep room read := by
  obtain ⟨done, rest, builder, spelled, built, deep⟩ := deep
  exact ⟨done, rest, builder, spelled, built, Nat.lt_of_le_of_lt less deep⟩

theorem not_tooDeep_nil (room : Nat) : ¬TooDeep room [] := by
  rintro ⟨done, rest, builder, spelled, built, deep⟩
  obtain ⟨rfl, -⟩ := List.append_eq_nil_iff.1 spelled.symm
  cases built
  exact absurd deep (Nat.not_lt_zero room)

/-- One token more is read too deep if it opens too many collections, or if those before it do. -/
theorem tooDeep_append_singleton :
    TooDeep room (read ++ [token]) ↔ TooDeep room read ∨
      ∃ builder, (read ++ [token]).foldlM Builder.step {} = .ok builder ∧ room < builder.depth := by
  constructor
  · rintro ⟨done, rest, builder, spelled, built, deep⟩
    cases rest using List.reverseRecOn with
    | nil =>
        rw [List.append_nil] at spelled
        exact .inr ⟨builder, spelled ▸ built, deep⟩
    | append_singleton rest last =>
        rw [← List.append_assoc] at spelled
        exact .inl ⟨done, rest, builder, (List.append_singleton_inj.1 spelled).1, built, deep⟩
  · rintro (⟨done, rest, builder, rfl, built, deep⟩ | ⟨builder, built, deep⟩)
    · exact ⟨done, rest ++ [token], builder, List.append_assoc _ _ _, built, deep⟩
    · exact ⟨read ++ [token], [], builder, (List.append_nil _).symm, built, deep⟩

theorem foldlM_append_singleton (step : Builder → Token → Result Builder) (read : List Token)
    (token : Token) (start : Builder) :
    (read ++ [token]).foldlM step start = read.foldlM step start >>= fun builder =>
      step builder token := by
  rw [List.foldlM_append]
  exact congrArg _ (funext fun builder => bind_pure _)

/-- The room for collections only tells whether they are nested too deep. -/
theorem foldlM_stepWithin (room : Nat) (read : List Token) :
    ¬TooDeep room read ∧ read.foldlM (stepWithin room) {} = read.foldlM Builder.step {} ∨
      TooDeep room read ∧ read.foldlM (stepWithin room) {} = .error (.scalar .tooDeep) := by
  induction read using List.reverseRecOn with
  | nil => exact .inl ⟨not_tooDeep_nil room, rfl⟩
  | append_singleton read token ih =>
      rw [tooDeep_append_singleton, foldlM_append_singleton, foldlM_append_singleton]
      rcases ih with ⟨shallow, same⟩ | ⟨deep, fails⟩
      · rw [same]
        cases read.foldlM Builder.step {} with
        | error fault => exact .inl ⟨by simp [shallow, bind, Except.bind], rfl⟩
        | ok builder =>
            change (_ ∧ builder.stepWithin room token = builder.step token) ∨
              _ ∧ builder.stepWithin room token = _
            rw [stepWithin]
            cases stepped : builder.step token with
            | error fault => exact .inl ⟨by simp [shallow, bind, Except.bind, stepped], rfl⟩
            | ok after =>
                by_cases deep : room < after.depth
                · exact .inr ⟨.inr ⟨after, stepped, deep⟩, if_pos deep⟩
                · refine .inl ⟨?_, if_neg deep⟩
                  rintro (before | ⟨_, built, further⟩)
                  · exact shallow before
                  · cases stepped.symm.trans built
                    exact deep further
      · exact .inr ⟨.inl deep, by rw [fails]; rfl⟩

theorem nodesOf_of_tooDeep (deep : TooDeep room read) (fault : Option Fault) :
    nodesOf room read fault = .error (.scalar .tooDeep) := by
  rcases foldlM_stepWithin room read with ⟨shallow, -⟩ | ⟨-, fails⟩
  · exact absurd deep shallow
  · rw [nodesOf, fails]
    rfl

variable {text : List Char}

theorem read_of_tooDeep (deep : TooDeep room (tokens text).1) :
    Yaml.read room text = .error (.scalar .tooDeep) := by
  unfold Yaml.read
  dsimp only
  rw [nodesOf_of_tooDeep deep]
  rfl

end Canopen.Yaml
