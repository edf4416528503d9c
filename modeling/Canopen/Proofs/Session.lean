import Canopen.Proofs.Compile.Run
import Canopen.Session

/-!
# Runs of a session are kept apart

What a step of a session gives depends on its document alone, save that the warnings of a compiled
image go behind those of its collector.  A step adds to its own collector only, so in the end each
collector holds what the runs that name it report, one run after another.
-/

namespace Canopen

/-- The image without its warnings. -/
def Image.withoutWarnings (image : Image) : Image :=
  { image with warnings := [] }

namespace Dictionary

variable (dictionary : Dictionary) (lengths : StringLengths) (name : Option String)
  (collected : List String)

/-- Messages collected before have no influence on the rest of the image. -/
theorem withoutWarnings_compile :
    (dictionary.compile lengths name collected).withoutWarnings =
      (dictionary.compile lengths name).withoutWarnings := by
  rw [compile_eq, compile_eq]
  rfl

/-- The warnings of a run go behind the messages collected before. -/
theorem warnings_compile :
    (dictionary.compile lengths name collected).warnings =
      collected ++ (dictionary.compile lengths name).warnings := by
  rw [compile_eq, compile_eq, Compile.imageOf, Compile.imageOf, List.nil_append]

end Dictionary

namespace Warning

/-- Strictness refuses messages exactly where there are some. -/
theorem strictly_eq (strict : Bool) (messages : List String) :
    strictly strict messages =
      if strict = true ∧ messages ≠ [] then .error messages else .ok messages := by
  cases strict <;> cases messages <;> rfl

end Warning

namespace Session

variable {room : Nat} {validator : Validator} {before after : Collectors} {step : Step}
  {steps : List Step} {result : Result} {results : List Result}

/-- What a new compiler with the same lengths makes of a dictionary. -/
def alone (validator : Validator) (dictionary : Dictionary) (name : Option String := none) :
    Image :=
  Compiler.compile { lengths := validator.compiler.lengths } dictionary name

/-- What a step gives, and how it leaves the collectors.  Of all that came before, only the messages
in its own collector have any influence. -/
inductive Isolated (room : Nat) (validator : Validator) (before : Collectors) :
    Step → Result → Collectors → Prop where
  /-- A document that cannot be read changes nothing. -/
  | unread {step : Step} {error : DocumentError} (failed : step.draft.read room = .error error) :
      Isolated room validator before step (.unread error) before
  | compiled {draft : Draft} {dictionary : Dictionary} {name : Option String} {image : Image}
      (read : draft.read room = .ok dictionary)
      (rest : image.withoutWarnings = (alone validator dictionary name).withoutWarnings)
      (warnings : image.warnings = (alone validator dictionary name).warnings) :
      Isolated room validator before (.compile draft name none) (.image image) before
  /-- The warnings of the run go behind the messages of the collector. -/
  | collected {draft : Draft} {dictionary : Dictionary} {name : Option String} {shared : String}
      {image : Image} {after : Collectors} (read : draft.read room = .ok dictionary)
      (rest : image.withoutWarnings = (alone validator dictionary name).withoutWarnings)
      (warnings : image.warnings = after shared)
      (own : after shared = before shared ++ (alone validator dictionary name).warnings)
      (others : ∀ other, other ≠ shared → after other = before other) :
      Isolated room validator before (.compile draft name (some shared)) (.image image) after
  | validated {draft : Draft} {dictionary : Dictionary} (read : draft.read room = .ok dictionary) :
      Isolated room validator before (.validate draft)
        (.messages (alone validator dictionary).warnings) before
  | allowed {draft : Draft} {dictionary : Dictionary} (read : draft.read room = .ok dictionary)
      (lenient : ¬ (validator.strict = true ∧ (alone validator dictionary).warnings ≠ [])) :
      Isolated room validator before (.enforce draft)
        (.messages (alone validator dictionary).warnings) before
  | refused {draft : Draft} {dictionary : Dictionary} (read : draft.read room = .ok dictionary)
      (strict : validator.strict = true) (some : (alone validator dictionary).warnings ≠ []) :
      Isolated room validator before (.enforce draft)
        (.refused (alone validator dictionary).warnings) before

/-- Every step of a session is isolated, each from where the one before has led. -/
inductive Runs (room : Nat) (validator : Validator) :
    Collectors → List Step → List Result → Collectors → Prop where
  | done (collectors : Collectors) : Runs room validator collectors [] [] collectors
  | step {before middle after : Collectors} {step : Step} {steps : List Step} {result : Result}
      {results : List Result} (first : Isolated room validator before step result middle)
      (rest : Runs room validator middle steps results after) :
      Runs room validator before (step :: steps) (result :: results) after

/-- What a step reports to a shared collector: the warnings that its document has alone. -/
def Step.reported (room : Nat) (validator : Validator) (collector : String) (step : Step) :
    List String :=
  match step, step.draft.read room with
  | .compile _ name (some shared), .ok dictionary =>
      if collector = shared then (alone validator dictionary name).warnings else []
  | _, _ => []

/-- What holds of a session as a whole, wherever it starts. -/
structure Independent (room : Nat) (validator : Validator) (before : Collectors) (steps : List Step)
    (results : List Result) (after : Collectors) : Prop where
  runs : Runs room validator before steps results after
  /-- In the end a collector holds what it held before and then what every step reports to it. -/
  collectors :
    ∀ collector, after collector =
      before collector ++ steps.flatMap fun step => step.reported room validator collector
  /-- Asked twice about a document, the validator finds the same, and refuses it exactly where it is
  strict and has found something. -/
  validators :
    ∀ draft dictionary, draft.read room = .ok dictionary →
      (run room validator after [.validate draft, .enforce draft]).1 =
        [.messages (alone validator dictionary).warnings,
          if validator.strict = true ∧ (alone validator dictionary).warnings ≠ [] then
            .refused (alone validator dictionary).warnings
          else .messages (alone validator dictionary).warnings]

/-! ## One step -/

/-- A strict validator refuses exactly the documents that have warnings. -/
theorem perform_enforce (room : Nat) (validator : Validator) (collectors : Collectors)
    {draft : Draft} {dictionary : Dictionary} (read : draft.read room = .ok dictionary) :
    perform room validator collectors (.enforce draft) =
      (if validator.strict = true ∧ (alone validator dictionary).warnings ≠ [] then
          .refused (alone validator dictionary).warnings
        else .messages (alone validator dictionary).warnings, collectors) := by
  have outcome : validator.enforce dictionary =
      if validator.strict = true ∧ (alone validator dictionary).warnings ≠ [] then
        .error (alone validator dictionary).warnings
      else .ok (alone validator dictionary).warnings := Warning.strictly_eq _ _
  by_cases strict : validator.strict = true ∧ (alone validator dictionary).warnings ≠ []
  · rw [if_pos strict] at outcome ⊢
    simp only [perform, Step.draft, read, outcome]
  · rw [if_neg strict] at outcome ⊢
    simp only [perform, Step.draft, read, outcome]

/-- Every step is isolated. -/
theorem isolated_perform (room : Nat) (validator : Validator) (before : Collectors) (step : Step) :
    Isolated room validator before step (perform room validator before step).1
      (perform room validator before step).2 := by
  cases read : step.draft.read room with
  | error error =>
      simp only [perform, read]
      exact .unread read
  | ok dictionary =>
      cases step with
      | compile draft name collector =>
          simp only [perform, read]
          cases collector with
          | none => exact .compiled read rfl rfl
          | some shared =>
              exact .collected read (dictionary.withoutWarnings_compile _ name _)
                (Collectors.put_self _ _ _).symm
                ((Collectors.put_self _ _ _).trans (dictionary.warnings_compile _ name _))
                (fun other apart => Collectors.put_of_ne apart _ _)
      | validate draft =>
          simp only [perform, read]
          exact .validated read
      | enforce draft =>
          have read : draft.read room = .ok dictionary := read
          rw [perform_enforce room validator before read]
          split
          · next strict => exact .refused read strict.1 strict.2
          · next lenient => exact .allowed read lenient

/-- A step adds to a collector what it reports there, and takes nothing away. -/
theorem Isolated.collector_eq (isolated : Isolated room validator before step result after)
    (collector : String) :
    after collector = before collector ++ step.reported room validator collector := by
  cases isolated with
  | unread failed => simp [Step.reported, failed]
  | compiled read rest warnings => simp [Step.reported]
  | @collected draft dictionary name shared image _ read rest warnings own others =>
      have read : (Step.compile draft name (some shared)).draft.read room = .ok dictionary := read
      by_cases same : collector = shared
      · simp [Step.reported, read, same, own]
      · simp [Step.reported, read, same, others collector same]
  | validated read => simp [Step.reported]
  | allowed read lenient => simp [Step.reported]
  | refused read strict some => simp [Step.reported]

/-! ## A whole session -/

/-- All steps of a session are isolated. -/
theorem runs_run (room : Nat) (validator : Validator) (before : Collectors) (steps : List Step) :
    Runs room validator before steps (run room validator before steps).1
      (run room validator before steps).2 := by
  induction steps generalizing before with
  | nil => exact .done before
  | cons step rest ih => exact .step (isolated_perform room validator before step) (ih _)

/-- In the end a collector holds what it held before and then the reports of all steps. -/
theorem Runs.collector_eq (runs : Runs room validator before steps results after)
    (collector : String) :
    after collector = before collector ++ steps.flatMap (Step.reported room validator collector) := by
  induction runs with
  | done collectors => rw [List.flatMap_nil, List.append_nil]
  | step first rest ih =>
      rw [ih, first.collector_eq, List.flatMap_cons, List.append_assoc]

/-- The runs of any session are independent of each other. -/
theorem run_independent (room : Nat) (validator : Validator) (before : Collectors)
    (steps : List Step) :
    Independent room validator before steps (run room validator before steps).1
      (run room validator before steps).2 where
  runs := runs_run room validator before steps
  collectors := (runs_run room validator before steps).collector_eq
  validators draft dictionary read := by
    have checked : perform room validator (run room validator before steps).2 (.validate draft) =
        (.messages (alone validator dictionary).warnings, (run room validator before steps).2) := by
      simp only [perform, Step.draft, read]
      rfl
    simp only [run, checked, perform_enforce room validator _ read]

end Session

end Canopen
