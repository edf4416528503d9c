import Canopen.Command.Run
import Canopen.Proofs.Compile.Run
import Canopen.Proofs.Yaml.Nesting

/-!
# Checking and generating accept the same files

A document is checked by one command and compiled for its files by another one.  Both succeed on the
documents that load and, when they are strict, compile without a warning.  A check leaves room for
one collection more inside the others, so a run that writes nothing tells the same as a check unless
it is just this collection that is too much.
-/

namespace Canopen

/-- The name of the image has no influence on its warnings. -/
theorem Dictionary.warnings_compile_name (dictionary : Dictionary) (lengths : StringLengths)
    (name : Option String) :
    (dictionary.compile lengths name).warnings = (dictionary.compile lengths).warnings := by
  rw [compile_eq, compile_eq]
  rfl

namespace Document

/-- In the text of a file, collections are nested too deep. -/
def NestsTooDeep (room : Nat) (files : Files) (path : Path) : Prop :=
  ∃ text, fileText files path = .ok text ∧ Yaml.TooDeep room (Yaml.tokens text.toList).1

variable {room larger : Nat} {files : Files} {path : Path}

theorem load_of_nestsTooDeep (deep : NestsTooDeep room files path) :
    load room files path = .error (.scalar .tooDeep) := by
  obtain ⟨text, content, deep⟩ := deep
  unfold load read root
  rw [content]
  dsimp only
  rw [Yaml.read_of_tooDeep deep]
  rfl

end Document

namespace Command

/-- The document of a file can be loaded with so much room for collections inside each other, and if
need be it compiles without a warning. -/
def Passes (room : Nat) (files : Files) (input : Path) (strict : Bool) : Prop :=
  ∃ dictionary, Document.load room files input = .ok dictionary ∧
    (strict = true → dictionary.compile.warnings = [])

/-- The command line checks a file and reports in a format that is supported. -/
def Checks (files : Files) (written : List String) (input : Path) (strict : Bool) : Prop :=
  ∃ request, readRequest files.working written = .ok (.validate request) ∧
    request.input = input ∧ request.strict = strict ∧
    (Report.Format.ofName? request.format).isSome = true

/-- The command line generates from a file without writing and with the usual length of strings. -/
def DryRuns (files : Files) (written : List String) (input : Path) (strict : Bool) : Prop :=
  ∃ request, readRequest files.working written = .ok (.generate request) ∧
    request.input = input ∧ request.strict = strict ∧ request.dryRun = true ∧
    request.stringLength = none ∧ request.output.forM (checkOutput files) = .ok ()

/-! ## What is shown -/

/-- The same host with a terminal that refuses nothing. -/
def Host.willing (host : Host) : Host :=
  { host with refuses := fun _ => false }

/-- The terminal refuses no lines that an outcome holds. -/
def Host.Takes (host : Host) (outcome : Outcome) : Prop :=
  ∀ screen : Screen, screen ⊆ outcome.output ++ outcome.errors → host.refuses screen = false

variable {host : Host} {files : Files} {input : Path} {strict : Bool} {written : List String}

@[simp]
theorem Host.shows_willing (host : Host) (screen : Screen) : host.willing.shows screen = true := by
  simp [Host.shows, Host.willing]

@[simp]
theorem concluding_willing (host : Host) (output errors : Screen) :
    Outcome.concluding host.willing output errors = { output, errors } := by
  simp [Outcome.concluding]

theorem Host.Takes.shows {outcome : Outcome} (takes : host.Takes outcome) {screen : Screen}
    (inside : screen ⊆ outcome.output ++ outcome.errors) : host.shows screen = true := by
  simp [Host.shows, takes screen inside]

theorem concluding_of_takes {output errors : Screen} (takes : host.Takes { output, errors }) :
    Outcome.concluding host output errors = { output, errors } := by
  have shows : host.shows output = true := takes.shows (List.subset_append_left _ _)
  simp [Outcome.concluding, shows]

theorem accepted_of_takes {request : Validation} {format : Report.Format} {warnings : List String}
    (takes : host.Takes (accepted host.willing request format warnings)) :
    accepted host request format warnings = accepted host.willing request format warnings := by
  unfold accepted at takes ⊢
  simp only [Host.shows_willing, concluding_willing, Bool.not_true, Bool.false_eq_true,
    if_false] at takes ⊢
  generalize (if warnings.isEmpty = true then []
    else Report.shown format warnings (some request.input) request.strict) = report at takes ⊢
  -- whatever comes after it, the report is among what is shown
  have shows : host.shows report = true := by
    refine takes.shows ?_
    split_ifs <;> simp
  simp only [shows, Bool.not_true, Bool.false_eq_true, if_false]
  split
  · rfl
  · next lenient =>
    rw [if_neg lenient] at takes
    split
    · rfl
    · next loud =>
      rw [if_neg loud] at takes
      exact concluding_of_takes takes

theorem validate_of_takes {request : Validation}
    (takes : host.Takes (validate host.willing files request)) :
    validate host files request = validate host.willing files request := by
  have room : host.willing.room = host.room := rfl
  unfold validate at takes ⊢
  rw [room] at takes ⊢
  cases supported : Report.Format.ofName? request.format with
  | none => rfl
  | some format =>
      rw [supported] at takes
      cases loaded : Document.load (host.room + 1) files request.input with
      | ok dictionary =>
          rw [loaded] at takes
          exact accepted_of_takes takes
      | error error => cases error <;> rfl

theorem generateFrom_of_takes {request : Generation} (dryRun : request.dryRun = true)
    {dictionary : Dictionary}
    (takes : host.Takes (generateFrom host.willing request dictionary files).1) :
    generateFrom host request dictionary files =
      generateFrom host.willing request dictionary files := by
  unfold generateFrom at takes ⊢
  dsimp only at takes ⊢
  split
  · rfl
  · next silent =>
    simp only [silent, emit, dryRun, if_true, concluding_willing] at takes ⊢
    rw [concluding_of_takes takes]
  · next warned =>
    simp only [warned, emit, dryRun, if_true, concluding_willing, Host.shows_willing] at takes ⊢
    have report : host.shows _ = true :=
      takes.shows (List.subset_append_of_subset_right _ (List.subset_append_right _ _))
    rw [if_pos report, concluding_of_takes takes]

/-- A dry run keeps no file from being loaded. -/
theorem generate_of_dryRun (host : Host) {request : Generation} (dryRun : request.dryRun = true) :
    generate host request files =
      match Document.load host.room files request.input with
      | .error error => (Outcome.ofFailure (Failure.ofDocument error) request.verbose, files)
      | .ok dictionary => generateFrom host request dictionary files := by
  have keeps : request.keepsFiles = false := by simp [Generation.keepsFiles, dryRun]
  unfold generate
  rw [keeps]
  cases request.existing? files <;> rfl

theorem generate_of_takes {request : Generation} (dryRun : request.dryRun = true)
    (takes : host.Takes (generate host.willing request files).1) :
    generate host request files = generate host.willing request files := by
  have room : host.willing.room = host.room := rfl
  rw [generate_of_dryRun _ dryRun, room] at takes
  rw [generate_of_dryRun _ dryRun, generate_of_dryRun _ dryRun, room]
  cases loaded : Document.load host.room files request.input with
  | ok dictionary =>
      rw [loaded] at takes
      exact generateFrom_of_takes dryRun takes
  | error error => rfl

/-! ## Outcomes -/

/-- A document that loads is a file. -/
theorem checkInput_of_load {room : Nat} {dictionary : Dictionary}
    (loaded : Document.load room files input = .ok dictionary) :
    checkInput files input = .ok () := by
  unfold Document.load Document.fileText at loaded
  unfold checkInput
  split
  · rfl
  · next folder =>
    simp only [folder] at loaded
    cases loaded
  · next nothing =>
    simp only [nothing] at loaded
    cases loaded

theorem exitCode_accepted (request : Validation) (format : Report.Format)
    (warnings : List String) :
    (accepted host.willing request format warnings).exitCode = 0 ↔
      (request.strict = true → warnings = []) := by
  rcases request with ⟨input, strict, quiet, name⟩
  cases strict <;> cases quiet <;> cases warnings <;> simp [accepted]

theorem exitCode_validate {request : Validation} {format : Report.Format}
    (supported : Report.Format.ofName? request.format = some format) :
    (validate host.willing files request).exitCode = 0 ↔
      Passes (host.room + 1) files request.input request.strict := by
  have room : host.willing.room = host.room := rfl
  unfold validate Passes
  rw [supported, room]
  cases loaded : Document.load (host.room + 1) files request.input with
  | ok dictionary => simp [exitCode_accepted]
  | error error => cases error <;> simp [refused]

theorem exitCode_emit {request : Generation} (dryRun : request.dryRun = true) (image : Image)
    (notes : Screen) : (emit host.willing request image notes files).1.exitCode = 0 := by
  rw [emit, if_pos dryRun, concluding_willing]

theorem exitCode_generateFrom {request : Generation} (dryRun : request.dryRun = true)
    (dictionary : Dictionary) :
    (generateFrom host.willing request dictionary files).1.exitCode = 0 ↔
      (request.strict = true → (dictionary.compile request.lengths request.name).warnings = []) := by
  unfold generateFrom Warning.strictly
  cases request.strict <;>
    cases found : (dictionary.compile request.lengths request.name).warnings <;>
      simp [found, exitCode_emit dryRun, Outcome.ofFailure, Failure.exitCode]

theorem exitCode_generate {request : Generation} (dryRun : request.dryRun = true)
    (lengths : request.stringLength = none) :
    (generate host.willing request files).1.exitCode = 0 ↔
      Passes host.room files request.input request.strict := by
  have room : host.willing.room = host.room := rfl
  have usual : request.lengths = defaultLength := by rw [Generation.lengths, lengths]
  rw [generate_of_dryRun _ dryRun, room]
  unfold Passes
  cases loaded : Document.load host.room files request.input with
  | ok dictionary => simp [exitCode_generateFrom dryRun, Dictionary.warnings_compile_name, usual]
  | error error => cases error <;> simp [Outcome.ofFailure, Failure.ofDocument, Failure.exitCode]

/-! ## Command lines -/

/-- A command line that makes no sense does not succeed; any other one is carried out. -/
theorem exitCode_run {request : Request} {room : Nat}
    (asks : readRequest files.working written = .ok request)
    (known : Passes room files input strict → request.check files = .ok ())
    (shown : host.Takes (perform host.willing request files).1 →
      perform host request files = perform host.willing request files)
    (ended : (perform host.willing request files).1.exitCode = 0 ↔ Passes room files input strict)
    (takes : host.Takes (run host.willing written files).1) :
    (run host written files).1.exitCode = 0 ↔ Passes room files input strict := by
  cases checked : request.check files with
  | ok done =>
      have performed (host : Host) : run host written files = perform host request files := by
        simp [run, asks, checked]
      rw [performed] at takes ⊢
      rw [shown takes, ended]
  | error error =>
      have failed : run host written files = (misused error, files) := by simp [run, asks, checked]
      rw [failed]
      constructor
      · intro succeeds
        cases succeeds
      · intro passes
        cases checked.symm.trans (known passes)

theorem Passes.checkInput {room : Nat} (passes : Passes room files input strict) :
    checkInput files input = .ok () := by
  obtain ⟨dictionary, loaded, -⟩ := passes
  exact checkInput_of_load loaded

/-- A check succeeds exactly on the documents that pass. -/
theorem Checks.exitCode (checks : Checks files written input strict)
    (takes : host.Takes (run host.willing written files).1) :
    (run host written files).1.exitCode = 0 ↔ Passes (host.room + 1) files input strict := by
  obtain ⟨request, asks, rfl, rfl, supported⟩ := checks
  obtain ⟨format, known⟩ := Option.isSome_iff_exists.1 supported
  refine exitCode_run asks Passes.checkInput (fun takes => ?_) (exitCode_validate known) takes
  exact congrArg (·, files) (validate_of_takes takes)

/-- A dry run succeeds exactly on the documents that pass. -/
theorem DryRuns.exitCode (runs : DryRuns files written input strict)
    (takes : host.Takes (run host.willing written files).1) :
    (run host written files).1.exitCode = 0 ↔ Passes host.room files input strict := by
  obtain ⟨request, asks, rfl, rfl, dryRun, lengths, output⟩ := runs
  refine exitCode_run asks (fun passes => ?_) (generate_of_takes dryRun)
    (exitCode_generate dryRun lengths) takes
  rw [Request.check, passes.checkInput]
  exact output

/-- The text does not look like an option. -/
def IsPlain (text : String) : Prop :=
  text.toList.head? ≠ some '-'

/-- What the exit codes of a check and of a dry run on the same file tell of each other. -/
structure Agree (host : Host) (files : Files) (input : Path) (strict : Bool)
    (checked generated : Int) : Prop where
  checks : checked = 0 ↔ Passes (host.room + 1) files input strict
  generates : generated = 0 ↔ Passes host.room files input strict
  onward : generated = 0 → checked = 0
  apart : ¬(checked = 0 ↔ generated = 0) →
    Document.NestsTooDeep host.room files input ∧ ¬Document.NestsTooDeep (host.room + 1) files input

theorem Passes.shallow {room : Nat} (passes : Passes room files input strict) :
    ¬Document.NestsTooDeep room files input := by
  obtain ⟨dictionary, loaded, -⟩ := passes
  intro deep
  cases loaded.symm.trans (Document.load_of_nestsTooDeep deep)

end Command

end Canopen
