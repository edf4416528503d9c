import Canopen.Command.Run
import Canopen.Proofs.Compile.Run
import Canopen.Proofs.Files.Writing
import Canopen.Proofs.Session

/-!
# What generating does to the files

A run that generates changes its header and its source and nothing else, and only where it may.  A
target that is there stops a run without `force`; but what is there is looked up before the folder
is made, so a name that leads upward out of a missing folder is not seen.  A run that fails leaves
every file as it was, unless it fails after it has begun to write: a folder stands where the source
should go, a text has no octets, or the end of the run cannot be shown.
-/

namespace Canopen.Command

open Files FileAction Source

namespace Generation

/-- The image that is written for a document. -/
def image (request : Generation) (dictionary : Dictionary) : Image :=
  dictionary.compile request.lengths request.name

/-- Where the header goes. -/
def headerPlace (request : Generation) (files : Files) : Location :=
  headerLocation files.working request.folder request.filename

/-- Where the source goes. -/
def bodyPlace (request : Generation) (files : Files) : Location :=
  bodyLocation files.working request.folder request.filename

/-- The header of a document, as it is written. -/
def headerFile (request : Generation) (dictionary : Dictionary) : Stored :=
  .file (Text.encodeUtf8 (header currentVersion (request.image dictionary)))

/-- The source of a document, as it is written. -/
def bodyFile (request : Generation) (dictionary : Dictionary) : Stored :=
  .file (Text.encodeUtf8 (body currentVersion request.filename (request.image dictionary)))

/-- The files with the header of a document. -/
def withHeader (request : Generation) (dictionary : Dictionary) (files : Files) : Files :=
  Source.withHeader (request.image dictionary) request.folder request.filename files

/-- The files with the header and the source of a document. -/
def withBoth (request : Generation) (dictionary : Dictionary) (files : Files) : Files :=
  withBody (request.image dictionary) request.folder request.filename
    (request.withHeader dictionary files)

end Generation

/-- A document is loaded, and nothing forbids to write its files. -/
structure Allowed (host : Host) (request : Generation) (files : Files) (dictionary : Dictionary) :
    Prop where
  loads : Document.load host.room files request.input = .ok dictionary
  writes : request.dryRun = false
  silent : request.strict = true → (request.image dictionary).warnings = []
  free : request.force = false → ∀ path ∈ request.targets, files.stored? path = none

/-- What a run that generates may come to. -/
inductive Generated (host : Host) (request : Generation) (files : Files) :
    Outcome × Files → Prop where
  | stopped {outcome : Outcome} (failed : outcome.exitCode ≠ 0) :
      Generated host request files (outcome, files)
  | shown {outcome : Outcome} (dryRun : request.dryRun = true) :
      Generated host request files (outcome, files)
  | lost {outcome : Outcome} {dictionary : Dictionary} {made : Files}
      (allowed : Allowed host request files dictionary) (failed : outcome.exitCode ≠ 0)
      (grown : Grown files made) :
      Generated host request files (outcome, made)
  | half {outcome : Outcome} {dictionary : Dictionary} {made : Files}
      (allowed : Allowed host request files dictionary) (failed : outcome.exitCode ≠ 0)
      (ready : Ready request.folder request.filename files made)
      (stopped : headerText? (request.image dictionary) = none ∨
        headerText? (request.image dictionary) ≠ none ∧
          made.at? (request.bodyPlace files) = some .folder) :
      Generated host request files (outcome, request.withHeader dictionary made)
  | cut {outcome : Outcome} {dictionary : Dictionary} {made : Files}
      (allowed : Allowed host request files dictionary) (failed : outcome.exitCode ≠ 0)
      (ready : Ready request.folder request.filename files made)
      (free : made.at? (request.bodyPlace files) ≠ some .folder)
      (header : headerText? (request.image dictionary) ≠ none)
      (body : bodyText? request.filename (request.image dictionary) = none) :
      Generated host request files (outcome, request.withBoth dictionary made)
  | both {outcome : Outcome} {dictionary : Dictionary} {made : Files}
      (allowed : Allowed host request files dictionary)
      (ended : outcome.exitCode ≠ 0 →
        host.refuses (written request (request.image dictionary)) = true)
      (ready : Ready request.folder request.filename files made)
      (free : made.at? (request.bodyPlace files) ≠ some .folder)
      (header : headerText? (request.image dictionary) ≠ none)
      (body : bodyText? request.filename (request.image dictionary) ≠ none) :
      Generated host request files (outcome, request.withBoth dictionary made)

variable {host : Host} {request : Generation} {files made after : Files} {dictionary : Dictionary}
  {outcome : Outcome} {written : List String}

/-! ## Running -/

theorem exitCode_ofFile (error : FileError) (verbose : Bool) (before : Screen) :
    (Outcome.ofFailure (Failure.ofFile error) verbose before).exitCode ≠ 0 := by
  obtain ⟨fault, path⟩ := error
  cases fault <;> simp [Outcome.ofFailure, Failure.ofFile, Failure.exitCode]

theorem exitCode_ofDocument (error : DocumentError) (verbose : Bool) (before : Screen) :
    (Outcome.ofFailure (Failure.ofDocument error) verbose before).exitCode ≠ 0 := by
  cases error <;> simp [Outcome.ofFailure, Failure.ofDocument, Failure.exitCode]

/-- A command that comes to its end fails only where that cannot be shown. -/
theorem refuses_of_concluding {output errors : Screen}
    (failed : (Outcome.concluding host output errors).exitCode ≠ 0) :
    host.refuses output = true := by
  by_contra taken
  have shows : host.shows output = true := by simp [Host.shows, Bool.eq_false_iff.2 taken]
  rw [Outcome.concluding, if_pos shows] at failed
  exact failed rfl

theorem generated_emit (loads : Document.load host.room files request.input = .ok dictionary)
    (silent : request.strict = true → (request.image dictionary).warnings = [])
    (free : request.keepsFiles = true → ∀ path ∈ request.targets, files.stored? path = none)
    (notes : Screen) :
    Generated host request files (emit host request (request.image dictionary) notes files) := by
  unfold emit
  by_cases dryRun : request.dryRun = true
  · rw [if_pos dryRun]
    exact .shown dryRun
  · rw [if_neg dryRun]
    have writing : request.dryRun = false := by simpa using dryRun
    have allowed : Allowed host request files dictionary := by
      refine ⟨loads, writing, silent, fun kept => free ?_⟩
      simp [Generation.keepsFiles, kept, writing]
    have outcomes := writes (request.image dictionary) request.folder request.filename files
    generalize write (request.image dictionary) request.folder request.filename files = result
      at outcomes
    cases outcomes with
    | nothing grown => exact .lost allowed (exitCode_ofFile _ _ _) grown
    | half ready stopped => exact .half allowed (exitCode_ofFile _ _ _) ready stopped
    | cut ready free header body =>
        exact .cut allowed (exitCode_ofFile _ _ _) ready free header body
    | both ready free header body =>
        exact .both allowed refuses_of_concluding ready free header body

theorem generated_generateFrom
    (loads : Document.load host.room files request.input = .ok dictionary)
    (free : request.keepsFiles = true → ∀ path ∈ request.targets, files.stored? path = none) :
    Generated host request files (generateFrom host request dictionary files) := by
  unfold generateFrom
  dsimp only
  rw [Warning.strictly_eq]
  by_cases refused : request.strict = true ∧ (request.image dictionary).warnings ≠ []
  · rw [Generation.image] at refused
    rw [if_pos refused]
    exact .stopped (by simp [Outcome.ofFailure, Failure.exitCode])
  · have silent (strict : request.strict = true) : (request.image dictionary).warnings = [] := by
      by_contra some
      exact refused ⟨strict, some⟩
    rw [Generation.image] at refused
    rw [if_neg refused]
    split
    · contradiction
    · exact generated_emit loads silent free _
    · split
      · exact generated_emit loads silent free _
      · exact .stopped (by simp)

/-- No target is there unless the first of those that are there is found. -/
theorem stored?_of_existing? (nothing : request.existing? files = none) :
    ∀ path ∈ request.targets, files.stored? path = none := by
  intro path target
  simpa using List.find?_eq_none.1 nothing path target

theorem generated_generate (host : Host) (request : Generation) (files : Files) :
    Generated host request files (generate host request files) := by
  unfold generate
  split
  · exact .stopped (by simp [wouldOverwrite])
  · next _ _ other =>
    have free (kept : request.keepsFiles = true) :
        ∀ path ∈ request.targets, files.stored? path = none := by
      cases found : request.existing? files with
      | some path => exact (other path found kept).elim
      | none => exact stored?_of_existing? found
    cases loads : Document.load host.room files request.input with
    | error error => exact .stopped (exitCode_ofDocument _ _ _)
    | ok dictionary => exact generated_generateFrom loads free

/-- A command line that generates does nothing unless the files it names are as they should be. -/
theorem generated_run (host : Host)
    (asks : readRequest files.working written = .ok (.generate request)) :
    Generated host request files (run host written files) := by
  unfold run
  rw [asks]
  dsimp only
  cases Request.check files (.generate request) with
  | error error => exact .stopped (by simp [misused, usageExitCode])
  | ok done => exact generated_generate host request files

/-- Only generating has an influence on the files. -/
theorem run_of_other
    (other : ∀ request, readRequest files.working written ≠ .ok (.generate request)) :
    (run host written files).2 = files := by
  unfold run
  cases asks : readRequest files.working written with
  | error error => rfl
  | ok request =>
      dsimp only
      cases request.check files with
      | error error => rfl
      | ok done =>
          cases request with
          | generate request => exact absurd asks (other request)
          | version => rfl
          | help => rfl
          | validate request => rfl
          | info input => rfl

/-! ## What has been written -/

theorem working_withHeader (ready : Ready request.folder request.filename files made)
    (dictionary : Dictionary) : (request.withHeader dictionary made).working = files.working :=
  ready.grown.working

/-- A header that has octets is there as it has been rendered. -/
theorem stored_headerText? (whole : headerText? (request.image dictionary) ≠ none) :
    stored (headerText? (request.image dictionary)) = request.headerFile dictionary := by
  unfold headerText? at whole ⊢
  split at whole
  · exact absurd rfl whole
  · next labels => rw [if_neg labels]; rfl

theorem stored_bodyText?
    (whole : bodyText? request.filename (request.image dictionary) ≠ none) :
    stored (bodyText? request.filename (request.image dictionary)) =
      request.bodyFile dictionary := by
  unfold bodyText? at whole ⊢
  split at whole
  · exact absurd rfl whole
  · next values => rw [if_neg values]; rfl

theorem at?_withHeader (ready : Ready request.folder request.filename files made)
    (dictionary : Dictionary) :
    (request.withHeader dictionary made).at? (request.headerPlace files) =
      some (stored (headerText? (request.image dictionary))) := by
  have there := ready.grown.working
  unfold Generation.withHeader Source.withHeader Generation.headerPlace
  rw [there]
  exact at?_store_self made (headerLocation_ne_nil _ _ _) _

theorem at?_withHeader_of_ne (ready : Ready request.folder request.filename files made)
    (dictionary : Dictionary) {location : Location} (apart : location ≠ request.headerPlace files) :
    (request.withHeader dictionary made).at? location = made.at? location := by
  have there := ready.grown.working
  unfold Generation.withHeader Source.withHeader
  rw [there]
  exact at?_store_of_ne made apart _

theorem at?_withBoth_body (ready : Ready request.folder request.filename files made)
    (dictionary : Dictionary) :
    (request.withBoth dictionary made).at? (request.bodyPlace files) =
      some (stored (bodyText? request.filename (request.image dictionary))) := by
  have there := working_withHeader ready dictionary
  unfold Generation.withBoth withBody Generation.bodyPlace
  rw [there]
  exact at?_store_self _ (bodyLocation_ne_nil _ _ _) _

theorem at?_withBoth_of_ne (ready : Ready request.folder request.filename files made)
    (dictionary : Dictionary) {location : Location} (apart : location ≠ request.bodyPlace files) :
    (request.withBoth dictionary made).at? location =
      (request.withHeader dictionary made).at? location := by
  have there := working_withHeader ready dictionary
  unfold Generation.withBoth withBody
  rw [there]
  exact at?_store_of_ne _ apart _

theorem headerPlace_ne_bodyPlace (request : Generation) (files : Files) :
    request.headerPlace files ≠ request.bodyPlace files :=
  headerLocation_ne_bodyLocation _ _ _

theorem at?_withBoth_header (ready : Ready request.folder request.filename files made)
    (dictionary : Dictionary) :
    (request.withBoth dictionary made).at? (request.headerPlace files) =
      some (stored (headerText? (request.image dictionary))) := by
  rw [at?_withBoth_of_ne ready dictionary (headerPlace_ne_bodyPlace request files),
    at?_withHeader ready]

/-- A way that is open stays open while both files are written. -/
theorem locate_withBoth (ready : Ready request.folder request.filename files made)
    (free : made.at? (request.bodyPlace files) ≠ some .folder) (dictionary : Dictionary)
    {path : Path} {location : Location} (open_ : made.locate path = .ok location) :
    (request.withBoth dictionary made).locate path = .ok location := by
  have first : (request.withHeader dictionary made).locate path = .ok location := by
    refine walk_store open_ ?_
    rw [ready.grown.working]
    exact ready.free
  refine walk_store first ?_
  rw [working_withHeader ready]
  change (request.withHeader dictionary made).at? (request.bodyPlace files) ≠ some .folder
  rwa [at?_withHeader_of_ne ready dictionary (headerPlace_ne_bodyPlace request files).symm]

/-! ## Targets -/

/-- What is at the targets can be seen before the folder is made: the folder is there, or no target
has a name that leads upward. -/
def Generation.SeesTargets (request : Generation) (files : Files) : Prop :=
  files.stored? request.folder = some .folder ∨
    (files.IsTree ∧ ∀ path ∈ request.targets, ".." ∉ path.parts)

/-- What is at a target place is found by its path, if it can be seen. -/
theorem Generation.SeesTargets.at?_eq_none (sees : request.SeesTargets files)
    (ready : Ready request.folder request.filename files made)
    (free : ∀ path ∈ request.targets, files.stored? path = none) {location : Location}
    (target : location = request.headerPlace files ∨ location = request.bodyPlace files) :
    files.at? location = none := by
  obtain ⟨path, named, leads, open_⟩ : ∃ path ∈ request.targets,
      path.location files.working = location ∧ made.locate path = .ok location := by
    rcases target with rfl | rfl
    · exact ⟨_, List.mem_cons_self, rfl, ready.header⟩
    · exact ⟨_, List.mem_cons_of_mem _ List.mem_cons_self, rfl, ready.body⟩
  rcases sees with folder | ⟨tree, plain⟩
  · rw [ready.kept folder] at open_
    rw [← stored?_of_locate open_]
    exact free path named
  · by_contra there
    rw [← leads] at there
    have found := tree.stored?_of_plain (plain path named) there
    rw [free path named] at found
    exact there found.symm

/-- Folders are made where nothing was, files are put in the two places of the targets, and
everything else stays. -/
def Generation.Confines (request : Generation) (files after : Files) : Prop :=
  ∀ location, after.at? location = files.at? location ∨
    (files.at? location = none ∧ after.at? location = some .folder) ∨
    ((location = request.headerPlace files ∨ location = request.bodyPlace files) ∧
      files.at? location ≠ some .folder ∧ ∃ octets, after.at? location = some (.file octets))

/-- The targets hold the header and the source of a document. -/
def Generation.Holds (request : Generation) (dictionary : Dictionary) (after : Files) : Prop :=
  after.stored? (headerPath request.folder request.filename) =
      some (request.headerFile dictionary) ∧
    after.stored? (bodyPath request.folder request.filename) = some (request.bodyFile dictionary)

/-- Every file is there with what it held before. -/
def KeepsFiles (files after : Files) : Prop :=
  ∀ location octets, files.at? location = some (.file octets) →
    after.at? location = some (.file octets)

/-- What a run that generates does to the files. -/
structure Spares (host : Host) (request : Generation) (files : Files) (outcome : Outcome)
    (after : Files) : Prop where
  confined : request.Confines files after
  /-- A target that is found stops the run. -/
  refused : request.force = false → request.dryRun = false →
    (∃ path ∈ request.targets, files.stored? path ≠ none) →
    outcome.exitCode ≠ 0 ∧ after = files
  kept : request.force = false → request.SeesTargets files → KeepsFiles files after
  dry : request.dryRun = true → after = files
  strict : request.strict = true → ∀ dictionary,
    Document.load host.room files request.input = .ok dictionary →
    (request.image dictionary).warnings ≠ [] → after = files
  done : outcome.exitCode = 0 → request.dryRun = false → ∃ dictionary,
    Document.load host.room files request.input = .ok dictionary ∧
    (request.image dictionary).name = dictionary.imageName request.name ∧
    request.Holds dictionary after

theorem name_image (request : Generation) (dictionary : Dictionary) :
    (request.image dictionary).name = dictionary.imageName request.name := by
  rw [Generation.image, Dictionary.compile_eq]
  rfl

/-- The folders on the way are made, and then the header is put in its place. -/
theorem places_withHeader (ready : Ready request.folder request.filename files made)
    (dictionary : Dictionary) {location : Location} (apart : location ≠ request.headerPlace files) :
    (request.withHeader dictionary made).at? location = files.at? location ∨
      (files.at? location = none ∧
        (request.withHeader dictionary made).at? location = some .folder) := by
  rw [at?_withHeader_of_ne ready dictionary apart]
  exact ready.grown.places location

theorem not_folder_of_ready (ready : Ready request.folder request.filename files made) :
    files.at? (request.headerPlace files) ≠ some .folder :=
  fun folder => ready.free (ready.grown.at?_eq folder)

/-- Both targets hold what is rendered for them, where it can be written. -/
theorem holds_withBoth (ready : Ready request.folder request.filename files made)
    (free : made.at? (request.bodyPlace files) ≠ some .folder)
    (header : headerText? (request.image dictionary) ≠ none)
    (body : bodyText? request.filename (request.image dictionary) ≠ none) :
    request.Holds dictionary (request.withBoth dictionary made) := by
  constructor
  · rw [stored?_of_locate (locate_withBoth ready free dictionary ready.header),
      ← stored_headerText? header]
    exact at?_withBoth_header ready dictionary
  · rw [stored?_of_locate (locate_withBoth ready free dictionary ready.body),
      ← stored_bodyText? body]
    exact at?_withBoth_body ready dictionary

namespace Allowed

/-- What is not allowed does not happen. -/
theorem spares (allowed : Allowed host request files dictionary)
    (confined : request.Confines files after)
    (kept : request.force = false → request.SeesTargets files → KeepsFiles files after)
    (done : outcome.exitCode = 0 → request.Holds dictionary after) :
    Spares host request files outcome after where
  confined := confined
  refused unforced _ found := by
    obtain ⟨path, target, there⟩ := found
    exact absurd (allowed.free unforced path target) there
  kept := kept
  dry dryRun := by
    rw [allowed.writes] at dryRun
    contradiction
  strict strict other loads warned := by
    have same := allowed.loads
    rw [loads] at same
    cases same
    exact absurd (allowed.silent strict) warned
  done succeeded _ := ⟨dictionary, allowed.loads, name_image request dictionary, done succeeded⟩

theorem spares_lost (allowed : Allowed host request files dictionary)
    (failed : outcome.exitCode ≠ 0) (grown : Grown files made) :
    Spares host request files outcome made := by
  refine allowed.spares (fun location => ?_) (fun _ _ _ _ there => grown.at?_eq there)
    (fun succeeded => absurd succeeded failed)
  rcases grown.places location with same | folder
  · exact .inl same
  · exact .inr (.inl folder)

theorem spares_half (allowed : Allowed host request files dictionary)
    (failed : outcome.exitCode ≠ 0) (ready : Ready request.folder request.filename files made) :
    Spares host request files outcome (request.withHeader dictionary made) := by
  refine allowed.spares (fun location => ?_) (fun unforced sees location octets there => ?_)
    (fun succeeded => absurd succeeded failed)
  · by_cases target : location = request.headerPlace files
    · subst target
      exact .inr (.inr ⟨.inl rfl, not_folder_of_ready ready, _, at?_withHeader ready dictionary⟩)
    · rcases places_withHeader ready dictionary target with same | folder
      · exact .inl same
      · exact .inr (.inl folder)
  · have apart : location ≠ request.headerPlace files := fun target => by
      rw [sees.at?_eq_none ready (allowed.free unforced) (.inl target)] at there
      cases there
    rw [at?_withHeader_of_ne ready dictionary apart]
    exact ready.grown.at?_eq there

theorem spares_both (allowed : Allowed host request files dictionary)
    (ready : Ready request.folder request.filename files made)
    (free : made.at? (request.bodyPlace files) ≠ some .folder)
    (done : outcome.exitCode = 0 → request.Holds dictionary (request.withBoth dictionary made)) :
    Spares host request files outcome (request.withBoth dictionary made) := by
  refine allowed.spares (fun location => ?_) (fun unforced sees location octets there => ?_) done
  · by_cases target : location = request.bodyPlace files
    · subst target
      have open_ : files.at? (request.bodyPlace files) ≠ some .folder :=
        fun folder => free (ready.grown.at?_eq folder)
      exact .inr (.inr ⟨.inr rfl, open_, _, at?_withBoth_body ready dictionary⟩)
    · rw [at?_withBoth_of_ne ready dictionary target]
      by_cases first : location = request.headerPlace files
      · subst first
        exact .inr (.inr ⟨.inl rfl, not_folder_of_ready ready, _, at?_withHeader ready dictionary⟩)
      · rcases places_withHeader ready dictionary first with same | folder
        · exact .inl same
        · exact .inr (.inl folder)
  · have apart (target : location = request.headerPlace files ∨
        location = request.bodyPlace files) : False := by
      rw [sees.at?_eq_none ready (allowed.free unforced) target] at there
      cases there
    rw [at?_withBoth_of_ne ready dictionary fun target => apart (.inr target),
      at?_withHeader_of_ne ready dictionary fun target => apart (.inl target)]
    exact ready.grown.at?_eq there

end Allowed

theorem Generated.spares (generated : Generated host request files (outcome, after)) :
    Spares host request files outcome after := by
  cases generated with
  | stopped failed =>
      exact
        { confined := fun _ => .inl rfl
          refused := fun _ _ _ => ⟨failed, rfl⟩
          kept := fun _ _ _ _ there => there
          dry := fun _ => rfl
          strict := fun _ _ _ _ => rfl
          done := fun succeeded => absurd succeeded failed }
  | shown dryRun =>
      have writes (writing : request.dryRun = false) : False := by
        rw [dryRun] at writing
        contradiction
      exact
        { confined := fun _ => .inl rfl
          refused := fun _ writing => (writes writing).elim
          kept := fun _ _ _ _ there => there
          dry := fun _ => rfl
          strict := fun _ _ _ _ => rfl
          done := fun _ writing => (writes writing).elim }
  | lost allowed failed grown => exact allowed.spares_lost failed grown
  | half allowed failed ready stopped => exact allowed.spares_half failed ready
  | cut allowed failed ready free header body =>
      exact allowed.spares_both ready free fun succeeded => absurd succeeded failed
  | both allowed ended ready free header body =>
      exact allowed.spares_both ready free fun _ => holds_withBoth ready free header body

/-- What a command line does to the files: one that generates spares all but its targets, and every
other one changes nothing. -/
inductive Carries (host : Host) (written : List String) (files : Files) :
    Outcome × Files → Prop where
  | generates {request : Generation} {outcome : Outcome} {after : Files}
      (asks : readRequest files.working written = .ok (.generate request))
      (spares : Spares host request files outcome after) :
      Carries host written files (outcome, after)
  | other {outcome : Outcome}
      (asks : ∀ request, readRequest files.working written ≠ .ok (.generate request)) :
      Carries host written files (outcome, files)

/-- Generating touches its two targets only, and only where it may. -/
theorem run_carries (host : Host) (written : List String) (files : Files) :
    Carries host written files (run host written files) := by
  by_cases asks : ∃ request, readRequest files.working written = .ok (.generate request)
  · obtain ⟨request, asks⟩ := asks
    exact .generates asks (generated_run host asks).spares
  · rw [not_exists] at asks
    have unchanged : run host written files = ((run host written files).1, files) :=
      Prod.ext rfl (run_of_other asks)
    rw [unchanged]
    exact .other asks

/-- A terminal that shows everything, and room for a few collections inside each other. -/
def steadyHost : Host where
  room := 8

/-- A document, and a header in the same folder. -/
def headerFiles : Files :=
  (({} : Files).add ["a.yaml"] (.file (Text.encodeUtf8 "objects: []\n"))).add ["old.h"]
    (.file (Text.encodeUtf8 "mine"))

/-- The header is not seen through a folder that is missing, and it is replaced without `force`. -/
theorem header_replaced_unforced :
    headerFiles.IsTree ∧
      (∃ request, readRequest headerFiles.working
          ["generate", "a.yaml", "-o", "out", "--filename", "../old"] = .ok (.generate request) ∧
        request.force = false) ∧
      ¬ KeepsFiles headerFiles
        (run steadyHost ["generate", "a.yaml", "-o", "out", "--filename", "../old"]
          headerFiles).2 := by
  refine ⟨?_, ⟨_, rfl, rfl⟩, ?_⟩
  · exact isTree_of_entries (by decide)
  · intro keeps
    have same := keeps ["old.h"] (Text.encodeUtf8 "mine") rfl
    have other : (run steadyHost ["generate", "a.yaml", "-o", "out", "--filename", "../old"]
        headerFiles).2.at? ["old.h"] ≠ some (.file (Text.encodeUtf8 "mine")) := by decide +kernel
    exact other same

/-! ## Failures -/

end Canopen.Command
