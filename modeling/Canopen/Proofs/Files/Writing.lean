import Canopen.Proofs.Files.Locations
import Canopen.Source.Files

/-!
# What writing changes

Making folders changes nothing that is there, and writing a file changes one place, also where the
text turns out to have no octets.  Header and source go side by side, the header first, so a source
that cannot be written leaves the header behind.
-/

namespace Canopen

namespace Files

/-- Folders have been made where nothing was, and nothing else has changed. -/
structure Grown (before after : Files) : Prop where
  working : after.working = before.working
  places :
    ∀ location, after.at? location = before.at? location ∨
      (before.at? location = none ∧ after.at? location = some .folder)

namespace Grown

variable {before middle after : Files}

theorem refl (files : Files) : Grown files files where
  working := rfl
  places _ := .inl rfl

theorem trans (first : Grown before middle) (second : Grown middle after) : Grown before after where
  working := second.working.trans first.working
  places location := by
    rcases first.places location with same | ⟨none, made⟩
    · rw [← same]
      exact second.places location
    · refine .inr ⟨none, ?_⟩
      rcases second.places location with same | ⟨nothing, _⟩
      · rw [same, made]
      · rw [made] at nothing
        cases nothing

/-- What is there stays. -/
theorem at?_eq (grown : Grown before after) {location : Location} {stored : Stored}
    (there : before.at? location = some stored) : after.at? location = some stored := by
  rcases grown.places location with same | ⟨nothing, _⟩
  · rw [same, there]
  · rw [there] at nothing
    cases nothing

end Grown

theorem grown_store {files : Files} {location : Location} (free : files.at? location = none) :
    Grown files (files.store location .folder) where
  working := rfl
  places other := by
    by_cases same : other = location
    · subst same
      refine .inr ⟨free, at?_store_self files ?_ .folder⟩
      rintro rfl
      cases free
    · exact .inl (at?_store_of_ne files same .folder)

end Files

namespace FileAction

open Files

variable {files : Files} {path : Path}

/-- The files after an action, however it has ended. -/
def after {α : Type} (action : FileAction α) (files : Files) : Files :=
  match action files with
  | .ok _ changed => changed
  | .error _ kept => kept

/-! ## Making folders -/

theorem grown_makeFolder (path : Path) (files : Files) :
    Grown files (after (makeFolder path) files) := by
  unfold after makeFolder
  cases files.locate path with
  | error fault => exact .refl files
  | ok location =>
      cases free : files.at? location with
      | some stored => simpa [free] using Grown.refl files
      | none => simpa [free] using grown_store free

theorem after_ensureFolder (path : Path) (files : Files) :
    after (ensureFolder path) files = after (makeFolder path) files := by
  unfold after ensureFolder
  cases makeFolder path files with
  | ok done changed => rfl
  | error error kept =>
      by_cases there : kept.stored? path = some .folder
      · simp [there]
      · simp [there]

theorem grown_ensureFolder (path : Path) (files : Files) :
    Grown files (after (ensureFolder path) files) := by
  rw [after_ensureFolder]
  exact grown_makeFolder path files

/-- An action goes on from what the one before it has left, unless that one has failed. -/
theorem run_bind {α β : Type} (first : FileAction α) (next : α → FileAction β) (files : Files) :
    (first >>= next) files =
      match first files with
      | .ok value changed => next value changed
      | .error error kept => .error error kept := by
  change EStateM.bind first next files = _
  unfold EStateM.bind
  cases first files <;> rfl

theorem grown_bind {α β : Type} {first : FileAction α} {next : α → FileAction β}
    (grows : ∀ files, Grown files (after first files))
    (onward : ∀ value files, Grown files (after (next value) files)) (files : Files) :
    Grown files (after (first >>= next) files) := by
  have start := grows files
  unfold after at start ⊢
  rw [run_bind]
  cases result : first files with
  | error error kept => rwa [result] at start
  | ok value changed =>
      rw [result] at start
      exact start.trans (onward value changed)

/-- Nothing but folders is made on the way up to the first folder that is there and down again. -/
theorem grown_ensureUpward (absolute : Bool) (names : List String) (files : Files) :
    Grown files (after (ensureUpward absolute names) files) := by
  induction names generalizing files with
  | nil => exact .refl files
  | cons name above ih =>
      have first := grown_ensureFolder ⟨absolute, (name :: above).reverse⟩ files
      unfold after at first
      unfold after ensureUpward
      dsimp only
      cases tried : ensureFolder ⟨absolute, (name :: above).reverse⟩ files with
      | ok done changed => rwa [tried] at first
      | error error kept =>
          rw [tried] at first
          obtain ⟨fault, path⟩ := error
          cases fault with
          | missing =>
              have again := grown_bind ih
                (fun _ => grown_ensureFolder ⟨absolute, (name :: above).reverse⟩) kept
              rw [← seqRight_eq_bind] at again
              exact first.trans again
          | _ => exact first

theorem grown_ensureFolders (path : Path) (files : Files) :
    Grown files (after (ensureFolders path) files) :=
  grown_ensureUpward _ _ files

/-- A folder that is there is not made. -/
theorem ensureFolder_of_folder (there : files.stored? path = some .folder) :
    ensureFolder path files = .ok () files := by
  unfold Files.stored? at there
  cases found : files.locate path with
  | error fault =>
      rw [found] at there
      cases there
  | ok location =>
      rw [found] at there
      have tried : makeFolder path files = .error ⟨.taken, path⟩ files := by
        simp [makeFolder, found, there]
      have again : files.stored? path = some .folder := by rw [stored?, found]; exact there
      simp [ensureFolder, tried, again]

/-- Where a folder is there, no folder is made. -/
theorem ensureFolders_of_folder (there : files.stored? path = some .folder) :
    ensureFolders path files = .ok () files := by
  obtain ⟨absolute, parts⟩ := path
  cases upward : parts.reverse with
  | nil =>
      rw [ensureFolders, upward]
      rfl
  | cons name above =>
      have same : (name :: above).reverse = parts := by rw [← upward, List.reverse_reverse]
      have made := ensureFolder_of_folder there
      rw [ensureFolders, upward]
      unfold ensureUpward
      dsimp only
      rw [same, made]

/-! ## Writing files -/

/-- What a file holds for a text: its octets, or none where the text has none. -/
def stored (text : Option String) : Stored :=
  .file ((text.map Text.encodeUtf8).getD [])

/-- What writing a text does: it makes the file where the path leads, unless the path cannot be
followed or leads to a folder.  A text without octets is an error behind that. -/
inductive WritesText (path : Path) (text : Option String) (files : Files) :
    EStateM.Result FileError Files Unit → Prop where
  | written (followed : files.locate path = .ok (path.location files.working))
      (free : files.at? (path.location files.working) ≠ some .folder) (whole : text ≠ none) :
      WritesText path text files (.ok () (files.store (path.location files.working) (stored text)))
  | emptied (followed : files.locate path = .ok (path.location files.working))
      (free : files.at? (path.location files.working) ≠ some .folder) (none : text = none) :
      WritesText path text files
        (.error ⟨.halved, path⟩ (files.store (path.location files.working) (stored text)))
  | lost (fault : FileFault) (unfollowed : files.locate path = .error fault) :
      WritesText path text files (.error ⟨fault, path⟩ files)
  | blocked (followed : files.locate path = .ok (path.location files.working))
      (taken : files.at? (path.location files.working) = some .folder) :
      WritesText path text files (.error ⟨.isFolder, path⟩ files)

theorem writesText (path : Path) (text : Option String) (files : Files) :
    WritesText path text files (writeText path text files) := by
  cases found : files.locate path with
  | error fault =>
      have lost : writeText path text files = .error ⟨fault, path⟩ files := by
        simp [writeText, found]
      exact lost ▸ .lost fault found
  | ok location =>
      obtain rfl := locate_eq found
      by_cases taken : files.at? (path.location files.working) = some .folder
      · have blocked : writeText path text files = .error ⟨.isFolder, path⟩ files := by
          simp [writeText, found, taken]
        exact blocked ▸ .blocked found taken
      · unfold writeText
        rw [found]
        dsimp only
        split
        · next folder => exact absurd folder taken
        · cases text with
          | some text => exact .written found taken (Option.some_ne_none text)
          | none => exact .emptied found taken rfl

end FileAction

/-! ## Header and source -/

namespace Source

open Files FileAction

theorem isEnding_header : IsEnding ".h" :=
  ⟨by simp, ['.'], 'h', rfl, by decide⟩

theorem isEnding_body : IsEnding ".c" :=
  ⟨by simp, ['.'], 'c', rfl, by decide⟩

/-- Header and source have their names in the same place. -/
theorem exists_targets (folder : Path) (filename : String) :
    ∃ absolute parts stem,
      headerPath folder filename = ⟨absolute, parts ++ [stem ++ ".h"]⟩ ∧
        bodyPath folder filename = ⟨absolute, parts ++ [stem ++ ".c"]⟩ := by
  obtain ⟨absolute, parts, stem, named⟩ := Path.exists_ofText filename
  unfold headerPath bodyPath Path.append
  rw [named _ isEnding_header, named _ isEnding_body]
  cases absolute with
  | true => exact ⟨true, parts, stem, rfl, rfl⟩
  | false =>
      refine ⟨folder.absolute, folder.parts ++ parts, stem, ?_, ?_⟩
      · rw [List.append_assoc]
        rfl
      · rw [List.append_assoc]
        rfl

/-- Where the header goes. -/
def headerLocation (working : Location) (folder : Path) (filename : String) : Location :=
  (headerPath folder filename).location working

/-- Where the source goes. -/
def bodyLocation (working : Location) (folder : Path) (filename : String) : Location :=
  (bodyPath folder filename).location working

/-- Header and source are two files in one folder. -/
theorem exists_locations (working : Location) (folder : Path) (filename : String) :
    ∃ place stem, headerLocation working folder filename = place ++ [stem ++ ".h"] ∧
      bodyLocation working folder filename = place ++ [stem ++ ".c"] := by
  obtain ⟨absolute, parts, stem, header, body⟩ := exists_targets folder filename
  refine ⟨parts.foldl Path.step (if absolute then [] else working), stem, ?_, ?_⟩
  · rw [headerLocation, header, Path.location, Path.settle, List.foldl_append]
    exact Path.step_of_plain (isEnding_header.ne_upward stem)
  · rw [bodyLocation, body, Path.location, Path.settle, List.foldl_append]
    exact Path.step_of_plain (isEnding_body.ne_upward stem)

theorem headerLocation_ne_nil (working : Location) (folder : Path) (filename : String) :
    headerLocation working folder filename ≠ [] := by
  obtain ⟨place, stem, header, _⟩ := exists_locations working folder filename
  simp [header]

theorem bodyLocation_ne_nil (working : Location) (folder : Path) (filename : String) :
    bodyLocation working folder filename ≠ [] := by
  obtain ⟨place, stem, _, body⟩ := exists_locations working folder filename
  simp [body]

theorem headerLocation_ne_bodyLocation (working : Location) (folder : Path) (filename : String) :
    headerLocation working folder filename ≠ bodyLocation working folder filename := by
  obtain ⟨place, stem, header, body⟩ := exists_locations working folder filename
  rw [header, body]
  intro same
  have ending := (List.append_inj' same rfl).2
  simp at ending

/-- The folder is there and the header can be written. -/
structure Ready (folder : Path) (filename : String) (files made : Files) : Prop where
  grown : Grown files made
  kept : files.stored? folder = some .folder → made = files
  header :
    made.locate (headerPath folder filename) = .ok (headerLocation files.working folder filename)
  body : made.locate (bodyPath folder filename) = .ok (bodyLocation files.working folder filename)
  free : made.at? (headerLocation files.working folder filename) ≠ some .folder

/-- The files with the header of an image, which is empty if it has no octets. -/
def withHeader (image : Image) (folder : Path) (filename : String) (files : Files) : Files :=
  files.store (headerLocation files.working folder filename) (stored (headerText? image))

/-- The files with the source of an image, which is empty if it has no octets. -/
def withBody (image : Image) (folder : Path) (filename : String) (files : Files) : Files :=
  files.store (bodyLocation files.working folder filename) (stored (bodyText? filename image))

/-- What writing an image may do. -/
inductive Writes (image : Image) (folder : Path) (filename : String) (files : Files) :
    EStateM.Result FileError Files Unit → Prop where
  /-- The folder cannot be made, or the header cannot be written. -/
  | nothing {error : FileError} {made : Files} (grown : Grown files made) :
      Writes image folder filename files (.error error made)
  /-- The header has no octets, or a folder stands where the source should go. -/
  | half {error : FileError} {made : Files} (ready : Ready folder filename files made)
      (stopped : headerText? image = none ∨ headerText? image ≠ none ∧
        made.at? (bodyLocation files.working folder filename) = some .folder) :
      Writes image folder filename files (.error error (withHeader image folder filename made))
  /-- The source has no octets. -/
  | cut {error : FileError} {made : Files} (ready : Ready folder filename files made)
      (free : made.at? (bodyLocation files.working folder filename) ≠ some .folder)
      (header : headerText? image ≠ none) (body : bodyText? filename image = none) :
      Writes image folder filename files
        (.error error (withBody image folder filename (withHeader image folder filename made)))
  | both {made : Files} (ready : Ready folder filename files made)
      (free : made.at? (bodyLocation files.working folder filename) ≠ some .folder)
      (header : headerText? image ≠ none) (body : bodyText? filename image ≠ none) :
      Writes image folder filename files
        (.ok () (withBody image folder filename (withHeader image folder filename made)))

/-- Where the header can be written, the way to the source is open as well. -/
theorem ready_of_locate {folder : Path} {filename : String} {files made : Files}
    (grown : Grown files made) (kept : files.stored? folder = some .folder → made = files)
    (followed : made.locate (headerPath folder filename) =
      .ok ((headerPath folder filename).location made.working))
    (free : made.at? ((headerPath folder filename).location made.working) ≠ some .folder) :
    Ready folder filename files made := by
  rw [grown.working] at followed free
  refine ⟨grown, kept, followed, ?_, free⟩
  obtain ⟨absolute, parts, stem, header, body⟩ := exists_targets folder filename
  rw [header, locate] at followed
  obtain ⟨place, walked, inFolder, _⟩ := walk_concat_eq_ok.1 followed
  have reached : made.locate (bodyPath folder filename) =
      .ok (Path.step place (stem ++ ".c")) := by
    rw [body, locate]
    exact walk_concat_eq_ok.2 ⟨place, walked, inFolder, rfl⟩
  have there : Path.step place (stem ++ ".c") = bodyLocation files.working folder filename := by
    rw [locate_eq reached, grown.working, bodyLocation]
  rw [reached, there]

/-- The source is written or blocked by a folder once the header is there. -/
theorem locate_bodyPath_withHeader (image : Image) {folder : Path} {filename : String}
    {files made : Files} (ready : Ready folder filename files made) :
    (withHeader image folder filename made).locate (bodyPath folder filename) =
      .ok (bodyLocation files.working folder filename) := by
  have free := ready.free
  rw [← ready.grown.working] at free
  exact walk_store ready.body free

/-- The header does not stand in the place of the source. -/
theorem at?_body_withHeader (image : Image) (folder : Path) (filename : String) (files : Files) :
    (withHeader image folder filename files).at? (bodyLocation files.working folder filename) =
      files.at? (bodyLocation files.working folder filename) :=
  at?_store_of_ne files (headerLocation_ne_bodyLocation files.working folder filename).symm _

theorem writes (image : Image) (folder : Path) (filename : String) (files : Files) :
    Writes image folder filename files (write image folder filename files) := by
  have grown := grown_ensureFolders folder files
  have kept (there : files.stored? folder = some .folder) := ensureFolders_of_folder there
  unfold after at grown
  unfold write
  rw [run_bind]
  cases folders : ensureFolders folder files with
  | error error made =>
      rw [folders] at grown
      exact .nothing grown
  | ok done made =>
      rw [folders] at grown kept
      dsimp only
      rw [run_bind]
      have first := writesText (headerPath folder filename) (headerText? image) made
      have same (there : files.stored? folder = some .folder) : made = files := by
        cases kept there
        rfl
      generalize writeText (headerPath folder filename) (headerText? image) made = result at first
      cases first with
      | lost fault unfollowed => exact .nothing grown
      | blocked followed taken => exact .nothing grown
      | emptied followed free none =>
          have emptied : Writes image folder filename files
              (.error ⟨.halved, headerPath folder filename⟩
                (withHeader image folder filename made)) :=
            .half (ready_of_locate grown same followed free) (.inl none)
          exact emptied
      | written followed free whole =>
          have ready := ready_of_locate grown same followed free
          have reached := locate_bodyPath_withHeader image ready
          have there := at?_body_withHeader image folder filename made
          have second := writesText (bodyPath folder filename) (bodyText? filename image)
            (withHeader image folder filename made)
          change Writes image folder filename files (writeText (bodyPath folder filename)
            (bodyText? filename image) (withHeader image folder filename made))
          generalize writeText (bodyPath folder filename) (bodyText? filename image)
            (withHeader image folder filename made) = result at second
          cases second with
          | lost fault unfollowed =>
              rw [reached] at unfollowed
              cases unfollowed
          | blocked followed taken =>
              refine .half ready (.inr ⟨whole, ?_⟩)
              rw [← grown.working, ← there]
              exact taken
          | emptied followed open_ none =>
              refine .cut ready ?_ whole none
              rw [← grown.working, ← there]
              exact open_
          | written followed open_ some =>
              refine .both ready ?_ whole some
              rw [← grown.working, ← there]
              exact open_

end Source

end Canopen
