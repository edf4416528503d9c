import Canopen.Files.Path
import Canopen.Image.Compile
import Canopen.Screen

/-!
# Progress

The log of a run: what has been loaded, what became of every object, and what came out.
-/

namespace Canopen.Command.Progress

/-- The document has been loaded. -/
def loaded (input : Path) (dictionary : Dictionary) : Screen :=
  Screen.lines ("DEBUG yaml_to_od.models.loader: Loaded " ++
    Number.decimal dictionary.objects.length ++ " objects (" ++
    Number.decimal (dictionary.objects.length - dictionary.enabled.length) ++
    " disabled) from " ++ input.text)

/-- Every object is put into the list or passed over. -/
def objects (lengths : StringLengths) (position : Nat) : List Entry → Screen
  | [] => []
  | entry :: rest =>
      match (Compile.content lengths entry).2 with
      | none =>
          Screen.lines ("DEBUG yaml_to_od.transform.transformer: Skipping 0x" ++ entry.label ++
            ": no sub-entries compiled") ++ objects lengths position rest
      | some _ =>
          Screen.lines ("DEBUG yaml_to_od.transform.transformer: Compiled 0x" ++ entry.label ++
            " as " ++ entry.symbol ++ " at list position " ++ Number.decimal position) ++
            objects lengths (position + 1) rest

/-- The document has been compiled. -/
def compiled (dictionary : Dictionary) (image : Image) : Screen :=
  Screen.lines ("INFO yaml_to_od.transform.transformer: Compiled " ++
    Number.decimal image.rows.length ++ " of " ++ Number.decimal dictionary.objects.length ++
    " objects into " ++ Number.decimal image.groups.length ++ " storage groups")

/-- The whole log. -/
def log (input : Path) (lengths : StringLengths) (dictionary : Dictionary) (image : Image) :
    Screen :=
  loaded input dictionary ++ objects lengths 0 dictionary.enabled ++ compiled dictionary image

end Canopen.Command.Progress
