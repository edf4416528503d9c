import Canopen.Text.Blank

/-!
# Paths

A path is a list of names below the root or below the working folder.  Empty names and the name of
the folder itself say nothing and are left out.  The name of the folder above is kept, since what
it means depends on the files, until the path is settled.
-/

namespace Canopen

structure Path where
  absolute : Bool := false
  parts : List String := []
deriving DecidableEq, Repr

namespace Path

/-- The name leads nowhere. -/
def isVoid (part : String) : Bool :=
  part.isEmpty || part == "."

def ofText (text : String) : Path where
  absolute := text.toList.head? == some '/'
  parts :=
    ((Text.pieces (· == '/') text.toList).map String.ofList).filter fun part => !isVoid part

def text (path : Path) : String :=
  let names := "/".intercalate path.parts
  if path.absolute then "/" ++ names
  else if path.parts.isEmpty then "."
  else names

/-- The last name. -/
def name (path : Path) : String :=
  path.parts.getLast?.getD ""

/-- The last name from its last point on; there is no suffix if the point is the first or the last
character. -/
def suffix (path : Path) : String :=
  let letters := path.name.toList.reverse
  let ending := letters.takeWhile (· != '.')
  match letters.dropWhile (· != '.') with
  | _ :: _ :: _ => if ending.isEmpty then "" else String.ofList ('.' :: ending.reverse)
  | _ => ""

/-- The path without its last name. -/
def parent (path : Path) : Path :=
  { path with parts := path.parts.dropLast }

/-- A path that starts in a folder; one that starts at the root stays as it is. -/
def append (folder path : Path) : Path :=
  if path.absolute then path else { folder with parts := folder.parts ++ path.parts }

theorem append_of_absolute {folder path : Path} (rooted : path.absolute = true) :
    folder.append path = path := by
  simp [append, rooted]

/-- One name further; the folder above the root is the root. -/
def step (position : List String) (part : String) : List String :=
  if part = ".." then position.dropLast else position ++ [part]

/-- The path from the root, without names of folders above. -/
def settle (working : List String) (path : Path) : Path where
  absolute := true
  parts := path.parts.foldl step (if path.absolute then [] else working)

theorem step_of_plain {position : List String} {part : String} (plain : part ≠ "..") :
    step position part = position ++ [part] := by
  simp [step, plain]

theorem foldl_step_of_plain {parts : List String} (plain : ".." ∉ parts)
    (position : List String) : parts.foldl step position = position ++ parts := by
  induction parts generalizing position with
  | nil => simp
  | cons part rest ih =>
      simp only [List.mem_cons, not_or] at plain
      rw [List.foldl_cons, step_of_plain (Ne.symm plain.1), ih plain.2]
      simp

/-- A path from the root that names no folder above is settled already. -/
theorem settle_of_plain {path : Path} (rooted : path.absolute = true) (plain : ".." ∉ path.parts)
    (working : List String) : path.settle working = path := by
  obtain ⟨absolute, parts⟩ := path
  simp only at rooted plain
  subst rooted
  simp [settle, foldl_step_of_plain plain]

end Path

end Canopen
