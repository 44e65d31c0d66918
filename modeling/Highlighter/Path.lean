import Highlighter.Text.Line

/-!
# Paths

Slashes separate the parts of a path. Empty parts and parts that are a single dot mean nothing.
-/

namespace Highlighter

/-- A path as it is written. -/
abbrev Path := Text

namespace Path

def parts (path : Path) : List Text :=
  (Text.pieces '/' path).filter fun part => part ≠ [] && part ≠ ['.']

/-- The name of the file to which a path leads. A path that is empty or ends with a step up names no
file. -/
def fileName? (path : Path) : Option Text :=
  match (parts path).getLast? with
  | some name => if name = ['.', '.'] then none else some name
  | none => none

/-- What is before and after the last dot of a name, if there is a dot and something before it. -/
def splitName? (name : Text) : Option (Text × Text) :=
  let extension := (name.reverse.takeWhile (· ≠ '.')).reverse
  let stem := (name.reverse.dropWhile (· ≠ '.')).tail.reverse
  if stem = [] then none else some (stem, extension)

/-- The extension of the file to which a path leads. -/
def extension? (path : Path) : Option Text := do
  let name ← fileName? path
  let (_, extension) ← splitName? name
  return extension

/-- The name of the file to which a path leads, without its extension. -/
def stem? (path : Path) : Option Text := do
  let name ← fileName? path
  return ((splitName? name).map Prod.fst).getD name

/-- The path that is reached from a directory by a further path. One from the root stands for
itself. -/
def join (directory path : Path) : Path :=
  if path.head? = some '/' then path
  else if directory = [] || directory.getLast? = some '/' then directory ++ path
  else directory ++ '/' :: path

end Path

end Highlighter
