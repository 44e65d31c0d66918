import Highlighter.Error
import Highlighter.Text.Encoding

/-!
# Files

A program gets at files by `Files`, in the monad in which it runs; a file tree gives it files without
any effect.
-/

namespace Highlighter

/-! ### Access to files -/

/-- The ways in which a program gets at files: the bytes of a file, and the names in a directory as
far as it can be listed, with what stood in the way of the rest. -/
structure Files (m : Type → Type) where
  read : Path → m (Except AccessError ByteArray)
  names : Path → m (List Text × Option AccessError)

/-- The text that the bytes of a file spell. A file that is not there is reported by its path. -/
def textOfFile (path : Path) : Except AccessError ByteArray → Except Error Text
  | .error .notFound => .error (.fileNotFound path)
  | .error cause => .error (.access cause)
  | .ok bytes =>
    match Text.ofUtf8? bytes with
    | some text => .ok text
    | none => .error (.access .notUtf8)

def Files.readText {m : Type → Type} [Monad m] (files : Files m) (path : Path) :
    m (Except Error Text) := do
  return textOfFile path (← files.read path)

/-! ### File trees

A file tree is a tree of directories as a value. Paths are followed step by step from the root or
the working directory; only a directory admits a further step, be it one that leads nowhere. -/

/-- A file or a directory. -/
inductive FileNode where
  | file (content : ByteArray)
  | directory (entries : List (Text × FileNode))

namespace FileNode

/-- Follows the parts of a path from a node; `above` holds the directories over it, the nearest
first. -/
def follow (above : List FileNode) (node : FileNode) : List Text → Except AccessError FileNode
  | [] => .ok node
  | part :: parts =>
    match node with
    | file _ => .error .notDirectory
    | directory entries =>
      if part = [] || part = ['.'] then follow above node parts
      else if part = ['.', '.'] then
        match above with
        | [] => follow [] node parts
        | parent :: above => follow above parent parts
      else
        match entries.lookup part with
        | some child => follow (node :: above) child parts
        | none => .error .notFound

end FileNode

/-- A tree of directories and the path of the working directory from its root. -/
structure FileTree where
  root : FileNode
  working : List Text

namespace FileTree

def node (tree : FileTree) : Path → Except AccessError FileNode
  | [] => .error .notFound
  | '/' :: path => tree.root.follow [] (Text.pieces '/' path)
  | path => tree.root.follow [] (tree.working ++ Text.pieces '/' path)

def files (tree : FileTree) : Files Id where
  read path :=
    match tree.node path with
    | .ok (.file content) => .ok content
    | .ok (.directory _) => .error .isDirectory
    | .error cause => .error cause
  names path :=
    match tree.node path with
    | .ok (.file _) => ([], some .notDirectory)
    | .ok (.directory entries) => (entries.map Prod.fst, none)
    | .error cause => ([], some cause)

end FileTree

end Highlighter
