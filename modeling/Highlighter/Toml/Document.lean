import Highlighter.Toml.Entry
import Highlighter.Toml.Time

/-!
# TOML documents

`parse?` reads a document as one table. The statements of the document, its headers and entries,
are read first and then carried out in order; last, tagged tables become dates and times. The
document itself stays a table in any case.
-/

namespace Highlighter.Toml

/-- A statement of a document. -/
inductive Statement where
  /-- An empty line or a comment. -/
  | blank
  | assign (entry : Entry)
  | openTable (path : List Text) (key : Text)
  | pushTable (path : List Text) (key : Text)

namespace Statement

def header : Scan Statement :=
  (do
    Scan.exactly ['[', '[']
    let (path, key) ← dottedKey
    Scan.exactly [']', ']']
    lineEnd
    return pushTable path key) <|>
  (do
    Scan.exactly ['[']
    let (path, key) ← dottedKey
    Scan.exactly [']']
    lineEnd
    return openTable path key)

/-- Reads a statement with the end of its line. -/
def scan : Scan Statement := do
  match ← Scan.peek? with
  | some '#' =>
    lineEnd
    return blank
  | some '\n' | some '\r' =>
    newline
    return blank
  | some '[' => header
  | _ =>
    let entry ← entry value
    lineEnd
    return assign entry

end Statement

/-- What has been read of a document: its table, and the path of the last header. -/
structure Progress where
  fields : Fields
  current : List Text

namespace Progress

/-- Carries out a statement. -/
def step (progress : Progress) : Statement → Option Progress
  | .blank => some progress
  | .assign entry => do
    let define := Fields.insert entry.path entry.key entry.value
    let (_, fields) ← Fields.alter .implied define progress.current .header progress.fields
    return { progress with fields }
  | .openTable path key => do
    let (_, fields) ← Fields.openTable path key .header progress.fields
    return ⟨fields, path ++ [key]⟩
  | .pushTable path key => do
    let (_, fields) ← Fields.pushTable path key .header progress.fields
    return ⟨fields, path ++ [key]⟩

end Progress

/-- Reads the statements of a document. A byte order mark may come first. -/
def statements : Scan (List Statement) := do
  Scan.exactly ['\uFEFF'] <|> pure ()
  spaces
  Scan.many (Statement.scan <* spaces)

def parse? (text : Text) : Option Fields := do
  let progress ← (← statements.readAll text).foldlM Progress.step ⟨[], []⟩
  untagFields? progress.fields

end Highlighter.Toml
