import Highlighter.Toml.Quotation
import Highlighter.Toml.Time
import Highlighter.Toml.Value

/-!
# Keys and values of TOML

Arrays and tables between braces can be nested 79 deep, and a dotted key has at most 79 parts.
-/

namespace Highlighter.Toml

/-- Whether a character may stand in a key without quotes. -/
def isBareKeyChar (char : Char) : Bool :=
  char.isAlphanum || char = '_' || char = '-'

def keyPart : Scan Text :=
  lineQuotation '"' <|> lineQuotation '\'' <|> Scan.takeWhile1 isBareKeyChar

/-- Reads a dotted key: the path to the table that holds it, and its last part. -/
def dottedKey : Scan (List Text × Text) := do
  let parts ← Scan.separated '.' do
    spaces
    let part ← keyPart
    spaces
    return part
  if 80 ≤ parts.length then failure
  match parts.getLast? with
  | some last => return (parts.dropLast, last)
  | none => failure

/-- Reads a truth value, a date or time, or a number. -/
def scalar : Scan Value :=
  ((Scan.exactly "true".toList <|> Scan.exactly "false".toList) *> pure .boolean) <|>
    (dateTime *> pure .datetime) <|> (float *> pure .float) <|> (integer *> pure .integer)

/-- Reads a string, or a value that is not made of values. -/
def atom : Scan Value :=
  (.string <$> quotation '"') <|> (.string <$> quotation '\'') <|> scalar

/-- Reads an array. Its last item may have a comma after it. -/
def array (item : Scan Value) : Scan Value := do
  Scan.exactly ['[']
  gap
  let items ← Scan.separated ',' (gap *> item <* gap) <|> pure []
  if items ≠ [] then Scan.exactly [','] <|> pure ()
  gap
  Scan.exactly [']']
  return .array items

/-- A key with its value, as it is written. -/
structure Entry where
  path : List Text
  key : Text
  value : Value

/-- Reads a key, the equals sign and the value. -/
def entry (value : Scan Value) : Scan Entry := do
  let (path, key) ← dottedKey
  Scan.exactly ['=']
  spaces
  return ⟨path, key, ← value⟩

/-- Reads a table between braces, which stands on one line. -/
def braces (item : Scan Value) : Scan Value := do
  Scan.exactly ['\x7b']
  spaces
  let entries ← Scan.separated ',' (entry item <* spaces) <|> pure []
  Scan.exactly ['\x7d']
  let fields ← liftM <| entries.foldlM (fun fields entry =>
    (Fields.insert entry.path entry.key entry.value .header fields).map Prod.snd) []
  return .table .braces fields

/-- Reads a value that is nested at most as deep as given. -/
def nested : Nat → Scan Value
  | 0 => atom
  | depth + 1 => atom <|> array (nested depth) <|> braces (nested depth)

def value : Scan Value :=
  nested 79

end Highlighter.Toml
