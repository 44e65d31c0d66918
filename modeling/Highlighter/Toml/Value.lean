import Highlighter.Text.Basic

/-!
# TOML values and tables

A document is a table. Its tables are built entry by entry: `insert` defines a key in the current
table, `openTable` and `pushTable` carry out the headers. Which of these a table admits later
depends on how it came to be, its `Origin`.
-/

namespace Highlighter.Toml

/-- How a table came to be. -/
inductive Origin where
  /-- By a header of its own, or as the document. -/
  | header
  /-- As a part of a longer header. -/
  | implied
  /-- By a dotted key. -/
  | dotted
  /-- As a value between braces, which nothing can extend. -/
  | braces
deriving DecidableEq, Repr

/-- A value. Of numbers, truth values and times only the kind is kept. -/
inductive Value where
  | string (content : Text)
  | integer
  | float
  | boolean
  | datetime
  | array (items : List Value)
  | table (origin : Origin) (fields : List (Text × Value))
  /-- A table for each header in double brackets, the last one apart: it can still grow. -/
  | tables (earlier : List Value) (last : List (Text × Value))

abbrev Fields := List (Text × Value)

namespace Value

def kind : Value → String
  | string _ => "string"
  | integer => "integer"
  | float => "float"
  | boolean => "boolean"
  | datetime => "datetime"
  | array _ => "array"
  | table .. => "table"
  | tables .. => "array"

def string? : Value → Option Text
  | string content => some content
  | _ => none

def items? : Value → Option (List Value)
  | array items => some items
  | tables earlier last => some (earlier ++ [table .header last])
  | _ => none

end Value

namespace Fields

def get? (fields : Fields) (key : Text) : Option Value :=
  fields.lookup key

/-- The entries with another value for a key. A new key comes last. -/
def set (key : Text) (value : Value) : Fields → Fields
  | [] => [(key, value)]
  | (name, old) :: rest =>
    if name = key then (key, value) :: rest else (name, old) :: set key value rest

/-- The entries with a key moved to the end, with another value. -/
def setLast (key : Text) (value : Value) (fields : Fields) : Fields :=
  fields.filter (·.1 ≠ key) ++ [(key, value)]

/-- Changes the table at the end of a path. A key of the path that is not defined becomes a table of
origin `fresh`. A dotted key cannot go through a table that a header or braces defined, and nothing
goes through braces; of an array of tables the last one is meant. -/
def alter (fresh : Origin) (change : Origin → Fields → Option (Origin × Fields)) :
    List Text → Origin → Fields → Option (Origin × Fields)
  | [], own, fields => change own fields
  | key :: path, own, fields => do
    match get? fields key with
    | none =>
      let (origin, inner) ← alter fresh change path fresh []
      return (own, set key (.table origin inner) fields)
    | some (.table origin inner) =>
      if origin = .braces || fresh = .dotted && origin = .header then failure
      let (origin, inner) ← alter fresh change path origin inner
      return (own, set key (.table origin inner) fields)
    | some (.tables earlier last) =>
      let (_, last) ← alter fresh change path .header last
      return (own, set key (.tables earlier last) fields)
    | some _ => failure

/-- Defines a dotted key, given by the path to the table that holds it and its last part. -/
def insert (path : List Text) (key : Text) (value : Value) :
    Origin → Fields → Option (Origin × Fields) :=
  alter .dotted (fun own fields =>
    if (own = .dotted) = path.isEmpty || (get? fields key).isSome then none
    else some (own, set key value fields)) path

/-- Opens the table of a header, given by the path to it and its last part. A table that longer
headers have implied moves to the end of the entries. -/
def openTable (path : List Text) (key : Text) : Origin → Fields → Option (Origin × Fields) :=
  alter .implied (fun own fields =>
    match get? fields key with
    | none => some (own, set key (.table .header []) fields)
    | some (.table .implied inner) => some (own, setLast key (.table .header inner) fields)
    | some _ => none) path

/-- Opens the next table of a header in double brackets. -/
def pushTable (path : List Text) (key : Text) : Origin → Fields → Option (Origin × Fields) :=
  alter .implied (fun own fields =>
    match get? fields key with
    | none => some (own, set key (.tables [] []) fields)
    | some (.tables earlier last) =>
      some (own, set key (.tables (earlier ++ [.table .header last]) []) fields)
    | some _ => none) path

end Fields

end Highlighter.Toml
