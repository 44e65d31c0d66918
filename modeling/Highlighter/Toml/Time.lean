import Highlighter.Toml.Number
import Highlighter.Toml.Value

/-!
# TOML dates and times
-/

namespace Highlighter.Toml

/-- Reads a number with exactly as many digits as given. -/
def fixedNumber (count : Nat) : Scan Nat :=
  Scan.ofFunction fun text =>
    let taken := text.take count
    if taken.length = count && taken.all isDigit then some (ofDigits 10 taken, text.drop count)
    else none

def daysIn (year month : Nat) : Nat :=
  if month = 2 then
    if year % 4 = 0 && (year % 100 ≠ 0 || year % 400 = 0) then 29 else 28
  else if month = 4 || month = 6 || month = 9 || month = 11 then 30
  else 31

def date : Scan Unit := do
  let year ← fixedNumber 4
  Scan.exactly ['-']
  let month ← fixedNumber 2
  Scan.exactly ['-']
  let day ← fixedNumber 2
  if month < 1 || 12 < month || day < 1 || daysIn year month < day then failure

def hourMinute : Scan Unit := do
  let hour ← fixedNumber 2
  Scan.exactly [':']
  let minute ← fixedNumber 2
  if 23 < hour || 59 < minute then failure

/-- Reads a time of the day. The second may be a leap second and have a fraction. -/
def timeOfDay : Scan Unit := do
  hourMinute
  Scan.exactly [':']
  let second ← fixedNumber 2
  if 60 < second then failure
  (do
    Scan.exactly ['.']
    discard (Scan.takeWhile1 isDigit)) <|> pure ()

def zone : Scan Unit :=
  Scan.exactly ['Z'] <|> Scan.exactly ['z'] <|>
    ((Scan.exactly ['+'] <|> Scan.exactly ['-']) *> hourMinute)

/-- Reads a date, a time, or both; only both may have a time zone. -/
def dateTime : Scan Unit :=
  (do
    date
    (do
      Scan.exactly ['T'] <|> Scan.exactly ['t'] <|> Scan.exactly [' ']
      timeOfDay
      zone <|> pure ()) <|> pure ()) <|> timeOfDay

/-! ### Dates and times as tables

A table whose first key is a reserved tag is another form of a date or time. The value of the tag has
to be a string that spells the date or time; what else the table holds does not count. -/

/-- The reserved key. -/
def timeTag : Text :=
  "$__toml_private_datetime".toList

/-- The date or time that the value of a tag spells. -/
def taggedTime? : Value → Option Value
  | .string content => (dateTime.readAll content).map fun _ => .datetime
  | _ => none

mutual

/-- The value with every tagged table in it as a date or time. -/
def untag? : Value → Option Value
  | .array items => .array <$> untagItems? items
  | .table origin fields => untagTable? origin fields
  | .tables earlier last => do
    let earlier ← untagItems? earlier
    let last ← untagTable? .header last
    return .array (earlier ++ [last])
  | .string content => some (.string content)
  | .integer => some .integer
  | .float => some .float
  | .boolean => some .boolean
  | .datetime => some .datetime

/-- The items of an array, each as `untag?` gives it. -/
def untagItems? : List Value → Option (List Value)
  | [] => some []
  | item :: rest => do
    let item ← untag? item
    let rest ← untagItems? rest
    return item :: rest

/-- The value that a table stands for. -/
def untagTable? (origin : Origin) : List (Text × Value) → Option Value
  | [] => some (.table origin [])
  | (key, value) :: rest =>
    if key = timeTag then taggedTime? value
    else do
      let value ← untag? value
      let rest ← untagFields? rest
      return .table origin ((key, value) :: rest)

/-- The entries of a table, the value of each as `untag?` gives it. -/
def untagFields? : List (Text × Value) → Option (List (Text × Value))
  | [] => some []
  | (key, value) :: rest => do
    let value ← untag? value
    let rest ← untagFields? rest
    return (key, value) :: rest

end

end Highlighter.Toml
