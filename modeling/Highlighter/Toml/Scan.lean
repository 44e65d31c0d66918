import Highlighter.Text.Basic

/-!
# Reading a text from the left

A scan takes a first part of a text and gives what it stands for, or fails. Of two alternatives the
second is tried where the first one fails. Every scan knows a bound on the number of items that can
follow one another: the length of the whole text, since each item holds a character.
-/

namespace Highlighter.Toml

/-- Reads a value off the start of a text. -/
abbrev Scan := ReaderT Nat (StateT Text Option)

namespace Scan

def readAll {α : Type} (scan : Scan α) (text : Text) : Option α :=
  (scan text.length text).bind fun (value, rest) => if rest = [] then some value else none

/-- The next character, which stays unread. -/
def peek? : Scan (Option Char) :=
  fun _ text => some (text.head?, text)

/-- Reads what a function takes from the start of a text. -/
def ofFunction {α : Type} (read : Text → Option (α × Text)) : Scan α :=
  fun _ => read

def exactly (expected : Text) : Scan Unit :=
  ofFunction fun text =>
    if expected.isPrefixOf text then some ((), text.drop expected.length) else none

/-- Reads characters as long as they satisfy a test. -/
def takeWhile (test : Char → Bool) : Scan Text :=
  ofFunction fun text => some (text.takeWhile test, text.dropWhile test)

/-- Reads characters as long as they satisfy a test, at least one. -/
def takeWhile1 (test : Char → Bool) : Scan Text := do
  let taken ← takeWhile test
  if taken = [] then failure
  return taken

/-- Reads as many items as there are, up to a number. -/
def manyUpTo {α : Type} (item : Scan α) : Nat → Scan (List α)
  | 0 => pure []
  | count + 1 => fun bound text =>
    match item bound text with
    | none => some ([], text)
    | some (first, rest) =>
      (manyUpTo item count bound rest).map fun (others, rest) => (first :: others, rest)

def many {α : Type} (item : Scan α) : Scan (List α) := do
  manyUpTo item (← read)

/-- Reads items with a separator between each two, at least one. -/
def separated {α : Type} (separator : Char) (item : Scan α) : Scan (List α) := do
  let first ← item
  let others ← many do
    exactly [separator]
    item
  return first :: others

end Scan

/-! ### Blanks, comments and line ends -/

/-- Whether a character separates without ending a line. -/
def isSpace (char : Char) : Bool :=
  char = ' ' || char = '\t'

/-- Whether a character may stand in comments and strings: no control character but the tab. -/
def isText (char : Char) : Bool :=
  char = '\t' || 0x20 ≤ char.toNat && char.toNat ≠ 0x7F

def spaces : Scan Unit :=
  discard (Scan.takeWhile isSpace)

/-- What follows the end of a line: a line feed, which a carriage return may precede. -/
def afterNewline? : Text → Option Text
  | '\n' :: rest => some rest
  | '\r' :: '\n' :: rest => some rest
  | _ => none

def newline : Scan Unit :=
  Scan.ofFunction fun text => (afterNewline? text).map ((), ·)

/-- Reads a comment up to the end of its line. -/
def comment : Scan Unit := do
  Scan.exactly ['#']
  discard (Scan.takeWhile isText)

/-- Reads the rest of a line that holds nothing more, or only a comment. -/
def lineEnd : Scan Unit := do
  spaces
  if (← Scan.peek?) = some '#' then comment
  if (← Scan.peek?).isSome then newline

/-- Reads spaces, comments and line ends between the parts of an array. -/
def gap : Scan Unit := do
  spaces
  discard (Scan.many do
    if (← Scan.peek?) = some '#' then comment
    newline
    spaces)

end Highlighter.Toml
