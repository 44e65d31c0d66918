import Highlighter.Segment
import Highlighter.Text.Encoding

/-!
# Segments as output

Segments are shown on a terminal by colors and flags, or listed with their categories. Either way the
output is a list of pieces, in the order in which they are written.
-/

namespace Highlighter

/-! ### Styled text for a terminal

The colors and flags of a segment are switched on by control sequences before its text and reset
after it. A segment in the neutral style is written as it is. -/

namespace Terminal

def select (parameters : Text) : Text :=
  ['\x1b', '['] ++ parameters ++ ['m']

/-- The number of a color in the palette of 256 colors. -/
def number? : Color → Option Nat
  | .default => none
  | .black => some 0
  | .red => some 1
  | .green => some 2
  | .yellow => some 3
  | .blue => some 4
  | .magenta => some 5
  | .cyan => some 6
  | .white => some 7
  | .brightBlack => some 8
  | .brightRed => some 9
  | .brightGreen => some 10
  | .brightYellow => some 11
  | .brightBlue => some 12
  | .brightMagenta => some 13
  | .brightCyan => some 14
  | .brightWhite => some 15

/-- The sequence for a color of the palette; `layer` is 38 for the characters and 48 for what is
behind them. -/
def colorOf (layer : Nat) (color : Color) : List Text :=
  match number? color with
  | some number => [select (Nat.toDigits 10 layer ++ ";5;".toList ++ Nat.toDigits 10 number)]
  | none => []

def flag (code : Char) (set : Bool) : List Text :=
  if set then [select [code]] else []

def switchOn (style : Style) : List Text :=
  colorOf 38 style.foreground ++ colorOf 48 style.background ++ flag '1' style.bold ++
    flag '3' style.italic ++ flag '4' style.underline ++ flag '7' style.reverse

def reset : Text :=
  select ['0']

/-- The pieces that show a segment. After a styled text the flags and then the colors are reset. -/
def pieces (segment : Segment) : List Text :=
  if segment.style.isNeutral then [segment.text]
  else switchOn segment.style ++ [segment.text, reset, reset]

/-- The pieces that show some segments, in the order in which they are written. -/
def render (segments : List Segment) : List Text :=
  segments.flatMap pieces

end Terminal

/-! ### Segments as lines of text

A listing has one line for each segment: the name of its category, the byte offset at which it
starts, and its text between quotes, with a tab between each two. -/

namespace Listing

def line (segment : Segment) : Text :=
  segment.category.name.toList ++ '\t' :: Nat.toDigits 10 segment.start ++
    '\t' :: segment.text.quoted ++ ['\n']

def render (segments : List Segment) : List Text :=
  segments.map line

end Listing

end Highlighter
