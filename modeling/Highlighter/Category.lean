import Highlighter.Text.Basic

/-!
# Categories and their styles

A category says what a stretch of text is in its language, and the palette gives it a style for each
mode.
-/

namespace Highlighter

/-! ### Lexical categories -/

/-- What a run of text is. -/
inductive Category where
  | comment
  | string
  | keyword
  | typeName
  | modifier
  | plain
deriving DecidableEq, Repr

namespace Category

/-- The rank in a conflict of two categories: the lower one wins. -/
def priority : Category → Nat
  | comment => 0
  | string => 1
  | keyword => 2
  | typeName => 3
  | modifier => 4
  | plain => 255

def name : Category → String
  | comment => "Comment"
  | string => "String"
  | keyword => "Keyword"
  | typeName => "Type"
  | modifier => "Modifier"
  | plain => "Plain"

theorem priority_injective {left right : Category} (h : left.priority = right.priority) :
    left = right := by
  cases left <;> cases right <;> simp_all [priority]

end Category

/-! ### Styles

A style is what a terminal can show of a character besides its shape. -/

/-- The color that a terminal uses by itself and its sixteen named colors. -/
inductive Color where
  | default
  | black
  | red
  | green
  | yellow
  | blue
  | magenta
  | cyan
  | white
  | brightBlack
  | brightRed
  | brightGreen
  | brightYellow
  | brightBlue
  | brightMagenta
  | brightCyan
  | brightWhite
deriving DecidableEq, Repr

/-- Colors and flags of a character on a terminal. -/
structure Style where
  foreground : Color := .default
  background : Color := .default
  bold : Bool := false
  italic : Bool := false
  underline : Bool := false
  reverse : Bool := false
deriving DecidableEq, Repr

namespace Style

/-- The style of text that is shown as it is. -/
def neutral : Style := {}

/-- Whether text in this style is shown as it is. -/
def isNeutral (style : Style) : Bool :=
  style = neutral

end Style

/-! ### Display modes -/

/-- The background that a palette is made for. -/
inductive Mode where
  | light
  | dark
deriving DecidableEq, Repr

namespace Mode

/-- The mode for a switch that is on for a dark background. -/
def ofDark (dark : Bool) : Mode :=
  if dark then .dark else .light

/-- The mode that a name stands for. Blanks around the name and the case of ASCII letters do not
matter. -/
def ofName? (name : Text) : Option Mode :=
  let plain := name.trim.map Char.toLower
  if plain = "light".toList then some .light
  else if plain = "dark".toList then some .dark
  else none

end Mode

/-! ### The palette

Every category but plain text stands out in both modes. -/

namespace Category

def style (mode : Mode) : Category → Style
  | comment => { foreground := .brightBlack, italic := true }
  | string =>
    match mode with
    | .light => { foreground := .green }
    | .dark => { foreground := .brightGreen }
  | keyword =>
    match mode with
    | .light => { foreground := .magenta, bold := true }
    | .dark => { foreground := .brightMagenta, bold := true }
  | typeName =>
    match mode with
    | .light => { foreground := .blue }
    | .dark => { foreground := .brightYellow }
  | modifier =>
    match mode with
    | .light => { foreground := .cyan, underline := true }
    | .dark => { foreground := .brightCyan, underline := true }
  | plain => .neutral

end Category

end Highlighter
