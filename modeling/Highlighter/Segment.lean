import Highlighter.Category
import Highlighter.Span
import Highlighter.Text.Basic

/-!
# Cells and segments

A cell is a character with its category, and a segment is a longest run of neighbouring cells of one
category.
-/

namespace Highlighter

/-! ### Cells

A cell is a character with its category. `Cell.paint` gives the characters of a text the categories
of the spans that hold them; a character outside all spans is plain. -/

/-- A character with its category. -/
structure Cell where
  char : Char
  category : Category
deriving DecidableEq, Repr

namespace Cell

/-- The cells of a text that starts at byte `offset`, under spans that are in order and disjoint. -/
def paint (spans : List Span) (offset : Nat) : Text → List Cell
  | [] => []
  | char :: rest =>
    match spans.dropWhile (·.stop ≤ offset) with
    | [] => ⟨char, .plain⟩ :: paint [] (offset + char.utf8Size) rest
    | span :: later =>
      ⟨char, if span.start ≤ offset then span.category else .plain⟩ ::
        paint (span :: later) (offset + char.utf8Size) rest

def text (cells : List Cell) : Text :=
  cells.map (·.char)

@[simp]
theorem text_paint (spans : List Span) (offset : Nat) (text : Text) :
    Cell.text (paint spans offset text) = text := by
  induction text generalizing spans offset with
  | nil => rfl
  | cons char rest ih =>
    have hrest (spans : List Span) := ih spans (offset + char.utf8Size)
    simp only [Cell.text] at hrest ⊢
    rw [paint]
    split <;> simp [hrest]

end Cell

/-! ### Segments

A segment is a longest run of neighbouring cells of one category, with the byte offset at which it
starts and the style in which it is shown. `joined_ofCells` says that segments keep all text. -/

/-- A run of text of one category. -/
structure Segment where
  start : Nat
  text : Text
  category : Category
  style : Style
deriving DecidableEq, Repr

namespace Segment

def stop (segment : Segment) : Nat :=
  segment.start + segment.text.size

/-- The segments that result when one more cell comes before the first segment. -/
def prepend (mode : Mode) (offset : Nat) (cell : Cell) : List Segment → List Segment
  | [] => [⟨offset, [cell.char], cell.category, cell.category.style mode⟩]
  | first :: others =>
    if first.category = cell.category then
      { first with start := offset, text := cell.char :: first.text } :: others
    else ⟨offset, [cell.char], cell.category, cell.category.style mode⟩ :: first :: others

/-- The segments of cells that start at byte `offset`. -/
def ofCells (mode : Mode) (offset : Nat) : List Cell → List Segment
  | [] => []
  | cell :: rest =>
    prepend mode offset cell (ofCells mode (offset + cell.char.utf8Size) rest)

def joined (segments : List Segment) : Text :=
  segments.flatMap (·.text)

@[simp]
theorem joined_prepend (mode : Mode) (offset : Nat) (cell : Cell) (segments : List Segment) :
    joined (prepend mode offset cell segments) = cell.char :: joined segments := by
  cases segments with
  | nil => rfl
  | cons first others =>
    rw [prepend]
    split <;> simp [joined]

theorem joined_ofCells (mode : Mode) (offset : Nat) (cells : List Cell) :
    joined (ofCells mode offset cells) = Cell.text cells := by
  induction cells generalizing offset with
  | nil => rfl
  | cons cell rest ih => simp [ofCells, ih, Cell.text]

end Segment

end Highlighter
