import Highlighter.Text.Basic

/-!
# Lines

A text is cut into lines at its newlines. A newline at the end of the text leaves a last, empty
line, and the empty text has one empty line; `join_lines` says that nothing else is lost.
-/

namespace Highlighter

/-- One line of a text, without its newline, and the byte offset at which it starts. -/
structure Line where
  offset : Nat
  text : Text
deriving DecidableEq, Repr

namespace Line

/-- The byte offset just past the line's last character. -/
def stop (line : Line) : Nat :=
  line.offset + line.text.size

end Line

namespace Text

/-- The pieces of a text between the occurrences of a separator. -/
def pieces (separator : Char) : Text → List Text
  | [] => [[]]
  | char :: rest =>
    if char = separator then [] :: pieces separator rest
    else
      match pieces separator rest with
      | [] => [[char]]
      | first :: others => (char :: first) :: others

theorem pieces_ne_nil (separator : Char) (text : Text) : pieces separator text ≠ [] := by
  cases text with
  | nil => simp [pieces]
  | cons char rest =>
    rw [pieces]
    split
    · simp
    · split <;> simp

def join (separator : Char) : List Text → Text
  | [] => []
  | [piece] => piece
  | piece :: next :: others => piece ++ separator :: join separator (next :: others)

theorem join_cons_cons (separator char : Char) (piece : Text) (others : List Text) :
    join separator ((char :: piece) :: others) = char :: join separator (piece :: others) := by
  cases others <;> simp [join]

theorem join_pieces (separator : Char) (text : Text) :
    join separator (pieces separator text) = text := by
  induction text with
  | nil => rfl
  | cons char rest ih =>
    rw [pieces]
    split
    · next hseparator =>
      obtain ⟨first, others, hpieces⟩ := List.exists_cons_of_ne_nil (pieces_ne_nil separator rest)
      rw [hpieces, join, ← hpieces, ih, hseparator]
      rfl
    · split
      · next hnil => exact absurd hnil (pieces_ne_nil separator rest)
      · next first others hpieces => rw [join_cons_cons, ← hpieces, ih]

/-- Pieces placed one after another from a byte offset on, a newline apart. -/
def placed (offset : Nat) : List Text → List Line
  | [] => []
  | piece :: others => ⟨offset, piece⟩ :: placed (offset + piece.size + 1) others

def lines (text : Text) : List Line :=
  placed 0 (pieces '\n' text)

theorem map_text_placed (offset : Nat) (texts : List Text) :
    (placed offset texts).map Line.text = texts := by
  induction texts generalizing offset with
  | nil => rfl
  | cons piece others ih => simp [placed, ih]

/-- The lines of a text, a newline between each two, are the text. -/
theorem join_lines (text : Text) : join '\n' ((lines text).map Line.text) = text := by
  rw [lines, map_text_placed, join_pieces]

end Text

end Highlighter
