import Highlighter.Text.Line
import Mathlib.Data.List.Chain

/-!
# Ranges of lines

Lines that follow one another in a text leave exactly one byte, their newline, between two of them
(`Line.Follows`). From this one relation come the byte offsets at which a range of lines starts and
stops (`lineInterval`), and `lines_append_newline` says that text after a line break adds lines and
changes none.
-/

namespace Highlighter

/-- The line stands after another one with a newline between them. -/
def Line.Follows (left right : Line) : Prop :=
  left.stop + 1 = right.offset

/-- Whether the byte at `offset` is in the line. -/
def Line.holds (line : Line) (offset : Nat) : Bool :=
  line.offset ≤ offset && offset < line.stop

@[simp]
theorem Line.holds_eq_true_iff (line : Line) (offset : Nat) :
    line.holds offset = true ↔ line.offset ≤ offset ∧ offset < line.stop := by
  simp [holds]

namespace Text

/-- The lines numbered from `first`, counted from zero, to before `last`. -/
def lineRange (text : Text) (first last : Nat) : List Line :=
  (text.lines.drop first).take (last - first)

/-- The bytes from the start of line `first` to the end of the last line below `last`. No byte if
there is no line from `first` to before `last`. -/
def lineInterval (text : Text) (first last : Nat) : Nat × Nat :=
  if h : first < min last text.lines.length then
    (text.lines[first].offset, text.lines[min last text.lines.length - 1].stop)
  else (0, 0)

/-! ### Cutting at newlines -/

theorem newline_not_mem_of_mem_pieces {separator : Char} {text piece : Text}
    (h : piece ∈ pieces separator text) : separator ∉ piece := by
  induction text generalizing piece with
  | nil => simp_all [pieces]
  | cons char rest ih =>
      unfold pieces at h
      split at h
      · obtain rfl | hrest := List.mem_cons.mp h
        · simp
        · exact ih hrest
      · next hne =>
        split at h
        · next hnil => exact absurd hnil (pieces_ne_nil separator rest)
        · next first others hpieces =>
          obtain rfl | hothers := List.mem_cons.mp h
          · have hfirst := ih (hpieces ▸ List.mem_cons_self)
            simp [hfirst, Ne.symm hne]
          · exact ih (hpieces ▸ List.mem_cons_of_mem _ hothers)

theorem newline_not_mem_of_mem_lines {text : Text} {line : Line} (h : line ∈ text.lines) :
    '\n' ∉ line.text := by
  have hpiece : line.text ∈ (placed 0 (pieces '\n' text)).map Line.text := List.mem_map_of_mem h
  rw [map_text_placed] at hpiece
  exact newline_not_mem_of_mem_pieces hpiece

theorem pieces_append_cons (separator : Char) (left right : Text) :
    pieces separator (left ++ separator :: right)
      = pieces separator left ++ pieces separator right := by
  induction left with
  | nil => simp [pieces]
  | cons char rest ih =>
      obtain ⟨first, others, hpieces⟩ := List.exists_cons_of_ne_nil (pieces_ne_nil separator rest)
      rw [List.cons_append, pieces, pieces, ih, hpieces]
      split <;> rfl

theorem pieces_eq_singleton {separator : Char} {text : Text} (h : separator ∉ text) :
    pieces separator text = [text] := by
  induction text with
  | nil => rfl
  | cons char rest ih =>
      obtain ⟨hchar, hrest⟩ : separator ≠ char ∧ separator ∉ rest := by simpa using h
      rw [pieces, if_neg hchar.symm, ih hrest]

theorem join_cons_of_ne_nil (separator : Char) (piece : Text) {others : List Text}
    (h : others ≠ []) :
    join separator (piece :: others) = piece ++ separator :: join separator others := by
  obtain ⟨next, rest, rfl⟩ := List.exists_cons_of_ne_nil h
  rfl

theorem placed_append {offset : Nat} {left : List Text} (right : List Text) (h : left ≠ []) :
    placed offset (left ++ right)
      = placed offset left ++ placed (offset + (join '\n' left).size + 1) right := by
  induction left generalizing offset with
  | nil => exact absurd rfl h
  | cons piece others ih =>
      rw [List.cons_append, placed, placed]
      by_cases hothers : others = []
      · simp [hothers, placed, join]
      · rw [ih hothers, join_cons_of_ne_nil '\n' piece hothers]
        have hnewline : '\n'.utf8Size = 1 := rfl
        simp [hnewline, Nat.add_assoc, Nat.add_comm, Nat.add_left_comm]

/-- **Text after a line break only adds lines.** -/
theorem lines_append_newline (left right : Text) :
    lines (left ++ '\n' :: right)
      = lines left ++ placed (left.size + 1) (pieces '\n' right) := by
  rw [lines, pieces_append_cons, placed_append _ (pieces_ne_nil '\n' left), join_pieces,
    Nat.zero_add, lines]

/-! ### Where lines stand -/

theorem placed_ne_nil (offset : Nat) {texts : List Text} (h : texts ≠ []) :
    placed offset texts ≠ [] := by
  obtain ⟨piece, others, rfl⟩ := List.exists_cons_of_ne_nil h
  exact List.cons_ne_nil _ _

theorem lines_ne_nil (text : Text) : text.lines ≠ [] :=
  placed_ne_nil 0 (pieces_ne_nil '\n' text)

theorem offset_of_head?_placed (offset : Nat) (texts : List Text) :
    ∀ line ∈ (placed offset texts).head?, line.offset = offset := by
  cases texts <;> simp [placed]

theorem offset_of_head?_lines (text : Text) : ∀ line ∈ text.lines.head?, line.offset = 0 :=
  offset_of_head?_placed 0 _

theorem isChain_placed (offset : Nat) (texts : List Text) :
    (placed offset texts).IsChain Line.Follows := by
  induction texts generalizing offset with
  | nil => exact .nil
  | cons piece others ih =>
      apply List.isChain_cons.mpr
      refine ⟨?_, ih _⟩
      intro next hnext
      exact (offset_of_head?_placed _ others next hnext).symm

theorem isChain_lines (text : Text) : text.lines.IsChain Line.Follows :=
  isChain_placed 0 _

theorem stop_lt_offset {first : Line} {others : List Line}
    (h : (first :: others).IsChain Line.Follows) : ∀ line ∈ others, first.stop < line.offset := by
  induction others generalizing first with
  | nil => simp
  | cons next others ih =>
      obtain ⟨hfollows, hrest⟩ := List.isChain_cons_cons.mp h
      unfold Line.Follows at hfollows
      intro line hline
      obtain rfl | hothers := List.mem_cons.mp hline
      · omega
      · have hlater := ih hrest line hothers
        have hnext : next.offset ≤ next.stop := Nat.le_add_right ..
        omega

/-- Lines in a row take the bytes from the start of the first to the end of the last. -/
theorem offset_add_size_join {first : Line} {others : List Line}
    (h : (first :: others).IsChain Line.Follows) :
    first.offset + (join '\n' ((first :: others).map Line.text)).size
      = ((first :: others).getLast (List.cons_ne_nil _ _)).stop := by
  induction others generalizing first with
  | nil => rfl
  | cons next others ih =>
      obtain ⟨hfollows, hrest⟩ := List.isChain_cons_cons.mp h
      rw [List.getLast_cons_cons, ← ih hrest, ← hfollows]
      have hnewline : '\n'.utf8Size = 1 := rfl
      simp [join, Line.stop, hnewline, Nat.add_assoc]

theorem stop_getLast_lines {text : Text} {first : Line} {others : List Line}
    (h : text.lines = first :: others) :
    ((first :: others).getLast (List.cons_ne_nil _ _)).stop = text.size := by
  have hchain := text.isChain_lines
  have hjoin := text.join_lines
  have hfirst : first.offset = 0 := text.offset_of_head?_lines first (by rw [h]; rfl)
  rw [h] at hchain hjoin
  rw [← offset_add_size_join hchain, hfirst, hjoin, Nat.zero_add]

/-! ### The interval of a range -/

variable {text : Text} {first last : Nat}

theorem length_lineRange (text : Text) (first last : Nat) :
    (text.lineRange first last).length = min last text.lines.length - first := by
  rw [lineRange, List.length_take, List.length_drop]
  omega

theorem lineInterval_of_eq_nil (h : text.lineRange first last = []) :
    text.lineInterval first last = (0, 0) := by
  have hlength := length_lineRange text first last
  rw [h, List.length_nil] at hlength
  unfold lineInterval
  exact dif_neg (by omega)

/-- The interval of a range starts with its first line and stops with its last one. -/
theorem lineInterval_of_eq_cons {line : Line} {others : List Line}
    (h : text.lineRange first last = line :: others) :
    text.lineInterval first last
      = (line.offset, ((line :: others).getLast (List.cons_ne_nil _ _)).stop) := by
  have hlength := length_lineRange text first last
  have hpos : 0 < (text.lineRange first last).length := by simp [h]
  have hline : line = (text.lineRange first last)[0] := by simp [h]
  have hlast : (line :: others).getLast (List.cons_ne_nil _ _)
      = (text.lineRange first last)[(text.lineRange first last).length - 1] := by
    simp [h, List.getLast_eq_getElem]
  have hindex : first + ((text.lineRange first last).length - 1)
      = min last text.lines.length - 1 := by omega
  rw [lineInterval, dif_pos (by omega), hlast, hline]
  simp only [lineRange, List.getElem_take, List.getElem_drop, Nat.add_zero] at hindex ⊢
  simp only [hindex]

end Text

end Highlighter
