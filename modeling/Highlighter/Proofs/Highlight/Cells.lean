import Highlighter.Highlight
import Highlighter.Proofs.Text.LineRange

/-!
# The cells of lines

The cells of some lines tell the text of these lines (`text_cells`), and those of a range of lines
stand one after another among the cells of the whole text, at the bytes of the range
(`exists_cells_lines_eq`).
-/

namespace Highlighter

section Cells

variable (rules : LineRules) (blocks : Array Span)

@[simp]
theorem text_lineCells (line : Line) :
    Cell.text (lineCells rules blocks line) = line.text :=
  Cell.text_paint ..

theorem cells_cons_of_ne_nil (line : Line) {others : List Line} (h : others ≠ []) :
    cells rules blocks (line :: others)
      = lineCells rules blocks line ++
        newlineCell blocks line.stop :: cells rules blocks others := by
  obtain ⟨next, rest, rfl⟩ := List.exists_cons_of_ne_nil h
  rfl

/-- Of the rules, only how candidates are resolved can be told from the cells. -/
theorem cells_congr_resolve {rules rules' : LineRules}
    (h : ∀ line inBlock, Span.resolve (rules.candidates line inBlock)
      = Span.resolve (rules'.candidates line inBlock))
    (lines : List Line) : cells rules blocks lines = cells rules' blocks lines := by
  have hline (line : Line) : lineCells rules blocks line = lineCells rules' blocks line := by
    rw [lineCells, lineCells, h]
  induction lines with
  | nil => rfl
  | cons line others ih =>
      by_cases hothers : others = []
      · subst hothers
        exact hline line
      · rw [cells_cons_of_ne_nil rules blocks line hothers, hline, ih,
          cells_cons_of_ne_nil rules' blocks line hothers]

theorem text_cells (lines : List Line) :
    Cell.text (cells rules blocks lines) = Text.join '\n' (lines.map Line.text) := by
  induction lines with
  | nil => rfl
  | cons line others ih =>
      by_cases hothers : others = []
      · simp [hothers, cells, Text.join]
      · rw [cells_cons_of_ne_nil rules blocks line hothers, List.map_cons,
          Text.join_cons_of_ne_nil '\n' line.text (by simpa using hothers), ← ih]
        have hline := text_lineCells rules blocks line
        simp only [Cell.text] at hline ⊢
        simp [hline, newlineCell]

theorem text_cells_lines (text : Text) :
    Cell.text (cells rules blocks text.lines) = text := by
  rw [text_cells, Text.join_lines]

/-- Lines put in front add cells in front, as many bytes as these lines and their newlines take. -/
theorem exists_cells_append_eq {left right : List Line} {first line : Line}
    (hchain : (left ++ right).IsChain Line.Follows) (hfirst : (left ++ right).head? = some first)
    (hline : right.head? = some line) :
    ∃ before, cells rules blocks (left ++ right) = before ++ cells rules blocks right ∧
      first.offset + (Cell.text before).size = line.offset := by
  have hright : right ≠ [] := by
    rintro rfl
    simp at hline
  induction left generalizing first with
  | nil =>
      obtain rfl : first = line := by simpa [hline, eq_comm] using hfirst
      exact ⟨[], rfl, rfl⟩
  | cons head others ih =>
      obtain rfl : head = first := by simpa using hfirst
      have hne : others ++ right ≠ [] := by simp [hright]
      obtain ⟨next, hnext⟩ := Option.ne_none_iff_exists'.mp (mt List.head?_eq_none_iff.mp hne)
      obtain ⟨hfollows, hrest⟩ := List.isChain_cons.mp hchain
      obtain ⟨before, hcells, hsize⟩ := ih hrest hnext
      refine ⟨lineCells rules blocks head ++ newlineCell blocks head.stop :: before, ?_, ?_⟩
      · rw [List.cons_append, cells_cons_of_ne_nil rules blocks head hne, hcells]
        simp
      · have htext := text_lineCells rules blocks head
        have hnewline : '\n'.utf8Size = 1 := rfl
        rw [← hsize, ← hfollows next hnext]
        simp only [Cell.text] at htext ⊢
        simp [htext, newlineCell, Line.stop, hnewline, Nat.add_assoc]

theorem cells_append {left right : List Line} (hleft : left ≠ []) (hright : right ≠ []) :
    cells rules blocks (left ++ right)
      = cells rules blocks left ++
        newlineCell blocks (left.getLast hleft).stop :: cells rules blocks right := by
  induction left with
  | nil => exact absurd rfl hleft
  | cons line others ih =>
      rw [List.cons_append, cells_cons_of_ne_nil rules blocks line (by simp [hright])]
      by_cases hothers : others = []
      · subst hothers
        rfl
      · rw [ih hothers, cells_cons_of_ne_nil rules blocks line hothers, List.getLast_cons hothers]
        simp

theorem exists_cells_append_eq_append {left : List Line} (right : List Line) (h : left ≠ []) :
    ∃ after, cells rules blocks (left ++ right) = cells rules blocks left ++ after := by
  by_cases hright : right = []
  · exact ⟨[], by simp [hright]⟩
  · exact ⟨_, cells_append rules blocks h hright⟩

/-- **The cells of a range of lines** stand one after another among those of the text, at the bytes
of the range. -/
theorem exists_cells_lines_eq (text : Text) (first last : Nat) :
    ∃ before after,
      cells rules blocks text.lines
        = before ++ cells rules blocks (text.lineRange first last) ++ after ∧
      (Cell.text before).size = (text.lineInterval first last).1 ∧
      (Cell.text before).size + (Cell.text (cells rules blocks (text.lineRange first last))).size
        = (text.lineInterval first last).2 := by
  cases hrange : text.lineRange first last with
  | nil => exact ⟨[], _, rfl, by simp [Text.lineInterval_of_eq_nil hrange, Cell.text, cells]⟩
  | cons line others =>
      have hdrop : text.lines.drop first
          = text.lineRange first last ++ (text.lines.drop first).drop (last - first) :=
        (List.take_append_drop ..).symm
      have hchain := text.isChain_lines
      rw [← List.take_append_drop first text.lines, hdrop, hrange] at hchain
      obtain ⟨head, rest, hlines⟩ := List.exists_cons_of_ne_nil text.lines_ne_nil
      have hhead : head.offset = 0 := text.offset_of_head?_lines head (by rw [hlines]; rfl)
      have hfirst : (text.lines.take first ++ (line :: others ++
          (text.lines.drop first).drop (last - first))).head? = some head := by
        rw [← hrange, ← hdrop, List.take_append_drop, hlines, List.head?_cons]
      obtain ⟨before, hbefore, hsize⟩ := exists_cells_append_eq rules blocks hchain hfirst rfl
      obtain ⟨after, hafter⟩ := exists_cells_append_eq_append rules blocks
        ((text.lines.drop first).drop (last - first)) (List.cons_ne_nil line others)
      have hstop := Text.offset_add_size_join ((List.isChain_append.mp hchain).2.1.left_of_append)
      refine ⟨before, after, ?_, ?_, ?_⟩
      · rw [List.append_assoc, ← hafter, ← hbefore, ← hrange, ← hdrop, List.take_append_drop]
      · rw [Text.lineInterval_of_eq_cons hrange]
        omega
      · rw [Text.lineInterval_of_eq_cons hrange, text_cells, ← hstop]
        omega

end Cells

/-! ### Segments of lines -/

theorem highlightLines_eq_ofCells (text : Text) (blocks : List Span) (rules : RuleSet) (mode : Mode)
    (first last : Nat) :
    highlightLines text blocks rules mode first last
      = Segment.ofCells mode (text.lineInterval first last).1
          (cells (LineRules.ofRuleSet rules) blocks.toArray (text.lineRange first last)) := by
  change Segment.ofCells mode (((text.lineRange first last).head?.map Line.offset).getD 0)
    (cells (LineRules.ofRuleSet rules) blocks.toArray (text.lineRange first last)) = _
  cases hrange : text.lineRange first last with
  | nil => rfl
  | cons line others =>
      rw [Text.lineInterval_of_eq_cons hrange]
      rfl

/-- A range that takes in all lines gives the segments of the whole text. -/
theorem highlightLines_eq_ofCells_lines (text : Text) (blocks : List Span) (rules : RuleSet)
    (mode : Mode) {last : Nat} (h : text.lines.length ≤ last) :
    highlightLines text blocks rules mode 0 last
      = Segment.ofCells mode 0 (cells (LineRules.ofRuleSet rules) blocks.toArray text.lines) := by
  have hrange : (text.lines.drop 0).take (last - 0) = text.lines := by
    rw [List.drop_zero, Nat.sub_zero, List.take_of_length_le h]
  obtain ⟨head, rest, hlines⟩ := List.exists_cons_of_ne_nil text.lines_ne_nil
  have hhead : head.offset = 0 := text.offset_of_head?_lines head (by rw [hlines]; rfl)
  rw [highlightLines]
  simp only [hrange]
  rw [hlines, List.head?_cons, Option.map_some, Option.getD_some, hhead]

theorem highlight_eq_ofCells (text : Text) (rules : RuleSet) (mode : Mode) :
    highlight text rules mode
      = Segment.ofCells mode 0
          (cells (LineRules.ofRuleSet rules) (Block.scan rules text).toArray text.lines) :=
  highlightLines_eq_ofCells_lines text _ rules mode le_rfl

end Highlighter
