import Highlighter.Proofs.Highlight.Cells
import Highlighter.Proofs.Segment.Restrict
import Highlighter.Proofs.Segment.Runs
import Mathlib.Algebra.Group.Nat.Defs

/-!
# Highlighting a range of lines

Highlighting loses no text: whatever spans are passed as block comments, the segments of a range of
lines are the maximal runs of the text from the start of its first line to the end of its last one.
They are also the segments of the whole text, cut to the bytes of the range.
-/

namespace Highlighter

/-! ### Runs of the text -/

/-- **Highlighting partitions the text.** A range of lines stands somewhere in the text, between the
two offsets of `Text.lineInterval`, and its segments are the maximal runs of what stands there; if
the range selects no line, nothing does. All lines together are the whole text. -/
theorem highlightLines_maximalRuns (text : Text) (blocks : List Span) (rules : RuleSet)
    (mode : Mode) (first last : Nat) :
    (∃ before inside after, text = before ++ inside ++ after ∧
      before.size = (text.lineInterval first last).1 ∧
      before.size + inside.size = (text.lineInterval first last).2 ∧
      Segment.MaximalRuns mode before.size inside
        (highlightLines text blocks rules mode first last)) ∧
    Segment.MaximalRuns mode 0 text (highlight text rules mode) := by
  constructor
  · have hruns := highlightLines_eq_ofCells text blocks rules mode first last
    obtain ⟨before, after, hcells, hstart, hstop⟩ := exists_cells_lines_eq
      (LineRules.ofRuleSet rules) blocks.toArray text first last
    refine ⟨_, _, Cell.text after, ?_, hstart, hstop, ?_⟩
    · have htext := text_cells_lines (LineRules.ofRuleSet rules) blocks.toArray text
      rw [hcells] at htext
      simpa [Cell.text] using htext.symm
    · rw [hruns, hstart]
      exact Segment.maximalRuns_ofCells mode _ _
  · have hruns := Segment.maximalRuns_ofCells mode 0
      (cells (LineRules.ofRuleSet rules) (Block.scan rules text).toArray text.lines)
    rw [text_cells_lines] at hruns
    rwa [highlight_eq_ofCells]

/-! ### Some lines only

The segments of a range of lines are those of the whole text, cut to the bytes of the range: a
reader of the range cannot tell that the other lines were passed over. -/

theorem highlightLines_eq_restrict_of_length_le (text : Text) (blocks : List Span)
    (rules : RuleSet) (mode : Mode) (first last : Nat) {whole : Nat}
    (hwhole : text.lines.length ≤ whole) :
    highlightLines text blocks rules mode first last
      = Segment.restrict (text.lineInterval first last).1 (text.lineInterval first last).2
          (highlightLines text blocks rules mode 0 whole) := by
  obtain ⟨before, after, hcells, hstart, hstop⟩ := exists_cells_lines_eq
    (LineRules.ofRuleSet rules) blocks.toArray text first last
  have hcut := Segment.restrict_ofCells mode 0 before
    (cells (LineRules.ofRuleSet rules) blocks.toArray (text.lineRange first last)) after
  rw [Nat.zero_add, hstop, hstart, ← hcells] at hcut
  calc highlightLines text blocks rules mode first last
      = Segment.ofCells mode (text.lineInterval first last).1
          (cells (LineRules.ofRuleSet rules) blocks.toArray (text.lineRange first last)) :=
        highlightLines_eq_ofCells ..
    _ = Segment.restrict (text.lineInterval first last).1 (text.lineInterval first last).2
          (Segment.ofCells mode 0
            (cells (LineRules.ofRuleSet rules) blocks.toArray text.lines)) := hcut.symm
    _ = Segment.restrict (text.lineInterval first last).1 (text.lineInterval first last).2
          (highlightLines text blocks rules mode 0 whole) := by
        rw [highlightLines_eq_ofCells_lines _ _ _ _ hwhole]

/-- **Ranges agree with the whole.** Whatever spans are passed as block comments, the segments of a
range of lines are the segments of all lines, cut to the interval of the range. With the comments of
the text these are the segments of the highlighted text. -/
theorem highlightLines_eq_restrict (text : Text) (blocks : List Span) (rules : RuleSet)
    (mode : Mode) (first last : Nat) {whole : Nat} (hwhole : text.lines.length ≤ whole) :
    highlightLines text blocks rules mode first last
      = Segment.restrict (text.lineInterval first last).1 (text.lineInterval first last).2
          (highlightLines text blocks rules mode 0 whole) ∧
    highlightLines text (Block.scan rules text) rules mode first last
      = Segment.restrict (text.lineInterval first last).1 (text.lineInterval first last).2
          (highlight text rules mode) := by
  constructor
  · exact highlightLines_eq_restrict_of_length_le text blocks rules mode first last hwhole
  · exact highlightLines_eq_restrict_of_length_le text _ rules mode first last le_rfl

/-- Three lines of which a comment crosses the last two, cut to these two. -/
theorem highlightLines_last_two_of_three :
    (Text.lines "a\n/*b\nc*/".toList).length ≤ 2 ^ 64 - 1 ∧
      Text.lineInterval "a\n/*b\nc*/".toList 1 3 = (2, 9) ∧
      highlightLines "a\n/*b\nc*/".toList [⟨2, 9, .comment⟩]
          ⟨[], [], [], ["/*".toList], []⟩ .dark 1 3
        = Segment.restrict 2 9 (highlightLines "a\n/*b\nc*/".toList [⟨2, 9, .comment⟩]
            ⟨[], [], [], ["/*".toList], []⟩ .dark 0 (2 ^ 64 - 1)) ∧
      highlightLines "a\n/*b\nc*/".toList
          (Block.scan ⟨[], [], [], ["/*".toList], []⟩ "a\n/*b\nc*/".toList)
          ⟨[], [], [], ["/*".toList], []⟩ .dark 1 3
        = Segment.restrict 2 9
            (highlight "a\n/*b\nc*/".toList ⟨[], [], [], ["/*".toList], []⟩ .dark) :=
  ⟨by decide, by decide, highlightLines_eq_restrict _ _ _ _ 1 3 (by decide)⟩

end Highlighter
