import Highlighter.Proofs.Highlight.Cells
import Highlighter.Proofs.Segment.Restrict
import Highlighter.Proofs.Span.Coverage
import Highlighter.Proofs.Span.Delimited
import Highlighter.Proofs.Span.Ordered
import Highlighter.RuleSet

/-!
# Highlighting a text that goes on

Lines that are added to a text leave the highlighting of the lines before them as it was
(`restrict_highlight_append_newline`). The lists of block comments may differ, since a comment that
was open at the end of the text may be closed by what is added; but no opener and no closer lies
across the line break, so both lists hold the same bytes of the old lines.
-/

namespace Highlighter

/-! ### Block comments matter by the bytes they hold

How a line is painted depends on the spans of the block comments only through the bytes that they
hold. So two lists of spans that hold the same bytes of some lines give these lines the same cells
(`cells_placed_congr`), however the bytes are divided among the spans and wherever the lines
stand. -/

section

variable {rules : LineRules} {blocks blocks' : List Span} {cursor cursor' : Nat}

theorem newlineCell_congr (hblocks : Span.Ordered cursor blocks)
    (hblocks' : Span.Ordered cursor' blocks') {offset offset' : Nat}
    (h : blocks.any (·.contains offset) = blocks'.any (·.contains offset')) :
    newlineCell blocks.toArray offset = newlineCell blocks'.toArray offset' := by
  rw [newlineCell, newlineCell, Span.anyContains_eq_any hblocks,
    Span.anyContains_eq_any hblocks', h]

theorem lineCells_congr (hblocks : Span.Ordered cursor blocks)
    (hblocks' : Span.Ordered cursor' blocks') {offset offset' : Nat} {text : Text}
    (h : ∀ distance < text.size, blocks.any (·.contains (offset + distance))
      = blocks'.any (·.contains (offset' + distance))) :
    lineCells rules blocks.toArray ⟨offset, text⟩
      = lineCells rules blocks'.toArray ⟨offset', text⟩ := by
  rw [lineCells, lineCells]
  by_cases htext : text = []
  · simp [htext, Cell.paint]
  · have hsize : text.size ≠ 0 := mt (Text.size_eq_zero_iff text).mp htext
    have hmeets : Span.anyIntersects blocks.toArray offset (offset + text.size)
        = Span.anyIntersects blocks'.toArray offset' (offset' + text.size) := by
      rw [Span.anyIntersects_eq_any_meets hblocks (by omega),
        Span.anyIntersects_eq_any_meets hblocks' (by omega), Bool.eq_iff_iff,
        Span.any_meets_eq_true_iff, Span.any_meets_eq_true_iff]
      constructor
      · rintro ⟨position, hstart, hstop, hcontains⟩
        refine ⟨offset' + (position - offset), by omega, by omega, ?_⟩
        rw [← h _ (by omega), Nat.add_sub_cancel' hstart, hcontains]
      · rintro ⟨position, hstart, hstop, hcontains⟩
        refine ⟨offset + (position - offset'), by omega, by omega, ?_⟩
        rw [h _ (by omega), Nat.add_sub_cancel' hstart, hcontains]
    simp only [Line.stop, hmeets]

/-- **Spans that hold the same bytes** of some lines give these lines the same cells, also when the
lines stand elsewhere. -/
theorem cells_placed_congr (hblocks : Span.Ordered cursor blocks)
    (hblocks' : Span.Ordered cursor' blocks') {offset offset' : Nat} {texts : List Text}
    (h : ∀ distance < (Text.join '\n' texts).size, blocks.any (·.contains (offset + distance))
      = blocks'.any (·.contains (offset' + distance))) :
    cells rules blocks.toArray (Text.placed offset texts)
      = cells rules blocks'.toArray (Text.placed offset' texts) := by
  induction texts generalizing offset offset' with
  | nil => rfl
  | cons text others ih =>
      rw [Text.placed, Text.placed]
      cases others with
      | nil => exact lineCells_congr hblocks hblocks' h
      | cons next rest =>
          have hplaced (start : Nat) : Text.placed start (next :: rest) ≠ [] :=
            Text.placed_ne_nil start (List.cons_ne_nil _ _)
          have hnewline : '\n'.utf8Size = 1 := rfl
          rw [Text.join, Text.size_append, Text.size_cons, hnewline] at h
          have hline : lineCells rules blocks.toArray ⟨offset, text⟩
              = lineCells rules blocks'.toArray ⟨offset', text⟩ :=
            lineCells_congr hblocks hblocks' fun distance hin => h distance (by omega)
          have hbreak : newlineCell blocks.toArray (Line.stop ⟨offset, text⟩)
              = newlineCell blocks'.toArray (Line.stop ⟨offset', text⟩) :=
            newlineCell_congr hblocks hblocks' (h text.size (by omega))
          rw [cells_cons_of_ne_nil _ _ _ (hplaced _), cells_cons_of_ne_nil _ _ _ (hplaced _),
            hline, hbreak, ih]
          intro distance hin
          simpa only [Nat.add_assoc] using h (text.size + 1 + distance) (by omega)

end

/-! ### Lines that are added -/

theorem Block.any_contains_scan_append_newline (rules : RuleSet) (earlier later : Text)
    {offset : Nat} (h : offset < earlier.size) :
    (scan rules (earlier ++ '\n' :: later)).any (·.contains offset)
      = (scan rules earlier).any (·.contains offset) := by
  rw [any_contains_scan, any_contains_scan, finds, finds, List.any_flatMap, List.any_flatMap,
    Bool.eq_iff_iff, List.any_eq_true, List.any_eq_true]
  apply exists_congr
  rintro ⟨opener, closer⟩
  apply and_congr_right
  intro hmarker
  obtain ⟨hopener, hcloser⟩ := RuleSet.newline_not_mem_of_mem_blockMarkers hmarker
  rw [Span.any_contains_delimited_append_cons hopener hcloser later (by omega)]

/-- The lines of a text keep their cells when lines are added after them. -/
theorem cells_scan_append_newline (rules : RuleSet) (lineRules : LineRules)
    (earlier later : Text) :
    cells lineRules (Block.scan rules (earlier ++ '\n' :: later)).toArray earlier.lines
      = cells lineRules (Block.scan rules earlier).toArray earlier.lines := by
  apply cells_placed_congr (Block.ordered_scan ..) (Block.ordered_scan ..)
  intro distance h
  rw [Text.join_pieces] at h
  exact Block.any_contains_scan_append_newline rules earlier later (by omega)

/-- **Added lines change nothing before them.** The segments of a text that goes on after a line
break, cut to the bytes before the break, are the segments of the text without what was added. -/
theorem restrict_highlight_append_newline (rules : RuleSet) (mode : Mode) (earlier later : Text) :
    Segment.restrict 0 earlier.size (highlight (earlier ++ '\n' :: later) rules mode)
      = highlight earlier rules mode := by
  obtain ⟨after, hafter⟩ := exists_cells_append_eq_append (LineRules.ofRuleSet rules)
    (Block.scan rules (earlier ++ '\n' :: later)).toArray
    (Text.placed (earlier.size + 1) (Text.pieces '\n' later)) earlier.lines_ne_nil
  rw [← Text.lines_append_newline, cells_scan_append_newline] at hafter
  have hstop : 0 + (Cell.text (cells (LineRules.ofRuleSet rules)
      (Block.scan rules earlier).toArray earlier.lines)).size = earlier.size := by
    rw [text_cells_lines, Nat.zero_add]
  calc Segment.restrict 0 earlier.size (highlight (earlier ++ '\n' :: later) rules mode)
      = Segment.restrict 0 earlier.size (Segment.ofCells mode 0
          (cells (LineRules.ofRuleSet rules) (Block.scan rules earlier).toArray earlier.lines
            ++ after)) := by
        rw [highlight_eq_ofCells, hafter]
    _ = Segment.ofCells mode 0
          (cells (LineRules.ofRuleSet rules) (Block.scan rules earlier).toArray earlier.lines) :=
        Segment.restrict_ofCells_append_of_stop_eq _ after le_rfl hstop
    _ = highlight earlier rules mode := (highlight_eq_ofCells earlier rules mode).symm

end Highlighter
