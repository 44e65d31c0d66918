import Highlighter.Proofs.Cell.Lookup
import Highlighter.Proofs.Highlight.Cells
import Highlighter.Proofs.Span.Coverage

/-!
# The category of each byte

`categoryAt` says for one byte of a text which category it has, from the comments of the text and
the candidates on the byte's line alone: nothing is resolved, painted or joined.
`categoryAt_highlight` says that highlighting follows it.
-/

namespace Highlighter

/-- The category of a byte of a line that no block comment touches: that of the candidate that
outranks all others that hold the byte. -/
def LineRules.categoryAt (rules : LineRules) (line : Text) (offset : Nat) : Category :=
  match Span.firstAt? offset (rules.candidates line false) with
  | some span => span.category
  | none => .plain

/-- The category of a byte of a text. -/
def categoryAt (rules : RuleSet) (text : Text) (offset : Nat) : Category :=
  let blocks := Block.scan rules text
  if blocks.any (·.contains offset) then .comment
  else if text.charAt? offset = some '\n' then .plain
  else
    match text.lines.find? (·.holds offset) with
    | some line =>
      if blocks.any (·.meets line.offset line.stop) then .comment
      else (LineRules.ofRuleSet rules).categoryAt line.text (offset - line.offset)
    | none => .plain

variable {rules : LineRules} {blocks : List Span} {cursor offset : Nat}

/-! ### One line -/

theorem Span.categoryAt_resolve (candidates : List Span) (offset : Nat) :
    categoryAt (resolve candidates) offset
      = match firstAt? offset candidates with
        | some span => span.category
        | none => .plain := by
  have hfind := find?_resolve candidates offset
  rw [categoryAt]
  cases hresolved : (resolve candidates).find? (·.contains offset) <;>
    cases hfirst : firstAt? offset candidates <;> simp_all

theorem category_at?_lineCells (hblocks : Span.Ordered cursor blocks) {line : Line}
    (h : offset < line.text.size) :
    (Cell.at? offset (lineCells rules blocks.toArray line)).map (·.category)
      = some (if blocks.any (·.meets line.offset line.stop) then .comment
          else rules.categoryAt line.text offset) := by
  have hlt : line.offset < line.stop := by
    rw [Line.stop]
    omega
  have hbound (inBlock : Bool) : ∀ span ∈ Span.resolve (rules.candidates line.text inBlock),
      span.OnBoundaries line.text :=
    Span.onBoundaries_of_mem_resolve fun span => LineRules.onBoundaries_of_mem_candidates
  have hpaint := Cell.category_at?_paint [] (Span.ordered_resolve _)
    (hbound (Span.anyIntersects blocks.toArray line.offset line.stop)) h
  rw [lineCells]
  simp only [Text.size_nil, Nat.zero_add] at hpaint
  rw [hpaint, Span.anyIntersects_eq_any_meets hblocks hlt, Span.categoryAt_resolve]
  cases hmeets : blocks.any (·.meets line.offset line.stop) with
  | false => rfl
  | true =>
      have hne : line.text ≠ [] := by
        rintro hnil
        simp [hnil] at h
      simp [LineRules.candidates, hne, Span.firstAt?, Span.first?, Span.contains, h]

/-! ### All lines -/

theorem at?_cells_cons_cons {first next : Line} {others : List Line} (hfollows : first.Follows next)
    (h : first.stop < offset) :
    Cell.at? (offset - first.offset) (cells rules blocks.toArray (first :: next :: others))
      = Cell.at? (offset - next.offset) (cells rules blocks.toArray (next :: others)) := by
  have hnewline : '\n'.utf8Size = 1 := rfl
  rw [Line.Follows, Line.stop] at hfollows
  rw [Line.stop] at h
  rw [cells, Cell.at?_append_of_le (by rw [text_lineCells]; omega), text_lineCells, Cell.at?]
  simp only [newlineCell, hnewline]
  rw [if_neg (by omega)]
  congr 1
  omega

/-- A byte of a line has the cell that it has in the line. -/
theorem at?_cells_of_find?_eq_some (rules : LineRules) (blocks : List Span) {first line : Line}
    {others : List Line} (hchain : (first :: others).IsChain Line.Follows)
    (h : (first :: others).find? (·.holds offset) = some line) :
    Cell.at? (offset - first.offset) (cells rules blocks.toArray (first :: others))
      = Cell.at? (offset - line.offset) (lineCells rules blocks.toArray line) := by
  induction others generalizing first with
  | nil =>
      obtain ⟨-, rfl⟩ : first.holds offset = true ∧ first = line := by simpa using h
      rfl
  | cons next others ih =>
      obtain ⟨hfollows, hrest⟩ := List.isChain_cons_cons.mp hchain
      rw [List.find?_cons] at h
      cases hfirst : first.holds offset with
      | true =>
          obtain rfl : first = line := by simpa [hfirst] using h
          rw [Line.holds_eq_true_iff, Line.stop] at hfirst
          rw [cells, Cell.at?_append_of_lt (by rw [text_lineCells]; omega)]
      | false =>
          rw [hfirst] at h
          have hline := Text.stop_lt_offset hchain line (List.mem_of_find?_eq_some h)
          have hholds : line.offset ≤ offset ∧ offset < line.stop := by
            simpa using List.find?_some h
          rw [at?_cells_cons_cons hfollows (by omega), ih hrest h]

/-- A byte between lines has the cell of a newline. -/
theorem at?_cells_of_find?_eq_none (rules : LineRules) (blocks : List Span) {first : Line}
    {others : List Line} (hchain : (first :: others).IsChain Line.Follows)
    (h : (first :: others).find? (·.holds offset) = none) (hstart : first.offset ≤ offset)
    (hstop : offset < ((first :: others).getLast (List.cons_ne_nil _ _)).stop) :
    Cell.at? (offset - first.offset) (cells rules blocks.toArray (first :: others))
      = some (newlineCell blocks.toArray offset) := by
  induction others generalizing first with
  | nil =>
      have hmiss := List.find?_eq_none.mp h first List.mem_cons_self
      simp_all
  | cons next others ih =>
      obtain ⟨hfollows, hrest⟩ := List.isChain_cons_cons.mp hchain
      have hmiss := List.find?_eq_none.mp h first List.mem_cons_self
      rw [Line.holds_eq_true_iff] at hmiss
      obtain heq | hlt := Nat.eq_or_lt_of_le (by omega : first.stop ≤ offset)
      · have hnewline : '\n'.utf8Size = 1 := rfl
        rw [← heq, cells, Cell.at?_append_of_le (by simp [Line.stop])]
        simp [Line.stop, Cell.at?, newlineCell, hnewline]
      · rw [List.getLast_cons_cons] at hstop
        rw [Line.Follows] at hfollows
        have hnone := List.find?_eq_none.mpr fun line hline =>
          List.find?_eq_none.mp h line (List.mem_cons_of_mem _ hline)
        rw [at?_cells_cons_cons hfollows hlt, ih hrest hnone (by omega) hstop]

/-! ### The whole text -/

theorem at?_cells_lines_of_eq_some (rules : LineRules) (blocks : List Span) {text : Text}
    {line : Line} (h : text.lines.find? (·.holds offset) = some line) :
    Cell.at? offset (cells rules blocks.toArray text.lines)
      = Cell.at? (offset - line.offset) (lineCells rules blocks.toArray line) := by
  obtain ⟨first, others, hlines⟩ := List.exists_cons_of_ne_nil text.lines_ne_nil
  have hfirst : first.offset = 0 := text.offset_of_head?_lines first (by rw [hlines]; rfl)
  have hchain := text.isChain_lines
  rw [hlines] at hchain h ⊢
  have hat := at?_cells_of_find?_eq_some rules blocks hchain h
  rwa [hfirst, Nat.sub_zero] at hat

theorem at?_cells_lines_of_eq_none (rules : LineRules) (blocks : List Span) {text : Text}
    (h : text.lines.find? (·.holds offset) = none) (hin : offset < text.size) :
    Cell.at? offset (cells rules blocks.toArray text.lines)
      = some (newlineCell blocks.toArray offset) := by
  obtain ⟨first, others, hlines⟩ := List.exists_cons_of_ne_nil text.lines_ne_nil
  have hfirst : first.offset = 0 := text.offset_of_head?_lines first (by rw [hlines]; rfl)
  have hlast := Text.stop_getLast_lines hlines
  have hchain := text.isChain_lines
  rw [hlines] at hchain h ⊢
  have hat := at?_cells_of_find?_eq_none rules blocks hchain h (by omega) (by omega)
  rwa [hfirst, Nat.sub_zero] at hat

theorem charAt?_ne_newline_of_eq_some {text : Text} {line : Line}
    (h : text.lines.find? (·.holds offset) = some line) : text.charAt? offset ≠ some '\n' := by
  -- the cells tell the text, whatever the rules and the comments are
  have hchar := Cell.map_char_at?
    (cells (LineRules.ofRuleSet .empty) [].toArray text.lines) offset
  rw [text_cells_lines, at?_cells_lines_of_eq_some _ [] h, Cell.map_char_at?,
    text_lineCells] at hchar
  rw [← hchar]
  intro hnewline
  apply Text.newline_not_mem_of_mem_lines (List.mem_of_find?_eq_some h)
  exact Text.mem_of_charAt? hnewline

theorem charAt?_eq_newline_of_eq_none {text : Text}
    (h : text.lines.find? (·.holds offset) = none) (hin : offset < text.size) :
    text.charAt? offset = some '\n' := by
  have hchar := Cell.map_char_at?
    (cells (LineRules.ofRuleSet .empty) [].toArray text.lines) offset
  rw [text_cells_lines, at?_cells_lines_of_eq_none _ [] h hin] at hchar
  exact hchar.symm

theorem category_at?_cells_lines (rules : RuleSet) {text : Text} (h : offset < text.size) :
    (Cell.at? offset (cells (LineRules.ofRuleSet rules) (Block.scan rules text).toArray
        text.lines)).map (·.category)
      = some (categoryAt rules text offset) := by
  have hblocks := Block.ordered_scan rules text
  unfold categoryAt
  cases hfind : text.lines.find? (·.holds offset) with
  | some line =>
      have hholds : line.offset ≤ offset ∧ offset < line.stop := by
        simpa using List.find?_some hfind
      have hin : offset - line.offset < line.text.size := by
        rw [Line.stop] at hholds
        omega
      have hchar := charAt?_ne_newline_of_eq_some hfind
      rw [at?_cells_lines_of_eq_some _ _ hfind, category_at?_lineCells hblocks hin]
      by_cases hblock : (Block.scan rules text).any (·.contains offset) = true
      · have hmeets : (Block.scan rules text).any (·.meets line.offset line.stop) = true :=
          (Span.any_meets_eq_true_iff _ _ _).mpr ⟨offset, hholds.1, hholds.2, hblock⟩
        simp only [hblock, hmeets, if_true]
      · simp only [hblock, if_false, hchar]
        rfl
  | none =>
      have hchar := charAt?_eq_newline_of_eq_none hfind h
      rw [at?_cells_lines_of_eq_none _ _ hfind h, hchar, newlineCell,
        Span.anyContains_eq_any hblocks]
      rfl

/-- **Highlighting follows the rule for single bytes**, and gives no category to a byte past the end
of the text. -/
theorem categoryAt_highlight (rules : RuleSet) (mode : Mode) (text : Text) (offset : Nat) :
    Segment.categoryAt? (highlight text rules mode) offset
      = if offset < text.size then some (categoryAt rules text offset) else none := by
  have hsegments := Segment.categoryAt?_ofCells mode 0
    (cells (LineRules.ofRuleSet rules) (Block.scan rules text).toArray text.lines) offset
  rw [Nat.zero_add] at hsegments
  rw [highlight_eq_ofCells, hsegments]
  split
  · next hin => exact category_at?_cells_lines rules hin
  · rw [Cell.at?_eq_none_of_le (by rw [text_cells_lines]; omega), Option.map_none]

end Highlighter
