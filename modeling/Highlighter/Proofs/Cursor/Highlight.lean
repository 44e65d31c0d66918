import Highlighter.Proofs.Cell.Paint
import Highlighter.Proofs.Cursor.Search
import Highlighter.Proofs.Highlight.Cells
import Highlighter.Proofs.Segment.Builder
import Highlighter.Proofs.Span.Boundary
import Highlighter.Proofs.Span.Sweep

/-!
# Highlighting by byte offsets

A text can be highlighted line by line with nothing but offsets: the stretch before each resolved
span, the span, and the stretch after the last one are pushed one after another, and between two
lines the newline, which stands one byte before the second of them. No slice is refused and no
offset falls below zero, whatever spans are passed as block comments, since what is pushed next
always follows what was pushed before (`highlightLines?_eq`).
-/

namespace Highlighter.Cursor

open Text

/-- The offset one byte before another. There is none before the start of the text. -/
def previous? : Nat → Option Nat
  | 0 => none
  | offset + 1 => some offset

/-- The segments after the bytes from `position` to before `stop`, under spans that are in order. -/
def pushSpans? (text : Text) (mode : Mode) (stop : Nat) :
    List Span → (position : Nat) → List Segment → Option (List Segment)
  | [], position, built => Segment.push? text mode .plain position stop built
  | span :: later, position, built => do
    let built ← Segment.push? text mode .plain position span.start built
    let built ← Segment.push? text mode span.category span.start span.stop built
    pushSpans? text mode stop later span.stop built

def pushLine? (text : Text) (mode : Mode) (rules : LineRules) (blocks : Array Span)
    (built : List Segment) (line : Line) : Option (List Segment) := do
  let found ← candidates? rules line.text (Span.anyIntersects blocks line.offset line.stop)
  let spans := (Span.resolve found).map (·.shift line.offset)
  pushSpans? text mode line.stop spans line.offset built

/-- The segments after one more line and the newline before it. -/
def pushNext? (text : Text) (mode : Mode) (rules : LineRules) (blocks : Array Span)
    (built : List Segment) (line : Line) : Option (List Segment) := do
  let newline ← previous? line.offset
  let category := (newlineCell blocks newline).category
  let built ← Segment.push? text mode category newline line.offset built
  pushLine? text mode rules blocks built line

/-- The segments of neighbouring lines, the last one first. -/
def pushLines? (text : Text) (mode : Mode) (rules : LineRules) (blocks : Array Span) :
    List Line → Option (List Segment)
  | [] => some []
  | line :: others => do
    let built ← pushLine? text mode rules blocks [] line
    others.foldlM (pushNext? text mode rules blocks) built

/-- The segments of the lines numbered from `first` to before `last`, built by offsets. -/
def highlightLines? (text : Text) (blocks : List Span) (rules : RuleSet) (mode : Mode)
    (first last : Nat) : Option (List Segment) := do
  let lines := text.lineRange first last
  let built ← pushLines? text mode (LineRules.ofRuleSet rules) blocks.toArray lines
  return built.reverse

def highlight? (text : Text) (rules : RuleSet) (mode : Mode) : Option (List Segment) := do
  let blocks ← scan? rules text
  highlightLines? text blocks rules mode 0 text.lines.length

/-! ### Lines -/

variable {text : Text} {mode : Mode} {start position stop : Nat} {painted : List Cell}

/-- **Spans are pushed** as they paint the rest of a line. The part of the line before `position` is
`done`. -/
theorem pushSpans?_eq {spans : List Span} {done rest : Text} {offset : Nat}
    (hcells : text.slice? start position = some (Cell.text painted))
    (hrest : text.slice? position stop = some rest) (hdone : offset + done.size = position)
    (hordered : Span.Ordered done.size spans)
    (hspans : ∀ span ∈ spans, span.OnBoundaries (done ++ rest)) :
    pushSpans? text mode stop (spans.map (·.shift offset)) position
        (Segment.ofCells mode start painted).reverse
      = some (Segment.ofCells mode start (painted ++ Cell.paint spans done.size rest)).reverse := by
  induction spans generalizing painted done rest position with
  | nil =>
      rw [List.map_nil, pushSpans?, Cell.paint_nil]
      exact Segment.push?_reverse_ofCells mode .plain hcells hrest
  | cons span later ih =>
      obtain ⟨⟨hstart, hend⟩, hlater⟩ := List.forall_mem_cons.mp hspans
      obtain ⟨hle, hlt, hordered⟩ := hordered
      -- the rest of the line is what is before the span, the span, and what is after it
      obtain ⟨gap, others, rfl, hgap⟩ := hstart.exists_append_of_le hle
      rw [← List.append_assoc] at hend hlater
      obtain ⟨inside, rest, rfl, hinside⟩ :=
        hend.exists_append_of_le (by rw [size_append]; omega)
      have hstartAt : position + gap.size = span.start + offset := by omega
      have hstopAt : span.start + offset + inside.size = span.stop + offset := by
        rw [size_append] at hinside
        omega
      obtain ⟨hgapSlice, hothers⟩ := slice?_parts hrest
      rw [hstartAt] at hgapSlice hothers
      obtain ⟨hinsideSlice, hrestSlice⟩ := slice?_parts hothers
      rw [hstopAt] at hinsideSlice hrestSlice
      have hcellsGap : text.slice? start (span.start + offset)
          = some (Cell.text (painted ++ gap.map (⟨·, .plain⟩))) := by
        rw [Cell.text_append, Cell.text_map]
        exact slice?_trans hcells hgapSlice
      have hcellsInside : text.slice? start (span.stop + offset) = some (Cell.text
          (painted ++ gap.map (⟨·, .plain⟩) ++ inside.map (⟨·, span.category⟩))) := by
        rw [Cell.text_append, Cell.text_map]
        exact slice?_trans hcellsGap hinsideSlice
      have hstop : (done ++ gap ++ inside).size = span.stop := by
        rw [size_append, hinside]
      have hpushed := ih hcellsInside hrestSlice (by omega) (hstop ▸ hordered)
        (by simpa only [List.append_assoc] using hlater)
      rw [hstop] at hpushed
      rw [List.map_cons, pushSpans?, Span.start_shift, Span.stop_shift, Span.category_shift,
        Segment.push?_reverse_ofCells mode .plain hcells hgapSlice, Option.bind_eq_bind,
        Option.bind_some, Segment.push?_reverse_ofCells mode span.category hcellsGap hinsideSlice,
        Option.bind_some, hpushed, ← List.append_assoc gap,
        Cell.paint_cons_append rest hgap (by omega)]
      simp only [List.append_assoc]

theorem pushNext?_eq {line next : Line} (rules : LineRules) {blocks : Array Span}
    (hfollows : line.Follows next)
    (hcells : text.slice? start line.stop = some (Cell.text painted))
    (hnewline : text.slice? line.stop next.offset = some ['\n']) :
    pushNext? text mode rules blocks (Segment.ofCells mode start painted).reverse next
      = pushLine? text mode rules blocks
          (Segment.ofCells mode start (painted ++ [newlineCell blocks line.stop])).reverse
          next := by
  have hprevious : previous? next.offset = some line.stop := by
    rw [← hfollows, previous?]
  have hpush := Segment.push?_reverse_ofCells mode (newlineCell blocks line.stop).category hcells
    hnewline
  rw [pushNext?, hprevious]
  simp only [Option.bind_eq_bind, Option.bind_some, hpush]
  rfl

theorem slice?_lineInterval (rules : LineRules) (blocks : Array Span) (text : Text)
    (first last : Nat) :
    text.slice? (text.lineInterval first last).1 (text.lineInterval first last).2
      = some (Cell.text (cells rules blocks (text.lineRange first last))) := by
  obtain ⟨before, after, hcells, hstart, hstop⟩ :=
    exists_cells_lines_eq rules blocks text first last
  apply slice?_eq_some_iff.mpr
  refine ⟨Cell.text before, Cell.text after, ?_, hstart, hstop⟩
  rw [← Cell.text_append, ← Cell.text_append, ← hcells, text_cells_lines]

section Lines

variable {rules : RuleSet} (hrules : rules.HasNoEmptyEntry) {blocks : Array Span}

include hrules

theorem pushLine?_eq {line : Line}
    (hcells : text.slice? start line.offset = some (Cell.text painted))
    (hline : text.slice? line.offset line.stop = some line.text) :
    pushLine? text mode (LineRules.ofRuleSet rules) blocks
        (Segment.ofCells mode start painted).reverse line
      = some (Segment.ofCells mode start
          (painted ++ lineCells (LineRules.ofRuleSet rules) blocks line)).reverse := by
  have hdone : line.offset + size [] = line.offset := rfl
  rw [pushLine?, candidates?_eq hrules, Option.bind_eq_bind, Option.bind_some]
  apply pushSpans?_eq hcells hline hdone (Span.ordered_resolve _)
  apply Span.onBoundaries_of_mem_resolve
  intro span hspan
  exact LineRules.onBoundaries_of_mem_candidates hspan

/-- **Lines are pushed** as they and the newlines between them are painted. -/
theorem pushLine?_bind_foldlM_eq {line : Line} {others : List Line}
    (hchain : (line :: others).IsChain Line.Follows)
    (hcells : text.slice? start line.offset = some (Cell.text painted))
    (hlines : text.slice? line.offset stop
      = some (join '\n' ((line :: others).map Line.text))) :
    (pushLine? text mode (LineRules.ofRuleSet rules) blocks
        (Segment.ofCells mode start painted).reverse line).bind
        (others.foldlM (pushNext? text mode (LineRules.ofRuleSet rules) blocks))
      = some (Segment.ofCells mode start
          (painted ++ cells (LineRules.ofRuleSet rules) blocks (line :: others))).reverse := by
  induction others generalizing line painted with
  | nil =>
      obtain rfl : line.stop = stop := add_size_of_slice? hlines
      rw [pushLine?_eq hrules hcells hlines]
      rfl
  | cons next others ih =>
      obtain ⟨hfollows, hchain⟩ := List.isChain_cons_cons.mp hchain
      have hjoin : join '\n' ((line :: next :: others).map Line.text)
          = line.text ++ (['\n'] ++ join '\n' ((next :: others).map Line.text)) := rfl
      rw [hjoin] at hlines
      obtain ⟨hline, hrest⟩ := slice?_parts hlines
      obtain ⟨hnewline, hothers⟩ := slice?_parts hrest
      have hnext : line.offset + line.text.size + size ['\n'] = next.offset := hfollows
      rw [hnext] at hnewline hothers
      have hcellsLine : text.slice? start line.stop = some (Cell.text
          (painted ++ lineCells (LineRules.ofRuleSet rules) blocks line)) := by
        rw [Cell.text_append, text_lineCells]
        exact slice?_trans hcells hline
      have hcellsNewline : text.slice? start next.offset = some (Cell.text
          (painted ++ lineCells (LineRules.ofRuleSet rules) blocks line
            ++ [newlineCell blocks line.stop])) := by
        rw [Cell.text_append]
        exact slice?_trans hcellsLine hnewline
      have hpushed := ih hchain hcellsNewline hothers
      rw [pushLine?_eq hrules hcells hline, Option.bind_some, List.foldlM_cons,
        pushNext?_eq _ hfollows hcellsLine hnewline, Option.bind_eq_bind, hpushed,
        cells_cons_of_ne_nil _ _ _ (List.cons_ne_nil next others)]
      simp only [List.append_assoc, List.singleton_append]

/-- **Nothing is refused.** The segments built by offsets are those of the cells. -/
theorem highlightLines?_eq (text : Text) (blocks : List Span) (mode : Mode) (first last : Nat) :
    highlightLines? text blocks rules mode first last
      = some (highlightLines text blocks rules mode first last) := by
  have hslice := slice?_lineInterval (LineRules.ofRuleSet rules) blocks.toArray text first last
  rw [highlightLines_eq_ofCells, highlightLines?]
  cases hrange : text.lineRange first last with
  | nil => rfl
  | cons line others =>
      have hchain : (line :: others).IsChain Line.Follows := by
        rw [← hrange]
        exact (text.isChain_lines.drop first).take (last - first)
      rw [hrange, text_cells, Text.lineInterval_of_eq_cons hrange, ← List.nil_append (join _ _)]
        at hslice
      have hstart : text.slice? line.offset line.offset = some (Cell.text []) :=
        (slice?_parts hslice).1
      have hpushed : pushLines? text mode (LineRules.ofRuleSet rules) blocks.toArray
            (line :: others)
          = some (Segment.ofCells mode line.offset
              (cells (LineRules.ofRuleSet rules) blocks.toArray (line :: others))).reverse :=
        pushLine?_bind_foldlM_eq hrules hchain hstart hslice
      simp only [hpushed, Text.lineInterval_of_eq_cons hrange, Option.bind_eq_bind,
        Option.bind_some, List.reverse_reverse]
      rfl

theorem highlight?_eq (text : Text) (mode : Mode) :
    highlight? text rules mode = some (highlight text rules mode) := by
  rw [highlight?, scan?_eq, Option.bind_eq_bind, Option.bind_some, highlightLines?_eq hrules,
    highlight]

end Lines

/-! ### Slices taken -/

theorem slice?_of_mem_highlightLines {text : Text} {blocks : List Span} {rules : RuleSet}
    {mode : Mode} {first last : Nat} {segment : Segment}
    (h : segment ∈ highlightLines text blocks rules mode first last) :
    text.slice? segment.start segment.stop = some segment.text := by
  rw [highlightLines_eq_ofCells] at h
  obtain ⟨earlier, later, hsegments⟩ := List.append_of_mem h
  have hruns := Segment.maximalRuns_ofCells mode (text.lineInterval first last).1
    (cells (LineRules.ofRuleSet rules) blocks.toArray (text.lineRange first last))
  rw [hsegments] at hruns
  exact hruns.slice?_eq (slice?_lineInterval _ _ text first last)

theorem onBoundaries_of_mem_scan {rules : RuleSet} {text : Text} :
    ∀ span ∈ Block.scan rules text, span.OnBoundaries text := by
  apply Span.forall_mem_sweep (IsBoundary.zero text)
  intro span hspan
  obtain ⟨⟨opener, closer⟩, -, hfind⟩ := List.mem_flatMap.mp (List.mem_mergeSort.mp hspan)
  exact Span.onBoundaries_of_mem_delimited [] hfind

/-- A text is searched and a range of its lines highlighted without a slice being refused, and all
that is found or told starts and stops where a slice may. -/
structure TakesSlices (rules : RuleSet) (text : Text) (blocks : List Span) (mode : Mode)
    (first last : Nat) : Prop where
  scan?_eq : scan? rules text = some (Block.scan rules text)
  block_ends : ∀ span ∈ Block.scan rules text,
    text.isCharBoundary span.start ∧ text.isCharBoundary span.stop
  candidates?_eq : ∀ line inBlock, candidates? (LineRules.ofRuleSet rules) line inBlock
    = some ((LineRules.ofRuleSet rules).candidates line inBlock)
  candidate_ends : ∀ line inBlock, ∀ span ∈ (LineRules.ofRuleSet rules).candidates line inBlock,
    line.isCharBoundary span.start ∧ line.isCharBoundary span.stop
  highlightLines?_eq : highlightLines? text blocks rules mode first last
    = some (highlightLines text blocks rules mode first last)
  segment_ends : ∀ segment ∈ highlightLines text blocks rules mode first last,
    text.isCharBoundary segment.start ∧ text.isCharBoundary segment.stop

/-- **Every slice is taken**: by rules that can be made, in every text, whatever spans are passed as
its block comments, and for every range of its lines. -/
theorem takesSlices_of_built {rules : RuleSet} (h : rules.Built) (text : Text) (blocks : List Span)
    (mode : Mode) (first last : Nat) : TakesSlices rules text blocks mode first last where
  scan?_eq := scan?_eq rules text
  block_ends := by
    intro span hspan
    rw [isCharBoundary_iff, isCharBoundary_iff]
    exact onBoundaries_of_mem_scan span hspan
  candidates?_eq := candidates?_eq h.hasNoEmptyEntry
  candidate_ends := by
    intro line inBlock span hspan
    rw [isCharBoundary_iff, isCharBoundary_iff]
    exact LineRules.onBoundaries_of_mem_candidates hspan
  highlightLines?_eq := highlightLines?_eq h.hasNoEmptyEntry text blocks mode first last
  segment_ends := by
    intro segment hsegment
    exact (isCharBoundary_of_slice? (slice?_of_mem_highlightLines hsegment)).2

/-- Spans that are out of order and past the end of the text, passed as its block comments. -/
theorem takesSlices_of_kotlin :
    Builtin.kotlinRules.Built ∧
      TakesSlices Builtin.kotlinRules "/* ⟨*/ é\nval ü = \"→".toList
        [⟨90, 7, .string⟩, ⟨5, 2, .comment⟩, ⟨1, 99, .plain⟩] .dark 0 9 :=
  have hbuilt := Builtin.built_of_mem_languages List.mem_cons_self
  ⟨hbuilt, takesSlices_of_built hbuilt _ _ .dark 0 9⟩

end Highlighter.Cursor
