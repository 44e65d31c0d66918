import Highlighter.RuleSet
import Highlighter.Segment
import Highlighter.Span
import Highlighter.Span.Resolve
import Highlighter.Text.Line
import Highlighter.Vocabulary

/-!
# Highlighting

Block comments are found over the whole text. On the lines that no block comment touches, the rules
for single lines find candidates, which are resolved. What is found is painted on the characters of
the text, and runs of one category make the segments.
-/

namespace Highlighter

/-! ### Block comments

Block comments may cross lines, so they are found over the whole text before any line is looked at.
Each marker for blocks is searched on its own; where finds of two markers overlap, the one that
starts first keeps what they share. -/

namespace Block

/-- Whether the first span is taken no later than the second: by start, the longer one first. -/
def precedes (left right : Span) : Bool :=
  if left.start ≠ right.start then left.start < right.start else right.stop ≤ left.stop

/-- The finds of every marker for blocks, marker by marker. -/
def finds (rules : RuleSet) (text : Text) : List Span :=
  rules.blockMarkers.flatMap fun (opener, closer) => Span.delimited .comment opener closer 0 text

/-- The block comments of a text, in order and disjoint. -/
def scan (rules : RuleSet) (text : Text) : List Span :=
  Span.sweep 0 ((finds rules text).mergeSort precedes)

theorem ordered_scan (rules : RuleSet) (text : Text) : Span.Ordered 0 (scan rules text) :=
  Span.ordered_sweep 0 _

theorem precedes_trans (first second third : Span) (h : precedes first second = true)
    (h' : precedes second third = true) : precedes first third = true := by
  simp only [precedes] at *
  grind

theorem precedes_total (left right : Span) :
    (precedes left right || precedes right left) = true := by
  simp only [precedes]
  grind

end Block

/-! ### Candidates on a line

The part of a rule set that concerns single lines is made ready once for many lines. All that it
finds on a line is a candidate; candidates may overlap. -/

/-- The line markers, quote marks and vocabularies of a rule set. -/
structure LineRules where
  markers : List Text
  quotes : List Text
  vocabularies : List Vocabulary

namespace LineRules

/-- The part of a rule set that concerns single lines. -/
def ofRuleSet (rules : RuleSet) : LineRules where
  markers := rules.lineMarkers
  quotes := rules.strings
  vocabularies := rules.vocabularies.map fun (category, entries) =>
    Vocabulary.ofEntries category entries

/-- The comment from the first line marker to the end of the line. -/
def comment? (rules : LineRules) (line : Text) : Option Span :=
  (rules.markers.filterMap (Text.find? · line)).min?.map fun start =>
    ⟨start, line.size, .comment⟩

def strings (quote line : Text) : List Span :=
  Span.delimited .string quote quote 0 line

def words (rules : LineRules) (line : Text) : List Span :=
  rules.vocabularies.flatMap (·.find line)

/-- The candidates on a line. One that a block comment touches is a comment as a whole. -/
def candidates (rules : LineRules) (line : Text) (inBlock : Bool) : List Span :=
  if inBlock then if line = [] then [] else [⟨0, line.size, .comment⟩]
  else (rules.comment? line).toList ++ rules.quotes.flatMap (strings · line) ++ rules.words line

end LineRules

/-! ### Highlighting a text

The cells of a text come line by line. A line that a block comment touches is a comment as a whole;
on any other line the candidates are resolved. The newline between two lines is a
comment inside a block and plain elsewhere. -/

def lineCells (rules : LineRules) (blocks : Array Span) (line : Line) : List Cell :=
  let inBlock := Span.anyIntersects blocks line.offset line.stop
  Cell.paint (Span.resolve (rules.candidates line.text inBlock)) 0 line.text

/-- The cell of the newline at a byte offset. -/
def newlineCell (blocks : Array Span) (offset : Nat) : Cell :=
  ⟨'\n', if Span.anyContains blocks offset then .comment else .plain⟩

/-- The cells of neighbouring lines and of the newlines between them. -/
def cells (rules : LineRules) (blocks : Array Span) : List Line → List Cell
  | [] => []
  | [line] => lineCells rules blocks line
  | line :: next :: others =>
    lineCells rules blocks line ++
      newlineCell blocks line.stop :: cells rules blocks (next :: others)

/-- The segments of the lines of a text numbered from `first`, counted from zero, to before `last`.
The spans in `blocks` are the text's block comments. -/
def highlightLines (text : Text) (blocks : List Span) (rules : RuleSet) (mode : Mode)
    (first last : Nat) : List Segment :=
  let lines := (text.lines.drop first).take (last - first)
  let start := (lines.head?.map Line.offset).getD 0
  Segment.ofCells mode start (cells (LineRules.ofRuleSet rules) blocks.toArray lines)

def highlight (text : Text) (rules : RuleSet) (mode : Mode) : List Segment :=
  highlightLines text (Block.scan rules text) rules mode 0 text.lines.length

end Highlighter
