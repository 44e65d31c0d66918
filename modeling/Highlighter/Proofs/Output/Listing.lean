import Highlighter.Output
import Highlighter.Proofs.Highlight.Cells
import Highlighter.Proofs.Text.LineRange
import Highlighter.Proofs.Text.Unquoted
import Highlighter.Text.Encoding

/-!
# Listings

A listing tells no style, so it is the same in both modes (`Listing.render_highlight`). It can be
read back: `entries?_render` says that reading a listing gives what was listed, and `decode?_render`
says it of its bytes.
-/

namespace Highlighter

/-! ### What the mode decides

The mode decides how segments are styled and nothing else: in two modes a text has the same segments
but for their styles (`highlight_eq_map_restyled`), so a listing, which tells no style, is the
same. -/

namespace Segment

/-- The segment in the style that its category has in a mode. -/
def restyled (mode : Mode) (segment : Segment) : Segment :=
  { segment with style := segment.category.style mode }

theorem prepend_map_restyled (mode mode' : Mode) (offset : Nat) (cell : Cell)
    (segments : List Segment) :
    prepend mode' offset cell (segments.map (restyled mode'))
      = (prepend mode offset cell segments).map (restyled mode') := by
  cases segments with
  | nil => rfl
  | cons first others =>
      have hcategory : (restyled mode' first).category = first.category := rfl
      rw [List.map_cons, prepend, prepend, hcategory]
      split <;> rfl

theorem ofCells_eq_map_restyled (mode mode' : Mode) (offset : Nat) (cells : List Cell) :
    ofCells mode' offset cells = (ofCells mode offset cells).map (restyled mode') := by
  induction cells generalizing offset with
  | nil => rfl
  | cons cell rest ih => rw [ofCells, ih, ofCells, prepend_map_restyled]

end Segment

section

variable (text : Text) (rules : RuleSet)

theorem joined_highlight (mode : Mode) : Segment.joined (highlight text rules mode) = text := by
  rw [highlight_eq_ofCells, Segment.joined_ofCells, text_cells_lines]

/-- **In two modes** a text has the same segments, each in the style of the mode. -/
theorem highlight_eq_map_restyled (mode mode' : Mode) :
    highlight text rules mode' = (highlight text rules mode).map (Segment.restyled mode') := by
  rw [highlight_eq_ofCells, highlight_eq_ofCells, Segment.ofCells_eq_map_restyled mode mode']

theorem Listing.render_highlight (mode mode' : Mode) :
    render (highlight text rules mode') = render (highlight text rules mode) := by
  have hline : line ∘ Segment.restyled mode' = line := by
    funext segment
    rfl
  rw [highlight_eq_map_restyled text rules mode mode', render, List.map_map, hline, render]

end

/-! ### Reading a listing

Names and numbers hold no tab, and a quoted text holds neither a tab nor a line break, so a listing
falls apart into its lines and each line into its three fields. `entries?_render` says that reading
a listing gives back what was listed, and `decode?_render` says it of its bytes. -/

theorem Category.tab_not_mem_name (category : Category) :
    '\t' ∉ category.name.toList ∧ '\n' ∉ category.name.toList := by
  cases category <;> decide

/-- The category that a name stands for. -/
def Category.ofName? (name : Text) : Option Category :=
  [comment, string, keyword, typeName, modifier, plain].find? (·.name.toList = name)

theorem Category.ofName?_name (category : Category) :
    ofName? category.name.toList = some category := by
  cases category <;> decide

namespace Listing

/-- What one line of a listing tells. -/
structure Entry where
  category : Category
  start : Nat
  text : Text
deriving DecidableEq, Repr

def Entry.ofSegment (segment : Segment) : Entry :=
  ⟨segment.category, segment.start, segment.text⟩

/-- Reads a line without its newline. -/
def Entry.ofLine? (line : Text) : Option Entry :=
  match Text.pieces '\t' line with
  | [name, start, quoted] => do
    let category ← Category.ofName? name
    let text ← Text.unquoted? quoted
    return ⟨category, Toml.ofDigits 10 start, text⟩
  | _ => none

/-- Reads a listing. There is a newline after its last line too. -/
def entries? (output : Text) : Option (List Entry) :=
  (Text.pieces '\n' output).dropLast.mapM Entry.ofLine?

/-- The texts that a listing tells, one after another. -/
def text? (output : Text) : Option Text :=
  (entries? output).map fun entries => entries.flatMap (·.text)

/-- Reads the bytes of a listing. -/
def decode? (bytes : List UInt8) : Option (List Entry) :=
  (Text.ofUtf8? bytes.toByteArray).bind entries?

variable (segment : Segment) (segments : List Segment)

/-- The line of a segment without its newline. -/
def fields : Text :=
  segment.category.name.toList ++ '\t' :: Nat.toDigits 10 segment.start ++
    '\t' :: segment.text.quoted

theorem not_mem_start {mark : Char} (hmark : mark = '\t' ∨ mark = '\n') :
    mark ∉ Nat.toDigits 10 segment.start := by
  apply not_mem_toDigits (by decide) (by decide)
  obtain rfl | rfl := hmark <;> decide

theorem pieces_fields : Text.pieces '\t' (fields segment)
    = [segment.category.name.toList, Nat.toDigits 10 segment.start, segment.text.quoted] := by
  have hname := segment.category.tab_not_mem_name.1
  have hstart := not_mem_start segment (.inl rfl)
  have htext := Text.not_mem_quoted (.inl rfl) segment.text
  calc Text.pieces '\t' (fields segment)
      = Text.pieces '\t' segment.category.name.toList ++
          Text.pieces '\t' (Nat.toDigits 10 segment.start) ++
          Text.pieces '\t' segment.text.quoted := by
        rw [fields, Text.pieces_append_cons, Text.pieces_append_cons]
    _ = [segment.category.name.toList, Nat.toDigits 10 segment.start, segment.text.quoted] := by
        rw [Text.pieces_eq_singleton hname, Text.pieces_eq_singleton hstart,
          Text.pieces_eq_singleton htext]
        rfl

theorem newline_not_mem_fields : '\n' ∉ fields segment := by
  have hname := segment.category.tab_not_mem_name.2
  have hstart := not_mem_start segment (.inr rfl)
  have htext := Text.not_mem_quoted (.inr rfl) segment.text
  simp [fields, hname, hstart, htext]

theorem ofLine?_fields : Entry.ofLine? (fields segment) = some (.ofSegment segment) := by
  have hstart := Toml.ofDigits_toDigits (by decide : 1 < 10) (by decide) segment.start
  rw [Entry.ofLine?, pieces_fields]
  simp only [Category.ofName?_name, Text.unquoted?_quoted, hstart]
  rfl

theorem flatten_render_cons : (render (segment :: segments)).flatten
    = fields segment ++ '\n' :: (render segments).flatten := by
  simp [render, line, fields]

theorem pieces_render : Text.pieces '\n' (render segments).flatten
    = segments.map fields ++ [[]] := by
  induction segments with
  | nil => rfl
  | cons segment rest ih =>
      rw [flatten_render_cons, Text.pieces_append_cons, ih,
        Text.pieces_eq_singleton (newline_not_mem_fields segment)]
      rfl

/-- **A listing is read back** as what it was made of. -/
theorem entries?_render :
    entries? (render segments).flatten = some (segments.map Entry.ofSegment) := by
  rw [entries?, pieces_render, List.dropLast_concat]
  induction segments with
  | nil => rfl
  | cons segment rest ih =>
      rw [List.map_cons, List.mapM_cons, ofLine?_fields, ih]
      rfl

theorem text?_render : text? (render segments).flatten = some (Segment.joined segments) := by
  rw [text?, entries?_render, Option.map_some, List.flatMap_map]
  rfl

/-! ### The form of a listing -/

theorem count_newline_render : (render segments).flatten.count '\n' = segments.length := by
  induction segments with
  | nil => rfl
  | cons segment rest ih =>
      have hfields : (fields segment).count '\n' = 0 :=
        List.count_eq_zero.mpr (newline_not_mem_fields segment)
      rw [flatten_render_cons, List.count_append, List.count_cons_self, hfields, ih, Nat.zero_add,
        List.length_cons]

theorem count_tab_fields : (fields segment).count '\t' = 2 := by
  have hname := List.count_eq_zero.mpr segment.category.tab_not_mem_name.1
  have hstart := List.count_eq_zero.mpr (not_mem_start segment (.inl rfl))
  have htext := List.count_eq_zero.mpr (Text.not_mem_quoted (.inl rfl) segment.text)
  rw [fields, List.count_append, List.count_append, List.count_cons_self, List.count_cons_self,
    hname, hstart, htext]

/-- **The bytes of a listing** tell the category, the start and the text of every segment, whatever
the texts are. There is one newline for each segment, and two tabs are on each line. The bytes of the
listing of a highlighted text tell the text. -/
theorem decode?_render :
    decode? (Text.utf8 (render segments).flatten) = some (segments.map Entry.ofSegment) ∧
      (render segments).flatten.count '\n' = segments.length ∧
      (∀ line ∈ (Text.pieces '\n' (render segments).flatten).dropLast, line.count '\t' = 2) ∧
      ∀ text rules mode,
        (decode? (Text.utf8 (render (highlight text rules mode)).flatten)).map
          (·.flatMap (·.text)) = some text := by
  have hdecode (segments : List Segment) :
      decode? (Text.utf8 (render segments).flatten) = some (segments.map Entry.ofSegment) := by
    rw [decode?, Text.ofUtf8?_utf8, Option.bind_some, entries?_render]
  refine ⟨hdecode segments, count_newline_render segments, ?_, ?_⟩
  · rw [pieces_render, List.dropLast_concat]
    intro line hline
    obtain ⟨segment, -, rfl⟩ := List.mem_map.mp hline
    exact count_tab_fields segment
  · intro text rules mode
    have htexts : ((highlight text rules mode).map Entry.ofSegment).flatMap (·.text)
        = Segment.joined (highlight text rules mode) :=
      List.flatMap_map ..
    rw [hdecode, Option.map_some, htexts, joined_highlight]

end Listing

end Highlighter
