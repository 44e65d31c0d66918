import Highlighter.Proofs.Segment.Runs
import Highlighter.Proofs.Span.Boundary
import Highlighter.Proofs.Span.Ordered

/-!
# The category of a byte

Which category a byte has can be read off the cells (`Cell.at?`) or off the segments that they
become (`Segment.categoryAt?`), and both give the same (`categoryAt?_ofCells`). A painted text gives
to each byte, not only to the first one of each character, the category of the span that holds it
(`category_at?_paint`): this is where it matters that spans start and stop between characters.
-/

namespace Highlighter

/-- The category of the span that holds the byte at `offset`; outside all spans a byte is plain. -/
def Span.categoryAt (spans : List Span) (offset : Nat) : Category :=
  match spans.find? (·.contains offset) with
  | some span => span.category
  | none => .plain

/-- The cell that holds the byte at `offset`. -/
def Cell.at? (offset : Nat) : List Cell → Option Cell
  | [] => none
  | cell :: rest =>
    if offset < cell.char.utf8Size then some cell else at? (offset - cell.char.utf8Size) rest

/-- Whether the byte at `offset` is in the segment. -/
def Segment.holds (segment : Segment) (offset : Nat) : Bool :=
  segment.start ≤ offset && offset < segment.stop

@[simp]
theorem Segment.holds_eq_true_iff (segment : Segment) (offset : Nat) :
    segment.holds offset = true ↔ segment.start ≤ offset ∧ offset < segment.stop := by
  simp [holds]

/-- The category of the segment that holds the byte at `offset`. -/
def Segment.categoryAt? (segments : List Segment) (offset : Nat) : Option Category :=
  (segments.find? (·.holds offset)).map (·.category)

/-! ### Spans -/

theorem Span.categoryAt_dropWhile (spans : List Span) {passed offset : Nat} (h : passed ≤ offset) :
    categoryAt (spans.dropWhile (·.stop ≤ passed)) offset = categoryAt spans offset := by
  induction spans with
  | nil => rfl
  | cons span rest ih =>
      rw [List.dropWhile_cons]
      split
      · next hstop =>
        have hmiss : span.contains offset = false := by
          rw [Bool.eq_false_iff, ne_eq, contains_eq_true_iff]
          simp at hstop
          omega
        rw [ih, categoryAt, categoryAt, List.find?_cons, hmiss]
      · rfl

/-- Up to where the first of some spans in order stops, no other one matters. -/
theorem Span.categoryAt_cons_of_lt_stop {span : Span} {later : List Span} {cursor offset : Nat}
    (h : Ordered cursor (span :: later)) (hstop : offset < span.stop) :
    categoryAt (span :: later) offset
      = if span.start ≤ offset then span.category else .plain := by
  rw [categoryAt, List.find?_cons]
  by_cases hstart : span.start ≤ offset
  · have hcontains : span.contains offset = true := by simp [hstart, hstop]
    rw [hcontains, if_pos hstart]
  · have hmiss : span.contains offset = false := by simp [contains, hstart]
    have hlater : ∀ other ∈ later, offset < other.start := by
      intro other hother
      exact Nat.lt_of_lt_of_le hstop (h.2.2.le_start other hother)
    rw [hmiss, if_neg hstart, find?_contains_eq_none hlater]

/-! ### Cells -/

namespace Cell

theorem at?_append_of_lt {left right : List Cell} {offset : Nat}
    (h : offset < (Cell.text left).size) : at? offset (left ++ right) = at? offset left := by
  induction left generalizing offset with
  | nil => simp [Cell.text] at h
  | cons cell rest ih =>
      simp only [Cell.text, List.map_cons, Text.size_cons] at h ih
      rw [List.cons_append, at?, at?]
      split
      · rfl
      · exact ih (by omega)

theorem at?_append_of_le {left right : List Cell} {offset : Nat}
    (h : (Cell.text left).size ≤ offset) :
    at? offset (left ++ right) = at? (offset - (Cell.text left).size) right := by
  induction left generalizing offset with
  | nil => rfl
  | cons cell rest ih =>
      simp only [Cell.text, List.map_cons, Text.size_cons] at h ih ⊢
      rw [List.cons_append, at?, if_neg (by omega), ih (by omega), Nat.sub_sub]

theorem at?_eq_none_of_le {cells : List Cell} {offset : Nat} (h : (Cell.text cells).size ≤ offset) :
    at? offset cells = none := by
  have happend : at? offset (cells ++ []) = at? (offset - (Cell.text cells).size) [] :=
    at?_append_of_le h
  simpa [at?] using happend

theorem map_char_at? (cells : List Cell) (offset : Nat) :
    (at? offset cells).map (·.char) = Text.charAt? offset (Cell.text cells) := by
  induction cells generalizing offset with
  | nil => rfl
  | cons cell rest ih =>
      unfold at?
      split
      · next h => simp [Cell.text, Text.charAt?, h]
      · next h => simpa [Cell.text, Text.charAt?, h] using ih (offset - cell.char.utf8Size)

/-- **A painted text** gives each byte the category of the span that holds it. -/
theorem category_at?_paint {spans : List Span} {text : Text} {offset : Nat} (done : Text)
    (hordered : Span.Ordered 0 spans) (hbound : ∀ span ∈ spans, span.OnBoundaries (done ++ text))
    (h : offset < text.size) :
    (at? offset (paint spans done.size text)).map (·.category)
      = some (Span.categoryAt spans (done.size + offset)) := by
  induction text generalizing spans done offset with
  | nil => simp at h
  | cons char rest ih =>
      have hpassed := Span.categoryAt_dropWhile spans (Nat.le_add_right done.size offset)
      have hordered' := hordered.dropWhile (·.stop ≤ done.size)
      have hbound' : ∀ span ∈ spans.dropWhile (·.stop ≤ done.size),
          span.OnBoundaries (done ++ char :: rest) :=
        fun span hspan => hbound span ((List.dropWhile_sublist _).subset hspan)
      have hfirst := List.head?_dropWhile_not (·.stop ≤ done.size) spans
      rw [← hpassed, paint]
      generalize spans.dropWhile (·.stop ≤ done.size) = kept at *
      have hlater (hsize : char.utf8Size ≤ offset) :
          (at? (offset - char.utf8Size) (paint kept (done.size + char.utf8Size) rest)).map
              (·.category)
            = some (Span.categoryAt kept (done.size + offset)) := by
        have hrest := ih (done ++ [char]) hordered' (by simpa using hbound')
          (by simp at h; omega : offset - char.utf8Size < Text.size rest)
        have hoffset : done.size + char.utf8Size + (offset - char.utf8Size)
            = done.size + offset := by
          omega
        simpa [hoffset] using hrest
      by_cases hcell : offset < char.utf8Size
      · cases kept with
        | nil => simp [at?, hcell, Span.categoryAt]
        | cons span later =>
            have hstop : done.size < span.stop := by simpa using hfirst
            obtain ⟨hstart, hend⟩ := hbound' span List.mem_cons_self
            have hstart := hstart.le_or_le
            have hend := hend.le_or_le
            -- the span covers the whole character or none of its bytes
            have hsame : span.start ≤ done.size + offset ↔ span.start ≤ done.size := by omega
            rw [Span.categoryAt_cons_of_lt_stop hordered' (by omega)]
            simp [at?, hcell, hsame]
      · rw [← hlater (by omega)]
        cases kept <;> simp [at?, hcell]

end Cell

/-! ### Segments -/

namespace Segment

variable {mode : Mode} {start : Nat} {cell : Cell} {segments : List Segment} {text : Text}

theorem categoryAt?_cons (segment : Segment) (segments : List Segment) (offset : Nat) :
    categoryAt? (segment :: segments) offset
      = if segment.holds offset then some segment.category else categoryAt? segments offset := by
  rw [categoryAt?, List.find?_cons]
  cases segment.holds offset <;> rfl

theorem categoryAt?_prepend (h : MaximalRuns mode (start + cell.char.utf8Size) text segments)
    (offset : Nat) :
    categoryAt? (prepend mode start cell segments) offset
      = if start ≤ offset ∧ offset < start + cell.char.utf8Size then some cell.category
        else categoryAt? segments offset := by
  have halone : categoryAt?
      (⟨start, [cell.char], cell.category, cell.category.style mode⟩ :: segments) offset
      = if start ≤ offset ∧ offset < start + cell.char.utf8Size then some cell.category
        else categoryAt? segments offset := by
    simp [categoryAt?_cons, stop]
  cases segments with
  | nil => exact halone
  | cons first others =>
      rw [prepend]
      split
      · next hcategory =>
        have hfirst : first.start = start + cell.char.utf8Size := h.start_eq first rfl
        simp only [categoryAt?_cons, holds_eq_true_iff, stop, hfirst, hcategory, Text.size_cons]
        by_cases hcell : start ≤ offset ∧ offset < start + cell.char.utf8Size
        · rw [if_pos hcell, if_pos (by omega)]
        · have hrest : (start ≤ offset ∧ offset < start + (cell.char.utf8Size + first.text.size)) ↔
              start + cell.char.utf8Size ≤ offset ∧
                offset < start + cell.char.utf8Size + first.text.size := by
            omega
          rw [if_neg hcell]
          simp only [hrest]
      · exact halone

/-- **Segments keep the category of each byte.** -/
theorem categoryAt?_ofCells (mode : Mode) (start : Nat) (cells : List Cell) (offset : Nat) :
    categoryAt? (ofCells mode start cells) (start + offset)
      = (Cell.at? offset cells).map (·.category) := by
  induction cells generalizing start offset with
  | nil => rfl
  | cons cell rest ih =>
      rw [ofCells, categoryAt?_prepend (maximalRuns_ofCells mode _ rest), Cell.at?]
      split_ifs with hin hcell hcell
      · rfl
      · omega
      · omega
      · rw [← ih (start + cell.char.utf8Size) (offset - cell.char.utf8Size)]
        congr 1
        omega

end Segment

end Highlighter
