import Highlighter.Proofs.Segment.Runs

/-!
# Segments of two texts in a row

When one text follows another, at most one segment changes: the last segment of the first text and
the first one of the second become one if they share their category (`fuse`). The main statement is
`ofCells_append`.
-/

namespace Highlighter.Segment

/-- The segments of two texts of which the second one follows the first. -/
def fuse : List Segment → List Segment → List Segment
  | [], later => later
  | [last], [] => [last]
  | [last], first :: others =>
    if last.category = first.category then
      { last with text := last.text ++ first.text } :: others
    else last :: first :: others
  | segment :: next :: earlier, later => segment :: fuse (next :: earlier) later

def shift (segment : Segment) (distance : Nat) : Segment :=
  { segment with start := segment.start + distance }

variable {mode : Mode} {offset : Nat} {cell : Cell} {earlier later : List Segment}

theorem fuse_singleton
    (h : ∀ first ∈ later.head?, first.style = first.category.style mode) :
    fuse [⟨offset, [cell.char], cell.category, cell.category.style mode⟩] later
      = prepend mode offset cell later := by
  cases later with
  | nil => rfl
  | cons first others =>
      have hstyle : first.style = first.category.style mode := h first rfl
      rw [fuse, prepend]
      by_cases hcategory : first.category = cell.category
      · rw [if_pos hcategory.symm, if_pos hcategory, hstyle, hcategory]
        rfl
      · rw [if_neg (Ne.symm hcategory), if_neg hcategory]

/-- Of the first segment, only the text may get longer, and at its end. -/
theorem exists_fuse_cons (first : Segment) (others later : List Segment) :
    ∃ added rest, ∀ start text, fuse ({ first with start, text } :: others) later
      = { first with start, text := text ++ added } :: rest := by
  cases others with
  | cons next others => exact ⟨[], fuse (next :: others) later, by simp [fuse]⟩
  | nil =>
      cases later with
      | nil => exact ⟨[], [], by simp [fuse]⟩
      | cons head rest =>
          by_cases hcategory : first.category = head.category
          · exact ⟨head.text, rest, by simp [fuse, hcategory]⟩
          · exact ⟨[], head :: rest, by simp [fuse, hcategory]⟩

/-- A cell in front of two texts joins the segments of the first one. -/
theorem fuse_prepend (h : ∀ first ∈ later.head?, first.style = first.category.style mode) :
    fuse (prepend mode offset cell earlier) later
      = prepend mode offset cell (fuse earlier later) := by
  cases earlier with
  | nil => exact fuse_singleton h
  | cons first others =>
      obtain ⟨added, rest, hfuse⟩ := exists_fuse_cons first others later
      have hfirst : fuse (first :: others) later
          = { first with text := first.text ++ added } :: rest := hfuse first.start first.text
      rw [hfirst, prepend, prepend]
      by_cases hcategory : first.category = cell.category
      · rw [if_pos hcategory, if_pos hcategory]
        exact hfuse offset (cell.char :: first.text)
      · rw [if_neg hcategory, if_neg hcategory, fuse, hfirst]

/-- **Segments of cells in a row** are those of the two parts, fused. -/
theorem ofCells_append (mode : Mode) (offset : Nat) (before after : List Cell) :
    ofCells mode offset (before ++ after)
      = fuse (ofCells mode offset before)
          (ofCells mode (offset + (Cell.text before).size) after) := by
  induction before generalizing offset with
  | nil => rfl
  | cons cell rest ih =>
      have hsize : offset + (Cell.text (cell :: rest)).size
          = offset + cell.char.utf8Size + (Cell.text rest).size := by
        simp [Cell.text, Nat.add_assoc]
      rw [List.cons_append, ofCells, ofCells, ih, hsize, fuse_prepend]
      intro first hfirst
      apply (maximalRuns_ofCells mode _ after).styled
      exact List.mem_of_mem_head? hfirst

/-! ### Moved segments -/

@[simp]
theorem shift_category (segment : Segment) (distance : Nat) :
    (segment.shift distance).category = segment.category := rfl

theorem prepend_map_shift (mode : Mode) (offset distance : Nat) (cell : Cell)
    (segments : List Segment) :
    prepend mode (offset + distance) cell (segments.map (·.shift distance))
      = (prepend mode offset cell segments).map (·.shift distance) := by
  cases segments with
  | nil => rfl
  | cons first others =>
      rw [List.map_cons, prepend, prepend, shift_category]
      by_cases hcategory : first.category = cell.category
      · rw [if_pos hcategory, if_pos hcategory]
        rfl
      · rw [if_neg hcategory, if_neg hcategory]
        rfl

theorem ofCells_add (mode : Mode) (offset distance : Nat) (cells : List Cell) :
    ofCells mode (offset + distance) cells
      = (ofCells mode offset cells).map (·.shift distance) := by
  induction cells generalizing offset with
  | nil => rfl
  | cons cell rest ih =>
      rw [ofCells, ofCells, Nat.add_right_comm, ih, prepend_map_shift]

end Highlighter.Segment
