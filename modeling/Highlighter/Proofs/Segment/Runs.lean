import Highlighter.Segment
import Mathlib.Data.List.Chain

/-!
# Maximal runs

`MaximalRuns` says that segments are a text cut exactly where the category changes: nothing is lost,
nothing is told twice, no cut could be left out. Cells become segments from the last one to the
first, so the invariant is kept by `Segment.prepend`, and it makes the offset at which the next cell
must stand the start of the first segment.
-/

namespace Highlighter.Segment

/-- The segments are the maximal runs of one category in a text that starts at byte `start`, each in
the style of its category. -/
structure MaximalRuns (mode : Mode) (start : Nat) (text : Text) (segments : List Segment) :
    Prop where
  joined_eq : joined segments = text
  start_eq : ∀ segment ∈ segments.head?, segment.start = start
  ne_nil : ∀ segment ∈ segments, segment.text ≠ []
  styled : ∀ segment ∈ segments, segment.style = segment.category.style mode
  contiguous : segments.IsChain fun left right => left.stop = right.start
  separate : segments.IsChain fun left right => left.category ≠ right.category

variable {mode : Mode} {offset : Nat} {cell : Cell} {segments : List Segment} {text : Text}

@[simp]
theorem joined_cons (first : Segment) (others : List Segment) :
    joined (first :: others) = first.text ++ joined others := rfl

theorem maximalRuns_nil (mode : Mode) (start : Nat) : MaximalRuns mode start [] [] :=
  ⟨rfl, by simp, by simp, by simp, .nil, .nil⟩

/-- The segment of one cell, put before segments of which the first has another category. -/
theorem MaximalRuns.cons_cell (h : MaximalRuns mode (offset + cell.char.utf8Size) text segments)
    (hcategory : ∀ first ∈ segments.head?, first.category ≠ cell.category) :
    MaximalRuns mode offset (cell.char :: text)
      (⟨offset, [cell.char], cell.category, cell.category.style mode⟩ :: segments) where
  joined_eq := by simp [h.joined_eq]
  start_eq := by simp
  ne_nil := by simpa using h.ne_nil
  styled := by simpa using h.styled
  contiguous := by
    apply List.isChain_cons.mpr
    refine ⟨?_, h.contiguous⟩
    intro first hfirst
    rw [h.start_eq first hfirst]
    simp [stop]
  separate := List.isChain_cons.mpr ⟨fun first hfirst => (hcategory first hfirst).symm, h.separate⟩

/-- The first segment, made longer at its front by a cell of its category. -/
theorem MaximalRuns.extend_cell {first : Segment} {others : List Segment}
    (h : MaximalRuns mode (offset + cell.char.utf8Size) text (first :: others)) :
    MaximalRuns mode offset (cell.char :: text)
      ({ first with start := offset, text := cell.char :: first.text } :: others) := by
  have hstart : first.start = offset + cell.char.utf8Size := h.start_eq first rfl
  obtain ⟨hstop, hcontiguous⟩ := List.isChain_cons.mp h.contiguous
  obtain ⟨hcategory, hseparate⟩ := List.isChain_cons.mp h.separate
  refine ⟨?_, by simp, ?_, ?_, List.isChain_cons.mpr ⟨?_, hcontiguous⟩,
    List.isChain_cons.mpr ⟨hcategory, hseparate⟩⟩
  · simp [← h.joined_eq]
  · simpa using fun segment hsegment => h.ne_nil segment (List.mem_cons_of_mem _ hsegment)
  · simpa using h.styled
  · intro next hnext
    rw [← hstop next hnext]
    simp [stop, hstart, Nat.add_assoc]

theorem maximalRuns_prepend (h : MaximalRuns mode (offset + cell.char.utf8Size) text segments) :
    MaximalRuns mode offset (cell.char :: text) (prepend mode offset cell segments) := by
  cases segments with
  | nil => exact h.cons_cell (by simp)
  | cons first others =>
      rw [prepend]
      split
      · exact h.extend_cell
      · next hcategory => exact h.cons_cell (by simpa using hcategory)

/-- **Cells become maximal runs.** -/
theorem maximalRuns_ofCells (mode : Mode) (start : Nat) (cells : List Cell) :
    MaximalRuns mode start (Cell.text cells) (ofCells mode start cells) := by
  induction cells generalizing start with
  | nil => exact maximalRuns_nil mode start
  | cons cell rest ih => exact maximalRuns_prepend (ih (start + cell.char.utf8Size))

/-- What follows the first run is in maximal runs from where that run stops. -/
theorem MaximalRuns.tail {start : Nat} {first : Segment} {others : List Segment}
    (h : MaximalRuns mode start text (first :: others)) :
    MaximalRuns mode first.stop (joined others) others where
  joined_eq := rfl
  start_eq := fun next hnext => ((List.isChain_cons.mp h.contiguous).1 next hnext).symm
  ne_nil := fun segment hsegment => h.ne_nil segment (List.mem_cons_of_mem _ hsegment)
  styled := fun segment hsegment => h.styled segment (List.mem_cons_of_mem _ hsegment)
  contiguous := (List.isChain_cons.mp h.contiguous).2
  separate := (List.isChain_cons.mp h.separate).2

theorem MaximalRuns.le_start {start : Nat} (h : MaximalRuns mode start text segments) :
    ∀ segment ∈ segments, start ≤ segment.start := by
  induction segments generalizing start text with
  | nil => simp
  | cons first others ih =>
      have hstart : first.start = start := h.start_eq first rfl
      intro segment hsegment
      obtain rfl | hothers := List.mem_cons.mp hsegment
      · exact hstart.ge
      · have hle := ih h.tail segment hothers
        have hstop : first.start ≤ first.stop := Nat.le_add_right ..
        omega

end Highlighter.Segment
