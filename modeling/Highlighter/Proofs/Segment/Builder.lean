import Highlighter.Proofs.Segment.Fuse
import Highlighter.Proofs.Text.Slice

/-!
# Segments by byte offsets

Segments can be built from the front, one stretch of the text after another, told by its offsets: a
stretch makes the last segment longer or starts a new one, and either way the segment's text is
sliced anew. The segments built so far are kept last one first. The slices are taken if the stretch
follows what was pushed before, and then the result is that of the cells (`push?_reverse_ofCells`).
-/

namespace Highlighter.Segment

open Text

/-- The segments after one more stretch of a category. An empty stretch adds nothing. -/
def push? (text : Text) (mode : Mode) (category : Category) (start stop : Nat)
    (built : List Segment) : Option (List Segment) :=
  if stop ≤ start then some built
  else
    match built.head?.filter fun last => last.category = category ∧ last.stop = start with
    | some last =>
      (text.slice? last.start stop).map fun longer => { last with text := longer } :: built.tail
    | none =>
      (text.slice? start stop).map fun piece =>
        ⟨start, piece, category, category.style mode⟩ :: built

variable {mode : Mode} {start position stop : Nat} {text : Text} {earlier later : List Segment}
  {segment : Segment} {category : Category} {cells : List Cell}

/-! ### Where segments stand -/

theorem joined_append (earlier later : List Segment) :
    joined (earlier ++ later) = joined earlier ++ joined later :=
  List.flatMap_append

theorem MaximalRuns.start_eq_add_size_joined
    (h : MaximalRuns mode start text (earlier ++ segment :: later)) :
    segment.start = start + (joined earlier).size := by
  induction earlier generalizing start text with
  | nil => exact h.start_eq segment rfl
  | cons first others ih =>
      have hfirst : first.start = start := h.start_eq first rfl
      rw [ih h.tail, Segment.stop, hfirst, joined_cons, size_append, Nat.add_assoc]

/-- **Every segment is a slice** of the text, at the offsets that the segment tells. -/
theorem MaximalRuns.slice?_eq {inside : Text}
    (h : MaximalRuns mode start inside (earlier ++ segment :: later))
    (hinside : text.slice? start stop = some inside) :
    text.slice? segment.start segment.stop = some segment.text := by
  rw [← h.joined_eq, joined_append, joined_cons] at hinside
  have hsegment := (slice?_parts (slice?_parts hinside).2).1
  rwa [← h.start_eq_add_size_joined] at hsegment

/-! ### One more stretch -/

theorem ofCells_map_of_ne_nil (mode : Mode) (offset : Nat) (category : Category) {piece : Text}
    (h : piece ≠ []) :
    ofCells mode offset (piece.map (⟨·, category⟩))
      = [⟨offset, piece, category, category.style mode⟩] := by
  induction piece generalizing offset with
  | nil => exact absurd rfl h
  | cons char rest ih =>
      rw [List.map_cons, ofCells]
      by_cases hrest : rest = []
      · subst hrest
        rfl
      · rw [ih _ hrest, prepend, if_pos rfl]

/-- Only the last segment can be fused with what follows. -/
theorem fuse_concat (earlier : List Segment) (last : Segment) (later : List Segment) :
    fuse (earlier ++ [last]) later = earlier ++ fuse [last] later := by
  induction earlier with
  | nil => rfl
  | cons first others ih =>
      obtain ⟨next, rest, hothers⟩ := List.exists_cons_of_ne_nil (List.append_ne_nil_of_right_ne_nil
        others (List.cons_ne_nil last []))
      rw [List.cons_append, hothers, fuse, ← hothers, ih, List.cons_append]

theorem push?_of_longer {last : Segment} {longer : Text} {built : List Segment}
    (hlt : last.stop < stop) (hslice : text.slice? last.start stop = some longer) :
    push? text mode last.category last.stop stop (last :: built)
      = some ({ last with text := longer } :: built) := by
  rw [push?, if_neg (Nat.not_le_of_lt hlt), List.head?_cons, Option.filter_some_pos (by simp)]
  simp only [hslice, Option.map_some, List.tail_cons]

theorem push?_of_new {piece : Text} {built : List Segment} (hlt : position < stop)
    (hlast : ∀ last ∈ built.head?, last.category ≠ category)
    (hslice : text.slice? position stop = some piece) :
    push? text mode category position stop built
      = some (⟨position, piece, category, category.style mode⟩ :: built) := by
  have hnone : (built.head?.filter fun last => last.category = category ∧ last.stop = position)
      = none := by
    rw [Option.filter_eq_none_iff]
    intro last hmem
    simp [hlast last hmem]
  rw [push?, if_neg (Nat.not_le_of_lt hlt), hnone]
  simp only [hslice, Option.map_some]

/-- **A stretch is pushed** as if its cells were added behind the cells built so far. -/
theorem push?_reverse_ofCells (mode : Mode) (category : Category) {piece : Text}
    (hcells : text.slice? start position = some (Cell.text cells))
    (hpiece : text.slice? position stop = some piece) :
    push? text mode category position stop (ofCells mode start cells).reverse
      = some (ofCells mode start (cells ++ piece.map (⟨·, category⟩))).reverse := by
  have hposition := add_size_of_slice? hcells
  have hstop := add_size_of_slice? hpiece
  by_cases hnil : piece = []
  · subst hnil
    have hle : stop ≤ position := hstop.ge
    rw [push?, if_pos hle, List.map_nil, List.append_nil]
  have hlt : position < stop := by
    have hsize := mt (size_eq_zero_iff piece).mp hnil
    omega
  have hruns := maximalRuns_ofCells mode start cells
  rw [ofCells_append, ofCells_map_of_ne_nil mode _ category hnil, hposition]
  obtain hempty | ⟨earlier, last, hlast⟩ := List.eq_nil_or_concat' (ofCells mode start cells)
  · rw [hempty, List.reverse_nil, push?_of_new hlt (by simp) hpiece]
    rfl
  rw [hlast] at hruns ⊢
  rw [List.reverse_concat, fuse_concat, List.reverse_append, fuse]
  by_cases hcategory : last.category = category
  · -- the last segment stops with the last cell, which is where the stretch starts
    have hend : last.stop = position := by
      rw [Segment.stop, hruns.start_eq_add_size_joined, ← hposition, ← hruns.joined_eq]
      simp [joined, Nat.add_assoc]
    have hlonger := slice?_trans (hruns.slice?_eq hcells) (hend ▸ hpiece)
    rw [if_pos hcategory, ← hcategory, ← hend, push?_of_longer (hend ▸ hlt) hlonger]
    rfl
  · rw [if_neg hcategory, push?_of_new hlt (by simpa using hcategory) hpiece]
    rfl

end Highlighter.Segment
