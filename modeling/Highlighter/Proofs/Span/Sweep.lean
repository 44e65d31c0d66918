import Highlighter.Proofs.Span.Ordered

/-!
# Sweeps in parts

Spans that start where all others have stopped are swept as if they were alone (`sweep_append`), and
a sweep does not depend on where the spans stand (`sweep_map_shift`).
-/

namespace Highlighter.Span

variable {spans left right : List Span} {cursor cursor' : Nat}

/-- A cursor that no span starts before makes no difference. -/
theorem sweep_congr (h : ∀ span ∈ spans, cursor ≤ span.start)
    (h' : ∀ span ∈ spans, cursor' ≤ span.start) : sweep cursor spans = sweep cursor' spans := by
  induction spans with
  | nil => rfl
  | cons span rest ih =>
      obtain ⟨hspan, hrest⟩ := List.forall_mem_cons.mp h
      obtain ⟨hspan', hrest'⟩ := List.forall_mem_cons.mp h'
      rw [sweep, sweep, Nat.max_eq_left hspan, Nat.max_eq_left hspan', ih hrest hrest']

theorem sweep_append {bound : Nat} (hcursor : cursor ≤ bound)
    (hleft : ∀ span ∈ left, span.stop ≤ bound) (hright : ∀ span ∈ right, bound ≤ span.start) :
    sweep cursor (left ++ right) = sweep cursor left ++ sweep bound right := by
  induction left generalizing cursor with
  | nil =>
      apply sweep_congr
      · intro span hspan
        exact Nat.le_trans hcursor (hright span hspan)
      · exact hright
  | cons span rest ih =>
      obtain ⟨hspan, hrest⟩ := List.forall_mem_cons.mp hleft
      rw [List.cons_append, sweep, sweep]
      split
      · exact ih hcursor hrest
      · rw [ih hspan hrest, List.cons_append]

/-! ### Moved spans -/

@[simp]
theorem start_shift (span : Span) (distance : Nat) :
    (span.shift distance).start = span.start + distance := rfl

@[simp]
theorem stop_shift (span : Span) (distance : Nat) :
    (span.shift distance).stop = span.stop + distance := rfl

@[simp]
theorem category_shift (span : Span) (distance : Nat) :
    (span.shift distance).category = span.category := rfl

theorem isEmpty_shift (span : Span) (distance : Nat) :
    (span.shift distance).isEmpty = span.isEmpty := by
  simp [isEmpty, shift]

theorem contains_shift (span : Span) (distance offset : Nat) :
    (span.shift distance).contains (distance + offset) = span.contains offset := by
  rw [Bool.eq_iff_iff, contains_eq_true_iff, contains_eq_true_iff, shift]
  dsimp only
  omega

theorem any_contains_map_shift (spans : List Span) (distance offset : Nat) :
    (spans.map (·.shift distance)).any (·.contains (distance + offset))
      = spans.any (·.contains offset) := by
  simp only [List.any_map, Function.comp_def, contains_shift]

theorem sweep_map_shift (cursor distance : Nat) (spans : List Span) :
    sweep (cursor + distance) (spans.map (·.shift distance))
      = (sweep cursor spans).map (·.shift distance) := by
  induction spans generalizing cursor with
  | nil => rfl
  | cons span rest ih =>
      have hclipped : { span.shift distance with
            start := max (span.shift distance).start (cursor + distance) }
          = shift { span with start := max span.start cursor } distance := by
        simp [shift, Nat.add_max_add_right]
      rw [List.map_cons, sweep, sweep]
      rw [hclipped, isEmpty_shift]
      split
      · exact ih cursor
      · rw [List.map_cons, ← ih span.stop]
        rfl

end Highlighter.Span
