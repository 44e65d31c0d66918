import Highlighter.Segment

/-!
# Painted stretches

A text is painted stretch by stretch: what is before the first span is plain, the span colours what
it holds, and the rest is painted by the spans that follow (`paint_cons_append`).
-/

namespace Highlighter.Cell

theorem text_append (left right : List Cell) : text (left ++ right) = text left ++ text right :=
  List.map_append

theorem text_map (category : Category) (text : Text) :
    Cell.text (text.map (⟨·, category⟩)) = text := by
  simp [Cell.text, Function.comp_def]

variable {span : Span} {later : List Span} {offset : Nat}

theorem paint_nil (offset : Nat) (text : Text) :
    paint [] offset text = text.map (⟨·, .plain⟩) := by
  induction text generalizing offset with
  | nil => rfl
  | cons char rest ih => simp [paint, ih]

theorem paint_cons_of_stop_le (h : span.stop ≤ offset) (text : Text) :
    paint (span :: later) offset text = paint later offset text := by
  cases text with
  | nil => rfl
  | cons char rest => simp [paint, h]

theorem paint_cons_cons_of_lt_stop (h : offset < span.stop) (char : Char) (rest : Text) :
    paint (span :: later) offset (char :: rest)
      = ⟨char, if span.start ≤ offset then span.category else .plain⟩ ::
          paint (span :: later) (offset + char.utf8Size) rest := by
  simp [paint, Nat.not_le_of_lt h]

theorem paint_cons_inside {inside : Text} (rest : Text) (hstart : span.start ≤ offset)
    (hstop : offset + inside.size = span.stop) :
    paint (span :: later) offset (inside ++ rest)
      = inside.map (⟨·, span.category⟩) ++ paint later span.stop rest := by
  induction inside generalizing offset with
  | nil =>
      have hoffset : offset = span.stop := hstop
      have hle : span.stop ≤ offset := Nat.le_of_eq hoffset.symm
      rw [List.nil_append, paint_cons_of_stop_le hle, hoffset, List.map_nil, List.nil_append]
  | cons char inside ih =>
      have hpos := char.utf8Size_pos
      rw [Text.size_cons] at hstop
      rw [List.cons_append, paint_cons_cons_of_lt_stop (by omega), if_pos hstart,
        ih (by omega) (by omega), List.map_cons, List.cons_append]

/-- The first span leaves plain what is before it. -/
theorem paint_cons_append {gap inside : Text} (rest : Text) (hgap : offset + gap.size = span.start)
    (hinside : span.start + inside.size = span.stop) :
    paint (span :: later) offset (gap ++ inside ++ rest)
      = gap.map (⟨·, .plain⟩) ++ inside.map (⟨·, span.category⟩)
        ++ paint later span.stop rest := by
  induction gap generalizing offset with
  | nil =>
      have hoffset : offset = span.start := hgap
      rw [List.nil_append, List.map_nil, List.nil_append]
      exact paint_cons_inside rest (Nat.le_of_eq hoffset.symm) (hoffset ▸ hinside)
  | cons char gap ih =>
      have hpos := char.utf8Size_pos
      rw [Text.size_cons] at hgap
      simp only [List.cons_append, List.map_cons]
      rw [paint_cons_cons_of_lt_stop (by omega), if_neg (by omega), ih (by omega)]

end Highlighter.Cell
