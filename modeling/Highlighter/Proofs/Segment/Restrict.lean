import Highlighter.Proofs.Segment.Runs
import Highlighter.Proofs.Text.Offset

/-!
# Segments cut to an interval

`restrict` keeps of every segment what lies in an interval of bytes and drops those of which
nothing is left. The main statement, `restrict_ofCells`, is that cutting the segments of some cells
gives the segments of the cells in the interval: the runs at the two ends get shorter, and no run
inside the interval is cut or joined.
-/

namespace Highlighter.Segment

/-- What lies of a segment from byte `start` to before byte `stop`. -/
def clip (start stop : Nat) (segment : Segment) : Segment :=
  { segment with
    start := max segment.start start
    text := Text.within start stop segment.start segment.text }

@[simp]
theorem clip_category (start stop : Nat) (segment : Segment) :
    (clip start stop segment).category = segment.category := rfl

/-- What lies of some segments from byte `start` to before byte `stop`. -/
def restrict (start stop : Nat) (segments : List Segment) : List Segment :=
  (segments.map (clip start stop)).filter (·.text ≠ [])

variable {mode : Mode} {start stop offset : Nat} {cell : Cell} {segments : List Segment}
  {text : Text}

theorem restrict_cons_of_eq_nil {first : Segment}
    (h : Text.within start stop first.start first.text = []) :
    restrict start stop (first :: segments) = restrict start stop segments := by
  simp [restrict, clip, h]

theorem restrict_cons_of_ne_nil {first : Segment}
    (h : Text.within start stop first.start first.text ≠ []) :
    restrict start stop (first :: segments)
      = clip start stop first :: restrict start stop segments := by
  simp [restrict, clip, h]

theorem restrict_eq_nil_of_stop_le (h : ∀ segment ∈ segments, stop ≤ segment.start) :
    restrict start stop segments = [] := by
  induction segments with
  | nil => rfl
  | cons first others ih =>
      rw [restrict_cons_of_eq_nil (Text.within_eq_nil_of_stop_le (h first List.mem_cons_self))]
      apply ih
      intro segment hsegment
      exact h segment (List.mem_cons_of_mem _ hsegment)

theorem restrict_prepend_of_le (h : MaximalRuns mode (offset + cell.char.utf8Size) text segments)
    (hstart : offset + cell.char.utf8Size ≤ start) :
    restrict start stop (prepend mode offset cell segments) = restrict start stop segments := by
  have hpos := cell.char.utf8Size_pos
  have halone : restrict start stop
      (⟨offset, [cell.char], cell.category, cell.category.style mode⟩ :: segments)
      = restrict start stop segments :=
    restrict_cons_of_eq_nil (Text.within_eq_nil_of_le_start (by simpa using hstart))
  cases segments with
  | nil => exact halone
  | cons first others =>
      rw [prepend]
      split
      · have hfirst : first.start = offset + cell.char.utf8Size := h.start_eq first rfl
        have hclip : clip start stop
            { first with start := offset, text := cell.char :: first.text }
            = clip start stop first := by
          simp only [clip, Text.within, hfirst]
          rw [if_neg (by omega), Nat.max_eq_right (by omega), Nat.max_eq_right hstart]
        simp only [restrict, List.map_cons, hclip]
      · exact halone

/-- Of runs that start past the start of the interval, the first is kept or all are past its end. -/
theorem restrict_cons_of_le_start {first : Segment}
    (h : MaximalRuns mode offset text (first :: segments)) (hstart : start ≤ offset) :
    (stop ≤ offset ∧ restrict start stop (first :: segments) = []) ∨
      restrict start stop (first :: segments)
        = clip start stop first :: restrict start stop segments := by
  by_cases hstop : stop ≤ offset
  · refine Or.inl ⟨hstop, ?_⟩
    apply restrict_eq_nil_of_stop_le
    intro segment hsegment
    exact hstop.trans (h.le_start segment hsegment)
  · right
    apply restrict_cons_of_ne_nil
    have hfirst : first.start = offset := h.start_eq first rfl
    obtain ⟨char, rest, htext⟩ := List.exists_cons_of_ne_nil (h.ne_nil first List.mem_cons_self)
    rw [htext, Text.within, if_pos (by omega)]
    exact List.cons_ne_nil _ _

/-- A segment that starts in the interval keeps its first character and its start. -/
theorem restrict_cons_of_inside {char : Char} {rest : Text} {category : Category} {style : Style}
    (hstart : start ≤ offset) (hstop : offset < stop) :
    restrict start stop (⟨offset, char :: rest, category, style⟩ :: segments)
      = ⟨offset, char :: Text.within start stop (offset + char.utf8Size) rest, category, style⟩
        :: restrict start stop segments := by
  have hkept : Text.within start stop offset (char :: rest)
      = char :: Text.within start stop (offset + char.utf8Size) rest := by
    rw [Text.within, if_pos ⟨hstart, hstop⟩]
  rw [restrict_cons_of_ne_nil (by simp [hkept]), clip, hkept, Nat.max_eq_left hstart]

/-- A cell in the interval stays, and joins what stays of the segments after it. -/
theorem restrict_prepend_of_inside
    (h : MaximalRuns mode (offset + cell.char.utf8Size) text segments)
    (hstart : start ≤ offset) (hstop : offset + cell.char.utf8Size ≤ stop) :
    restrict start stop (prepend mode offset cell segments)
      = prepend mode offset cell (restrict start stop segments) := by
  have hpos := cell.char.utf8Size_pos
  have hinside : offset < stop := by omega
  cases segments with
  | nil => exact restrict_cons_of_inside hstart hinside
  | cons first others =>
      have hfirst : first.start = offset + cell.char.utf8Size := h.start_eq first rfl
      rw [prepend]
      obtain ⟨hpast, hnil⟩ | hcons := restrict_cons_of_le_start h (by omega : start ≤ _)
      · -- the interval ends with the cell, so nothing after it is left to join
        have hothers : restrict start stop others = [] := by
          apply restrict_eq_nil_of_stop_le
          intro segment hsegment
          exact hpast.trans (h.le_start segment (List.mem_cons_of_mem _ hsegment))
        split
        · next hcategory =>
          rw [restrict_cons_of_inside hstart hinside, hnil, hothers,
            Text.within_eq_nil_of_stop_le hpast, h.styled first List.mem_cons_self, hcategory]
          rfl
        · rw [restrict_cons_of_inside hstart hinside, hnil]
          rfl
      · rw [hcons, prepend, clip_category]
        split
        · rw [restrict_cons_of_inside hstart hinside, ← hfirst]
          rfl
        · rw [restrict_cons_of_inside hstart hinside, hcons]
          rfl

theorem restrict_ofCells_append_of_le (before after : List Cell)
    (h : offset + (Cell.text before).size ≤ start) :
    restrict start stop (ofCells mode offset (before ++ after))
      = restrict start stop (ofCells mode (offset + (Cell.text before).size) after) := by
  induction before generalizing offset with
  | nil => rfl
  | cons cell rest ih =>
      simp only [Cell.text, List.map_cons, Text.size_cons, ← Nat.add_assoc] at h ih ⊢
      rw [List.cons_append, ofCells,
        restrict_prepend_of_le (maximalRuns_ofCells mode _ _) (by omega), ih h]

/-- Of cells that start in the interval, those up to its end are left. -/
theorem restrict_ofCells_append_of_stop_eq (inside after : List Cell) (hstart : start ≤ offset)
    (hstop : offset + (Cell.text inside).size = stop) :
    restrict start stop (ofCells mode offset (inside ++ after)) = ofCells mode offset inside := by
  induction inside generalizing offset with
  | nil =>
      apply restrict_eq_nil_of_stop_le
      intro segment hsegment
      have hle := (maximalRuns_ofCells mode offset after).le_start segment hsegment
      simp [Cell.text] at hstop
      omega
  | cons cell rest ih =>
      simp only [Cell.text, List.map_cons, Text.size_cons, ← Nat.add_assoc] at hstop ih
      rw [List.cons_append, ofCells,
        restrict_prepend_of_inside (maximalRuns_ofCells mode _ _) hstart (by omega),
        ih (by omega) hstop, ofCells]

/-- **Cutting segments is cutting cells.** The segments of some cells, cut to the bytes of cells
that stand one after another among them, are the segments of these. -/
theorem restrict_ofCells (mode : Mode) (offset : Nat) (before inside after : List Cell) :
    restrict (offset + (Cell.text before).size)
        (offset + (Cell.text before).size + (Cell.text inside).size)
        (ofCells mode offset (before ++ inside ++ after))
      = ofCells mode (offset + (Cell.text before).size) inside := by
  rw [List.append_assoc, restrict_ofCells_append_of_le before _ le_rfl]
  exact restrict_ofCells_append_of_stop_eq inside after le_rfl rfl

end Highlighter.Segment
