import Highlighter.Proofs.Span.Absorbed

/-!
# Spans cut by an order

An order decides which span keeps a byte that several of them hold. `Cut` says what is then left of
the spans, byte by byte and without a word of sorting or of a cursor, and leaves no choice
(`Cut.eq`). A sweep through sorted spans cuts them by the order in which they are sorted
(`cut_sweep_mergeSort`): whatever was swept past stops before the cursor, so no later piece holds a
byte of it.
-/

namespace Highlighter.Span

/-- The piece is what is left of a span when its front is cut off, and the span is the first one to
hold any byte of the piece. -/
structure Remnant (first : Span → Span → Prop) (given : Span → Prop) (span piece : Span) :
    Prop where
  category : piece.category = span.category
  stop : piece.stop = span.stop
  start : span.start ≤ piece.start
  first : ∀ other, given other → ∀ offset, piece.contains offset = true →
    other.contains offset = true → first span other

/-- The pieces that are left of some spans when each byte goes to the first span that holds it. -/
structure Cut (first : Span → Span → Prop) (given : Span → Prop) (pieces : List Span) : Prop where
  holds : ∀ piece ∈ pieces, piece.start < piece.stop
  increasing : pieces.Pairwise fun left right => left.start < right.start
  apart : pieces.Pairwise fun left right => left.stop ≤ right.start
  covers : ∀ offset, (∃ piece ∈ pieces, piece.contains offset = true) ↔
    ∃ span, given span ∧ span.contains offset = true
  origin : ∀ piece ∈ pieces, ∃ span, given span ∧ Remnant first given span piece

variable {first : Span → Span → Prop} {given : Span → Prop} {span piece : Span}
  {pieces spans : List Span} {cursor offset : Nat}

theorem Remnant.contains (h : Remnant first given span piece)
    (hpiece : piece.contains offset = true) : span.contains offset = true := by
  rw [contains_eq_true_iff] at hpiece ⊢
  have hstart := h.start
  have hstop := h.stop
  omega

/-! ### There is one way to cut -/

theorem ordered_of_pairwise (hcursor : ∀ piece ∈ pieces, cursor ≤ piece.start)
    (hholds : ∀ piece ∈ pieces, piece.start < piece.stop)
    (hapart : pieces.Pairwise fun left right => left.stop ≤ right.start) :
    Ordered cursor pieces := by
  induction pieces generalizing cursor with
  | nil => trivial
  | cons piece rest ih =>
      obtain ⟨hpiece, hrest⟩ := List.pairwise_cons.mp hapart
      refine ⟨hcursor piece List.mem_cons_self, hholds piece List.mem_cons_self, ih hpiece ?_ hrest⟩
      intro other hother
      exact hholds other (List.mem_cons_of_mem _ hother)

theorem Cut.ordered (h : Cut first given pieces) : Ordered 0 pieces :=
  ordered_of_pairwise (fun _ _ => Nat.zero_le _) h.holds h.apart

/-- What a byte sees of the pieces is told by the first of the spans that hold it. -/
theorem Cut.view_eq_some_iff (h : Cut first given pieces)
    (hantisymm : ∀ span other, given span → given other → first span other → first other span →
      span = other) {category : Category} {stop : Nat} :
    view pieces offset = some (category, stop) ↔
      ∃ span, given span ∧ span.contains offset = true ∧
        (∀ other, given other → other.contains offset = true → first span other) ∧
        span.category = category ∧ span.stop = stop := by
  have horigin (piece : Span) (hfind : pieces.find? (·.contains offset) = some piece) :
      ∃ span, given span ∧ span.contains offset = true ∧
        (∀ other, given other → other.contains offset = true → first span other) ∧
        span.category = piece.category ∧ span.stop = piece.stop := by
    have hcontains : piece.contains offset = true := by simpa using List.find?_some hfind
    obtain ⟨span, hspan, hremnant⟩ := h.origin piece (List.mem_of_find?_eq_some hfind)
    refine ⟨span, hspan, hremnant.contains hcontains, ?_, hremnant.category.symm,
      hremnant.stop.symm⟩
    intro other hother
    exact hremnant.first other hother offset hcontains
  constructor
  · intro hview
    obtain ⟨piece, hfind, hpair⟩ := Option.map_eq_some_iff.mp hview
    obtain ⟨rfl, rfl⟩ := Prod.mk.inj hpair
    exact horigin piece hfind
  · rintro ⟨span, hspan, hcontains, hfirst, rfl, rfl⟩
    have hcovered := (h.covers offset).mpr ⟨span, hspan, hcontains⟩
    obtain ⟨piece, hfind⟩ := Option.isSome_iff_exists.mp (List.find?_isSome.mpr hcovered)
    obtain ⟨other, hother, hholds, hotherFirst, hcategory, hstop⟩ := horigin piece hfind
    obtain rfl : span = other := hantisymm span other hspan hother (hfirst other hother hholds)
      (hotherFirst span hspan hcontains)
    rw [view, hfind, Option.map_some, hcategory, hstop]

/-- **There is one way to cut spans** by an order that tells all of them apart. -/
theorem Cut.eq {pieces' : List Span} (h : Cut first given pieces) (h' : Cut first given pieces')
    (hantisymm : ∀ span other, given span → given other → first span other → first other span →
      span = other) : pieces = pieces' := by
  apply h.ordered.eq_of_view_eq h'.ordered
  intro offset
  ext ⟨category, stop⟩
  rw [h.view_eq_some_iff hantisymm, h'.view_eq_some_iff hantisymm]

/-! ### Sweeping is cutting -/

/-- A span of which no byte reaches a piece makes no difference to where the piece comes from. -/
theorem Remnant.cons {head : Span} (h : Remnant first (· ∈ spans) span piece)
    (hpast : ∀ offset, head.contains offset = true → offset < piece.start) :
    Remnant first (· ∈ head :: spans) span piece where
  category := h.category
  stop := h.stop
  start := h.start
  first := by
    intro other hother offset hpiece hholds
    obtain rfl | hother := List.mem_cons.mp hother
    · have hlt := hpast offset hholds
      rw [contains_eq_true_iff] at hpiece
      omega
    · exact h.first other hother offset hpiece hholds

/-- Each piece that a sweep keeps starts past all that was swept before it. -/
theorem exists_remnant_of_mem_sweep (hrefl : ∀ span, first span span)
    (hsorted : spans.Pairwise first) (h : piece ∈ sweep cursor spans) :
    cursor ≤ piece.start ∧ ∃ span ∈ spans, Remnant first (· ∈ spans) span piece := by
  induction spans generalizing cursor with
  | nil => cases h
  | cons head rest ih =>
      obtain ⟨hhead, hrest⟩ := List.pairwise_cons.mp hsorted
      rw [sweep] at h
      split at h
      · next hempty =>
        rw [isEmpty_eq_true_iff] at hempty
        dsimp only at hempty
        obtain ⟨hcursor, span, hspan, hremnant⟩ := ih hrest h
        refine ⟨hcursor, span, List.mem_cons_of_mem _ hspan, hremnant.cons ?_⟩
        intro offset hcontains
        rw [contains_eq_true_iff] at hcontains
        omega
      · next hkept =>
        rw [Bool.not_eq_true, isEmpty_eq_false_iff] at hkept
        dsimp only at hkept
        obtain rfl | h := List.mem_cons.mp h
        · -- the head comes first of all that are left
          refine ⟨Nat.le_max_right .., head, List.mem_cons_self, rfl, rfl, Nat.le_max_left .., ?_⟩
          intro other hother _ _ _
          obtain rfl | hother := List.mem_cons.mp hother
          · exact hrefl other
          · exact hhead other hother
        · obtain ⟨hcursor, span, hspan, hremnant⟩ := ih hrest h
          refine ⟨by omega, span, List.mem_cons_of_mem _ hspan, hremnant.cons ?_⟩
          intro offset hcontains
          rw [contains_eq_true_iff] at hcontains
          omega

theorem exists_contains_sweep_iff
    (hsorted : spans.Pairwise fun left right => left.start ≤ right.start)
    (hcursor : cursor ≤ offset) :
    (∃ piece ∈ sweep cursor spans, piece.contains offset = true) ↔
      ∃ span ∈ spans, span.contains offset = true := by
  have hsome := congrArg Option.isSome (find?_sweep hsorted hcursor)
  rwa [Option.isSome_map, Option.isSome_map, Bool.eq_iff_iff, List.find?_isSome,
    List.find?_isSome] at hsome

/-- **A sweep through sorted spans cuts them** by the order in which they are sorted. -/
theorem cut_sweep_mergeSort {le : Span → Span → Bool}
    (htrans : ∀ left middle right, le left middle = true → le middle right = true →
      le left right = true)
    (htotal : ∀ left right, (le left right || le right left) = true)
    (hstart : ∀ {left right}, le left right = true → left.start ≤ right.start)
    (spans : List Span) :
    Cut (fun left right => le left right = true) (· ∈ spans) (sweep 0 (spans.mergeSort le)) := by
  have hsorted := List.pairwise_mergeSort htrans htotal spans
  have hordered := ordered_sweep 0 (spans.mergeSort le)
  have hrefl (span : Span) : le span span = true := by
    simpa using htotal span span
  refine ⟨hordered.start_lt_stop, ?_, hordered.pairwise, ?_, ?_⟩
  · apply hordered.pairwise.imp_of_mem
    intro left right hleft _ hle
    exact Nat.lt_of_lt_of_le (hordered.start_lt_stop left hleft) hle
  · intro offset
    rw [exists_contains_sweep_iff (hsorted.imp hstart) (Nat.zero_le offset)]
    simp only [List.mem_mergeSort]
  · intro piece hpiece
    obtain ⟨-, span, hspan, hremnant⟩ := exists_remnant_of_mem_sweep hrefl hsorted hpiece
    simp only [List.mem_mergeSort] at hspan hremnant
    exact ⟨span, hspan, hremnant⟩

end Highlighter.Span
