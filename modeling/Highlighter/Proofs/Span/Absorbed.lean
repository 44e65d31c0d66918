import Highlighter.Proofs.Span.Coverage

/-!
# Candidates that change nothing

Spans in order are known from what each offset sees of them: the category of the span that holds it
and where that span stops (`Ordered.eq_of_view_eq`). A candidate that holds no byte is seen nowhere,
and neither is one that another of its category and start outlasts, since the other outranks it
wherever it reaches. So a list of candidates resolves as any part of it that has absorbed the rest
(`resolve_eq_of_absorbs`).
-/

namespace Highlighter.Span

/-- What the byte at `offset` sees of some spans: the category of the first one that holds it, and
where that one stops. -/
def view (spans : List Span) (offset : Nat) : Option (Category × Nat) :=
  (spans.find? (·.contains offset)).map fun span => (span.category, span.stop)

/-- Wherever the other span reaches, this one of its category does too, from one start. -/
structure Absorbs (span other : Span) : Prop where
  start : span.start = other.start
  category : span.category = other.category
  stop : other.stop ≤ span.stop

theorem Absorbs.refl (span : Span) : span.Absorbs span :=
  ⟨rfl, rfl, Nat.le_refl _⟩

theorem Absorbs.contains {span other : Span} (h : span.Absorbs other) {offset : Nat}
    (hcontains : other.contains offset = true) : span.contains offset = true := by
  rw [contains_eq_true_iff] at hcontains ⊢
  have hstart := h.start
  have hstop := h.stop
  omega

theorem Absorbs.outranks {span other : Span} (h : span.Absorbs other) :
    span.outranks other = true := by
  simp [Span.outranks, h.start, h.category, h.stop]

/-! ### Views -/

theorem contains_start {span : Span} (h : span.start < span.stop) :
    span.contains span.start = true := by
  rw [contains_eq_true_iff]
  exact ⟨Nat.le_refl _, h⟩

theorem view_cons_of_contains {span : Span} {offset : Nat} (h : span.contains offset = true)
    (rest : List Span) : view (span :: rest) offset = some (span.category, span.stop) := by
  rw [view, List.find?_cons, h]
  rfl

theorem view_cons_of_not_contains {span : Span} {offset : Nat} (h : span.contains offset = false)
    (rest : List Span) : view (span :: rest) offset = view rest offset := by
  rw [view, List.find?_cons, h, view]

theorem Ordered.view_eq_none {spans : List Span} {cursor offset : Nat} (h : Ordered cursor spans)
    (hlt : offset < cursor) : view spans offset = none := by
  rw [view, find?_contains_eq_none, Option.map_none]
  intro span hspan
  exact Nat.lt_of_lt_of_le hlt (h.le_start span hspan)

/-- The first span starts at the first offset that sees a span, so if all offsets see the same, the
first spans are the same. -/
theorem Ordered.start_le_of_view_eq {span other : Span} {spans others : List Span} {cursor : Nat}
    (h : Ordered cursor (span :: spans)) (hother : other.start < other.stop)
    (hview : ∀ offset, view (span :: spans) offset = view (other :: others) offset) :
    span.start ≤ other.start := by
  apply Nat.le_of_not_lt
  intro hlt
  have hspans : Ordered span.start (span :: spans) := ⟨Nat.le_refl _, h.2⟩
  have hnone : view (span :: spans) other.start = none := hspans.view_eq_none hlt
  rw [hview, view_cons_of_contains (contains_start hother)] at hnone
  cases hnone

/-- **Spans in order are equal if every offset sees the same of them.** -/
theorem Ordered.eq_of_view_eq {left right : List Span} {cursor cursor' : Nat}
    (hleft : Ordered cursor left) (hright : Ordered cursor' right)
    (hview : ∀ offset, view left offset = view right offset) : left = right := by
  induction left generalizing right cursor cursor' with
  | nil =>
      cases right with
      | nil => rfl
      | cons span rest =>
          have hsees := hview span.start
          rw [view_cons_of_contains (contains_start hright.2.1)] at hsees
          cases hsees
  | cons span rest ih =>
      cases right with
      | nil =>
          have hsees := hview span.start
          rw [view_cons_of_contains (contains_start hleft.2.1)] at hsees
          cases hsees
      | cons other others =>
          have hstart : span.start = other.start := by
            apply Nat.le_antisymm
            · exact hleft.start_le_of_view_eq hright.2.1 hview
            · exact hright.start_le_of_view_eq hleft.2.1 fun offset => (hview offset).symm
          have hcontains : other.contains span.start = true := by
            rw [hstart]
            exact contains_start hright.2.1
          have hsees := hview span.start
          rw [view_cons_of_contains (contains_start hleft.2.1), view_cons_of_contains hcontains]
            at hsees
          obtain ⟨hcategory, hstop⟩ := Prod.mk.inj (Option.some.inj hsees)
          obtain rfl := Span.ext hstart hstop hcategory
          rw [ih hleft.2.2 hright.2.2]
          intro offset
          cases hoffset : span.contains offset with
          | false =>
              rw [← view_cons_of_not_contains hoffset, hview, view_cons_of_not_contains hoffset]
          | true =>
              -- neither rest holds what the first span holds
              rw [contains_eq_true_iff] at hoffset
              rw [hleft.2.2.view_eq_none hoffset.2, hright.2.2.view_eq_none hoffset.2]

/-! ### Candidates -/

theorem view_resolve (candidates : List Span) (offset : Nat) :
    view (resolve candidates) offset
      = (firstAt? offset candidates).map fun span => (span.category, span.stop) :=
  find?_resolve candidates offset

theorem firstAt?_eq_some_iff {candidates : List Span} {offset : Nat} {span : Span} :
    firstAt? offset candidates = some span ↔
      (span ∈ candidates ∧ span.contains offset = true) ∧
        ∀ other ∈ candidates, other.contains offset = true → span.outranks other = true := by
  rw [firstAt?, first?_eq_some_iff, List.mem_filter]
  simp only [List.mem_filter, and_imp]

theorem firstAt?_eq_none_iff {candidates : List Span} {offset : Nat} :
    firstAt? offset candidates = none ↔ ∀ span ∈ candidates, span.contains offset = false := by
  rw [firstAt?, first?_eq_none_iff, List.filter_eq_nil_iff]
  simp only [Bool.not_eq_true]

theorem firstAt?_eq_of_absorbs {kept candidates : List Span} (hsub : ∀ span ∈ kept, span ∈ candidates)
    (habsorbs : ∀ other ∈ candidates, other.start < other.stop → ∃ span ∈ kept, span.Absorbs other)
    (offset : Nat) : firstAt? offset kept = firstAt? offset candidates := by
  have hreach : ∀ other ∈ candidates, other.contains offset = true →
      ∃ span ∈ kept, span.contains offset = true ∧ span.outranks other = true := by
    intro other hother hcontains
    have hbounds := (contains_eq_true_iff other offset).mp hcontains
    obtain ⟨span, hspan, habsorbs⟩ := habsorbs other hother (by omega)
    exact ⟨span, hspan, habsorbs.contains hcontains, habsorbs.outranks⟩
  cases hfirst : firstAt? offset kept with
  | none =>
      rw [firstAt?_eq_none_iff] at hfirst
      symm
      rw [firstAt?_eq_none_iff]
      intro other hother
      rw [Bool.eq_false_iff]
      intro hcontains
      obtain ⟨span, hspan, hholds, -⟩ := hreach other hother hcontains
      rw [hfirst span hspan] at hholds
      cases hholds
  | some first =>
      obtain ⟨⟨hmem, hcontains⟩, houtranks⟩ := firstAt?_eq_some_iff.mp hfirst
      symm
      refine firstAt?_eq_some_iff.mpr ⟨⟨hsub first hmem, hcontains⟩, ?_⟩
      intro other hother hholds
      obtain ⟨span, hspan, hspanHolds, hspanOutranks⟩ := hreach other hother hholds
      exact outranks_trans first span other (houtranks span hspan hspanHolds) hspanOutranks

/-- **Absorbed candidates change nothing**, whatever other candidates there are. -/
theorem resolve_eq_of_absorbs {kept candidates : List Span}
    (hsub : ∀ span ∈ kept, span ∈ candidates)
    (habsorbs : ∀ other ∈ candidates, other.start < other.stop → ∃ span ∈ kept, span.Absorbs other) :
    resolve kept = resolve candidates := by
  apply (ordered_resolve kept).eq_of_view_eq (ordered_resolve candidates)
  intro offset
  rw [view_resolve, view_resolve, firstAt?_eq_of_absorbs hsub habsorbs]

/-- The order of candidates and their repetitions change nothing. -/
theorem resolve_eq_of_mem_iff {left right : List Span} (h : ∀ span, span ∈ left ↔ span ∈ right) :
    resolve left = resolve right := by
  apply resolve_eq_of_absorbs
  · intro span hspan
    exact (h span).mp hspan
  · intro other hother _
    exact ⟨other, (h other).mpr hother, Absorbs.refl other⟩

end Highlighter.Span
