import Highlighter.Span
import Highlighter.Span.Resolve
import Mathlib.Data.List.Chain

/-!
# Spans in order

In spans that are in order and disjoint, a position is held by one span at most, and binary search
on the stops finds it. So the two look-ups answer what a search through all spans would
(`anyContains_eq_any`, `anyIntersects_eq_any`).
-/

namespace Highlighter.Span

variable {spans : List Span} {cursor : Nat}

/-- Spans that start past a position do not hold it. -/
theorem find?_contains_eq_none {offset : Nat} (h : ∀ span ∈ spans, offset < span.start) :
    spans.find? (·.contains offset) = none := by
  apply List.find?_eq_none.mpr
  intro span hspan
  have hlt := h span hspan
  rw [contains_eq_true_iff]
  omega

namespace Ordered

theorem mono {cursor' : Nat} (h : Ordered cursor spans) (hle : cursor' ≤ cursor) :
    Ordered cursor' spans := by
  cases spans with
  | nil => trivial
  | cons span rest => exact ⟨Nat.le_trans hle h.1, h.2⟩

theorem dropWhile (h : Ordered cursor spans) (p : Span → Bool) :
    Ordered cursor (spans.dropWhile p) := by
  induction spans with
  | nil => trivial
  | cons span rest ih =>
      rw [List.dropWhile_cons]
      split
      · exact ih (h.2.2.mono (Nat.le_trans h.1 (Nat.le_of_lt h.2.1)))
      · exact h

theorem le_start (h : Ordered cursor spans) : ∀ span ∈ spans, cursor ≤ span.start := by
  induction spans generalizing cursor with
  | nil => simp
  | cons span rest ih =>
      intro other hother
      obtain rfl | hrest := List.mem_cons.mp hother
      · exact h.1
      · have hle := ih h.2.2 other hrest
        have hfirst := h.1
        have hspan := h.2.1
        omega

theorem start_lt_stop (h : Ordered cursor spans) : ∀ span ∈ spans, span.start < span.stop := by
  induction spans generalizing cursor with
  | nil => simp
  | cons span rest ih => exact List.forall_mem_cons.mpr ⟨h.2.1, ih h.2.2⟩

theorem pairwise (h : Ordered cursor spans) :
    spans.Pairwise fun left right => left.stop ≤ right.start := by
  induction spans generalizing cursor with
  | nil => exact .nil
  | cons span rest ih => exact List.pairwise_cons.mpr ⟨h.2.2.le_start, ih h.2.2⟩

/-- The span that holds a position is the first one that stops past it. -/
theorem find?_lt_stop_eq_of_contains (h : Ordered cursor spans) {span : Span} {offset : Nat}
    (hspan : span ∈ spans) (hcontains : span.contains offset = true) :
    spans.find? (fun other => offset < other.stop) = some span := by
  rw [contains_eq_true_iff] at hcontains
  obtain ⟨before, after, rfl⟩ := List.append_of_mem hspan
  apply List.find?_eq_some_iff_append.mpr
  refine ⟨by simp [hcontains.2], before, after, rfl, ?_⟩
  intro other hother
  have hstop : other.stop ≤ span.start :=
    (List.pairwise_append.mp h.pairwise).2.2 other hother span List.mem_cons_self
  simp
  omega

end Ordered

/-! ### Binary search -/

theorem firstPast?_toArray (h : Ordered cursor spans) (offset : Nat) :
    firstPast? spans.toArray offset = spans.find? (fun span => offset < span.stop) := by
  have hpairwise := List.pairwise_iff_getElem.mp h.pairwise
  have hspans := h.start_lt_stop
  have hcount : partitionPoint (fun span => span.stop ≤ offset) spans.toArray
      = spans.findIdx (fun span => offset < span.stop) := by
    refine partitionPoint_eq ?_ ?_ ?_
    · simpa using List.findIdx_le_length
    · intro index span hspan hindex
      obtain ⟨hlt, rfl⟩ := List.getElem?_eq_some_iff.mp (by simpa using hspan)
      simpa using List.not_of_lt_findIdx hindex
    · intro index span hspan hindex
      obtain ⟨hlt, rfl⟩ := List.getElem?_eq_some_iff.mp (by simpa using hspan)
      have hin := Nat.lt_of_le_of_lt hindex (by simpa using hlt)
      have hfound := List.findIdx_getElem (w := hin)
      rw [decide_eq_true_eq] at hfound
      rw [decide_eq_false_iff_not, Nat.not_le]
      obtain heq | hbefore := Nat.eq_or_lt_of_le hindex
      · simpa only [heq] using hfound
      · have hstop := hpairwise _ _ hin hlt hbefore
        have hspan' := hspans _ (List.getElem_mem hlt)
        omega
  rw [firstPast?, hcount, List.find?_eq_getElem?_findIdx]
  simp

theorem anyContains_eq_any (h : Ordered cursor spans) (offset : Nat) :
    anyContains spans.toArray offset = spans.any (·.contains offset) := by
  rw [anyContains, firstPast?_toArray h, Bool.eq_iff_iff, Option.any_eq_true, List.any_eq_true]
  constructor
  · rintro ⟨span, hfind, hcontains⟩
    exact ⟨span, List.mem_of_find?_eq_some hfind, hcontains⟩
  · rintro ⟨span, hspan, hcontains⟩
    exact ⟨span, h.find?_lt_stop_eq_of_contains hspan hcontains, hcontains⟩

theorem anyIntersects_eq_any (h : Ordered cursor spans) (start stop : Nat) :
    anyIntersects spans.toArray start stop = spans.any (·.intersects start stop) := by
  rw [anyIntersects, firstPast?_toArray h, Bool.eq_iff_iff, Option.any_eq_true, List.any_eq_true]
  constructor
  · rintro ⟨span, hfind, hintersects⟩
    exact ⟨span, List.mem_of_find?_eq_some hfind, hintersects⟩
  · rintro ⟨span, hspan, hintersects⟩
    rw [intersects_eq_true_iff] at hintersects
    have hsome : (spans.find? fun other => start < other.stop).isSome := by
      exact List.find?_isSome.mpr ⟨span, hspan, decide_eq_true hintersects.1⟩
    obtain ⟨first, hfind⟩ := Option.isSome_iff_exists.mp hsome
    obtain ⟨hfirst, before, after, rfl, hbefore⟩ := List.find?_eq_some_iff_append.mp hfind
    rw [decide_eq_true_eq] at hfirst
    refine ⟨first, hfind, ?_⟩
    rw [intersects_eq_true_iff]
    refine ⟨hfirst, ?_⟩
    obtain hmem | hmem := List.mem_append.mp hspan
    · have hstop := hbefore span hmem
      simp at hstop
      omega
    obtain rfl | hmem := List.mem_cons.mp hmem
    · exact hintersects.2
    · -- the first span that stops past `start` starts before all later ones
      have hlater := (List.pairwise_append.mp h.pairwise).2.1
      have hfirstStop := (List.pairwise_cons.mp hlater).1 span hmem
      have hfirstStart := h.start_lt_stop first (by simp)
      omega

/-! ### Shared bytes -/

/-- Whether the span holds one of the bytes from `start` to before `stop`. -/
def meets (span : Span) (start stop : Nat) : Bool :=
  max span.start start < min span.stop stop

theorem meets_eq_true_iff (span : Span) (start stop : Nat) :
    span.meets start stop = true ↔
      ∃ offset, span.contains offset = true ∧ start ≤ offset ∧ offset < stop := by
  simp only [meets, decide_eq_true_eq, contains_eq_true_iff]
  constructor
  · intro h
    exact ⟨max span.start start, by omega, by omega, by omega⟩
  · rintro ⟨offset, hcontains, hstart, hstop⟩
    omega

theorem any_meets_eq_true_iff (spans : List Span) (start stop : Nat) :
    spans.any (·.meets start stop) = true ↔
      ∃ offset, start ≤ offset ∧ offset < stop ∧ spans.any (·.contains offset) = true := by
  simp only [List.any_eq_true, meets_eq_true_iff]
  constructor
  · rintro ⟨span, hspan, offset, hcontains, hstart, hstop⟩
    exact ⟨offset, hstart, hstop, span, hspan, hcontains⟩
  · rintro ⟨offset, hstart, hstop, span, hspan, hcontains⟩
    exact ⟨span, hspan, offset, hcontains, hstart, hstop⟩

/-- For a stretch that holds a byte, the look-up tells whether it shares one with a span. -/
theorem anyIntersects_eq_any_meets (h : Ordered cursor spans) {start stop : Nat}
    (hlt : start < stop) :
    anyIntersects spans.toArray start stop = spans.any (·.meets start stop) := by
  rw [anyIntersects_eq_any h, Bool.eq_iff_iff, List.any_eq_true, List.any_eq_true]
  apply exists_congr
  intro span
  apply and_congr_right
  intro hspan
  have hspan' := h.start_lt_stop span hspan
  simp only [intersects_eq_true_iff, meets, decide_eq_true_eq]
  omega

/-! ### A look-up against a search

A look-up inspects the one span that binary search on the stops finds. Where each span holds a byte
and stops no later than the next one starts, that is as good as a search through all of them
(`lookups_eq_search`), also for a stretch that is empty or ends before it starts. -/

/-- It is enough that neighbours are in order. -/
theorem ordered_of_isChain (hcursor : ∀ first ∈ spans.head?, cursor ≤ first.start)
    (hholds : ∀ span ∈ spans, span.start < span.stop)
    (hchain : spans.IsChain fun left right => left.stop ≤ right.start) : Ordered cursor spans := by
  induction spans generalizing cursor with
  | nil => trivial
  | cons span rest ih =>
      obtain ⟨hspan, hrest⟩ := List.forall_mem_cons.mp hholds
      obtain ⟨hnext, hchain⟩ := List.isChain_cons.mp hchain
      exact ⟨hcursor span rfl, hspan, ih hnext hrest hchain⟩

/-- **A look-up finds what a search finds**, whatever the position or the stretch. -/
theorem lookups_eq_search (hholds : ∀ span ∈ spans, span.start < span.stop)
    (hchain : spans.IsChain fun left right => left.stop ≤ right.start) :
    (∀ start stop, anyIntersects spans.toArray start stop = true ↔
        ∃ span ∈ spans, start < span.stop ∧ span.start < stop) ∧
      ∀ offset, anyContains spans.toArray offset = true ↔
        ∃ span ∈ spans, span.start ≤ offset ∧ offset < span.stop := by
  have hordered : Ordered 0 spans :=
    ordered_of_isChain (fun _ _ => Nat.zero_le _) hholds hchain
  constructor
  · intro start stop
    rw [anyIntersects_eq_any hordered, List.any_eq_true]
    simp only [intersects_eq_true_iff]
  · intro offset
    rw [anyContains_eq_any hordered, List.any_eq_true]
    simp only [contains_eq_true_iff]

/-- Two spans that touch: an empty stretch inside one, one between the two, one that ends before it
starts, and the byte where they touch. -/
theorem lookups_of_touching_spans :
    let spans : List Span := [⟨2, 5, .comment⟩, ⟨5, 9, .comment⟩, ⟨12, 13, .comment⟩]
    (∀ span ∈ spans, span.start < span.stop) ∧
      spans.IsChain (fun left right => left.stop ≤ right.start) ∧
      anyIntersects spans.toArray 7 7 = true ∧ anyIntersects spans.toArray 5 5 = false ∧
      anyIntersects spans.toArray 8 6 = true ∧ anyContains spans.toArray 5 = true ∧
      anyContains spans.toArray 9 = false := by
  intro spans
  have hholds : ∀ span ∈ spans, span.start < span.stop := by decide
  have hchain : spans.IsChain fun left right => left.stop ≤ right.start := by decide
  obtain ⟨hintersects, hcontains⟩ := lookups_eq_search hholds hchain
  refine ⟨hholds, hchain, ?_, ?_, ?_, ?_, ?_⟩
  · exact (hintersects 7 7).mpr (by decide)
  · exact Bool.eq_false_iff.mpr fun h => absurd ((hintersects 5 5).mp h) (by decide)
  · exact (hintersects 8 6).mpr (by decide)
  · exact (hcontains 5).mpr (by decide)
  · exact Bool.eq_false_iff.mpr fun h => absurd ((hcontains 9).mp h) (by decide)

/-- Out of order, a span that holds the position is missed. -/
example : anyContains #[⟨10, 12, .comment⟩, ⟨2, 5, .comment⟩] 3 = false := by decide +kernel

end Highlighter.Span
