import Highlighter.Highlight
import Highlighter.Proofs.Span.Ordered
import Highlighter.Span.Resolve

/-!
# What a sweep covers

A sweep keeps one cursor, yet neither loses a byte nor hands it to the wrong span: of the spans that
hold a byte, the first one in the order of the sweep gets it (`find?_sweep`). For candidates that is
the one that outranks all others (`find?_resolve`), and the comments of a text cover exactly what
the finds of its markers cover (`any_contains_scan`).
-/

namespace Highlighter.Span

/-- The one of some spans that outranks all of them. -/
def first? : List Span → Option Span
  | [] => none
  | span :: rest =>
    match first? rest with
    | none => some span
    | some other => if span.outranks other then some span else some other

/-- The one that outranks the others among the spans that hold the byte at `offset`. -/
def firstAt? (offset : Nat) (spans : List Span) : Option Span :=
  first? (spans.filter (·.contains offset))

/-! ### The sweep -/

/-- **A sweep hands each byte to the first span that holds it.** The cursor is past no byte that a
span yet to come is first to hold: all of these start no earlier than the spans before them. -/
theorem find?_sweep {spans : List Span} {cursor offset : Nat}
    (hsorted : spans.Pairwise fun left right => left.start ≤ right.start)
    (hcursor : cursor ≤ offset) :
    ((sweep cursor spans).find? (·.contains offset)).map (fun span => (span.category, span.stop))
      = (spans.find? (·.contains offset)).map (fun span => (span.category, span.stop)) := by
  induction spans generalizing cursor with
  | nil => rfl
  | cons span rest ih =>
      obtain ⟨hfirst, hrest⟩ := List.pairwise_cons.mp hsorted
      rw [sweep, List.find?_cons]
      split
      · -- the span is dropped, so it holds no byte past the cursor
        next hempty =>
        rw [isEmpty_eq_true_iff] at hempty
        have hmiss : span.contains offset = false := by
          rw [Bool.eq_false_iff, ne_eq, contains_eq_true_iff]
          dsimp only at hempty
          omega
        rw [hmiss, ih hrest hcursor]
      · next hkept =>
        rw [List.find?_cons]
        have hclipped : contains { span with start := max span.start cursor } offset
            = span.contains offset := by
          rw [Bool.eq_iff_iff, contains_eq_true_iff, contains_eq_true_iff]
          dsimp only
          omega
        rw [hclipped]
        cases hspan : span.contains offset with
        | true => rfl
        | false =>
            rw [Bool.eq_false_iff, ne_eq, contains_eq_true_iff] at hspan
            by_cases hstop : span.stop ≤ offset
            · exact ih hrest hstop
            · -- the byte is before the span, so before all that is yet to come
              have hbefore : offset < span.start := by omega
              have hswept : ∀ other ∈ sweep span.stop rest, offset < other.start := by
                intro other hother
                have hle := (ordered_sweep span.stop rest).le_start other hother
                omega
              have hlater : ∀ other ∈ rest, offset < other.start := by
                intro other hother
                exact Nat.lt_of_lt_of_le hbefore (hfirst other hother)
              rw [find?_contains_eq_none hswept, find?_contains_eq_none hlater]

/-! ### Candidates -/

attribute [ext] Span

theorem start_le_of_outranks {left right : Span} (h : left.outranks right = true) :
    left.start ≤ right.start := by
  unfold outranks at h
  split at h
  · exact Nat.le_of_lt (of_decide_eq_true h)
  · next hstart => exact Nat.le_of_eq (Decidable.not_not.mp hstart)

theorem outranks_antisymm {left right : Span} (h : left.outranks right = true)
    (h' : right.outranks left = true) : left = right := by
  have hstart : left.start = right.start :=
    Nat.le_antisymm (start_le_of_outranks h) (start_le_of_outranks h')
  simp only [outranks, hstart, ne_eq, not_true_eq_false, if_false] at h h'
  have hpriority : left.category.priority = right.category.priority := by
    by_cases heq : left.category.priority = right.category.priority
    · exact heq
    · simp [heq, Ne.symm heq] at h h'
      omega
  simp only [hpriority, not_true_eq_false, if_false, decide_eq_true_eq] at h h'
  exact Span.ext hstart (Nat.le_antisymm h' h) (Category.priority_injective hpriority)

theorem outranks_refl (span : Span) : span.outranks span = true := by
  simpa using outranks_total span span

theorem first?_eq_none_iff {spans : List Span} : first? spans = none ↔ spans = [] := by
  cases spans with
  | nil => simp [first?]
  | cons span rest =>
      unfold first?
      split
      · simp
      · split <;> simp

theorem mem_and_outranks_of_first? {spans : List Span} {span : Span}
    (h : first? spans = some span) :
    span ∈ spans ∧ ∀ other ∈ spans, span.outranks other = true := by
  induction spans generalizing span with
  | nil => simp [first?] at h
  | cons head rest ih =>
      unfold first? at h
      cases hrest : first? rest with
      | none =>
          obtain rfl : head = span := by simpa [hrest] using h
          simp [first?_eq_none_iff.mp hrest, outranks_refl]
      | some best =>
          obtain ⟨hmem, hbest⟩ := ih hrest
          simp only [hrest] at h
          split at h
          · next hhead =>
            obtain rfl : head = span := by simpa using h
            refine ⟨List.mem_cons_self, List.forall_mem_cons.mpr ⟨outranks_refl head, ?_⟩⟩
            intro other hother
            exact outranks_trans head best other hhead (hbest other hother)
          · next hhead =>
            obtain rfl : best = span := by simpa using h
            have htotal := outranks_total best head
            refine ⟨List.mem_cons_of_mem _ hmem, List.forall_mem_cons.mpr ⟨?_, hbest⟩⟩
            simpa [hhead] using htotal

/-- The order leaves no doubt which span is first: spans that outrank each other are equal. -/
theorem first?_eq_some_iff {spans : List Span} {span : Span} :
    first? spans = some span ↔ span ∈ spans ∧ ∀ other ∈ spans, span.outranks other = true := by
  refine ⟨mem_and_outranks_of_first?, ?_⟩
  rintro ⟨hmem, houtranks⟩
  have hne : first? spans ≠ none := mt first?_eq_none_iff.mp (List.ne_nil_of_mem hmem)
  obtain ⟨best, hbest⟩ := Option.ne_none_iff_exists'.mp hne
  obtain ⟨hbestMem, hbestOutranks⟩ := mem_and_outranks_of_first? hbest
  rw [hbest, outranks_antisymm (houtranks best hbestMem) (hbestOutranks span hmem)]

theorem find?_mergeSort_outranks (candidates : List Span) (offset : Nat) :
    (candidates.mergeSort outranks).find? (·.contains offset) = firstAt? offset candidates := by
  have hsorted := List.pairwise_mergeSort outranks_trans outranks_total candidates
  have hperm := List.mergeSort_perm candidates outranks
  cases hfind : (candidates.mergeSort outranks).find? (·.contains offset) with
  | none =>
      have hnone : candidates.filter (·.contains offset) = [] := by
        apply List.filter_eq_nil_iff.mpr
        intro span hspan
        exact List.find?_eq_none.mp hfind span (hperm.mem_iff.mpr hspan)
      rw [firstAt?, hnone, first?]
  | some span =>
      obtain ⟨hcontains, before, after, heq, hbefore⟩ := List.find?_eq_some_iff_append.mp hfind
      rw [heq] at hsorted
      have hmem : span ∈ candidates := hperm.mem_iff.mp (by simp [heq])
      refine (first?_eq_some_iff.mpr ⟨List.mem_filter.mpr ⟨hmem, hcontains⟩, ?_⟩).symm
      intro other hother
      obtain ⟨hother, hholds⟩ := List.mem_filter.mp hother
      have hmemSorted := hperm.mem_iff.mpr hother
      rw [heq, List.mem_append, List.mem_cons] at hmemSorted
      obtain hmem | rfl | hmem := hmemSorted
      · have hmiss := hbefore other hmem
        simp [hholds] at hmiss
      · exact outranks_refl other
      · exact (List.pairwise_cons.mp (List.pairwise_append.mp hsorted).2.1).1 other hmem

/-- **Resolving candidates** gives each byte to the candidate that outranks all others that hold
it. -/
theorem find?_resolve (candidates : List Span) (offset : Nat) :
    ((resolve candidates).find? (·.contains offset)).map (fun span => (span.category, span.stop))
      = (firstAt? offset candidates).map (fun span => (span.category, span.stop)) := by
  have hsorted := List.pairwise_mergeSort outranks_trans outranks_total candidates
  rw [resolve, find?_sweep (hsorted.imp start_le_of_outranks) (Nat.zero_le offset),
    find?_mergeSort_outranks]

end Highlighter.Span

namespace Highlighter.Block

theorem start_le_of_precedes {left right : Span} (h : precedes left right = true) :
    left.start ≤ right.start := by
  unfold precedes at h
  split at h
  · exact Nat.le_of_lt (of_decide_eq_true h)
  · next hstart => exact Nat.le_of_eq (Decidable.not_not.mp hstart)

/-- **The comments of a text** cover what the finds of its markers cover. -/
theorem any_contains_scan (rules : RuleSet) (text : Text) (offset : Nat) :
    (scan rules text).any (·.contains offset) = (finds rules text).any (·.contains offset) := by
  have hsorted := List.pairwise_mergeSort precedes_trans precedes_total (finds rules text)
  have hfind := Span.find?_sweep (hsorted.imp start_le_of_precedes) (Nat.zero_le offset)
  have hsome := congrArg Option.isSome hfind
  simp only [Option.isSome_map, List.isSome_find?] at hsome
  rw [scan, hsome]
  exact (List.mergeSort_perm _ _).any_eq

end Highlighter.Block
