import Highlighter.Vocabulary

/-!
# The first entry that fits

Entries are tried by their sizes, and those of one size as they are listed. They are sorted for
that, and sorting keeps the order of entries of one size: numbered as they are listed, they stand in
the sorted list by size and then by number (`pairwise_mergeSort_zipIdx`). So a search along the
entries of a vocabulary meets the first of those that fit (`findSome?_ofEntries_eq_some_iff`).
-/

namespace Highlighter.Vocabulary

open Text

/-! ### The first entry with a property -/

/-- An entry and its number in the list. -/
abbrev Numbered := Text × Nat

/-- Whether an entry comes before another one: it has more bytes, or as many and a lower number. -/
def Numbered.Precedes (left right : Numbered) : Prop :=
  right.1.size < left.1.size ∨ left.1.size = right.1.size ∧ left.2 < right.2

/-- The entry with a property that comes before all others with it. -/
structure First (p : Text → Prop) (entries : List Text) (first : Numbered) : Prop where
  listed : entries[first.2]? = some first.1
  holds : p first.1
  not_precedes : ∀ other : Numbered, entries[other.2]? = some other.1 → p other.1 →
    ¬ other.Precedes first

variable {p q : Text → Prop} {entries : List Text} {first other : Numbered}

theorem First.unique (h : First p entries first) (h' : First p entries other) : first = other := by
  have hnot := h.not_precedes other h'.listed h'.holds
  have hnot' := h'.not_precedes first h.listed h.holds
  simp only [Numbered.Precedes] at hnot hnot'
  have hnumber : first.2 = other.2 := by omega
  have hentry : some first.1 = some other.1 := by rw [← h.listed, ← h'.listed, hnumber]
  exact Prod.ext (Option.some.inj hentry) hnumber

theorem first_congr (h : ∀ entry, p entry ↔ q entry) :
    First p entries first ↔ First q entries first := by
  rw [funext fun entry => propext (h entry)]

/-! ### Sorted entries -/

/-- The comparison by which entries are sorted. -/
def noShorter (left right : Text) : Bool :=
  right.size ≤ left.size

theorem entries_ofEntries (category : Category) (entries : List Text) :
    (ofEntries category entries).entries
      = (entries.mergeSort noShorter).map (·.map Unicode.fold) := rfl

theorem not_precedes_of_zipIdxLE (h : List.zipIdxLE noShorter first other = true) :
    ¬ other.Precedes first := by
  simp only [List.zipIdxLE, noShorter, decide_eq_true_eq] at h
  simp only [Numbered.Precedes]
  split at h
  · split at h
    · rw [decide_eq_true_eq] at h
      omega
    · omega
  · cases h

theorem pairwise_mergeSort_zipIdx (entries : List Text) :
    (entries.zipIdx.mergeSort (List.zipIdxLE noShorter)).Pairwise
      fun left right => ¬ Numbered.Precedes right left := by
  have hsorted : (entries.zipIdx.mergeSort (List.zipIdxLE noShorter)).Pairwise
      fun left right => List.zipIdxLE noShorter left right = true := by
    apply List.pairwise_mergeSort
    · apply List.zipIdxLE_trans
      intro left middle right h h'
      simp only [noShorter, decide_eq_true_eq] at *
      exact Nat.le_trans h' h
    · apply List.zipIdxLE_total
      intro left right
      simpa [noShorter] using Nat.le_total right.size left.size
  exact hsorted.imp not_precedes_of_zipIdxLE

theorem pairwise_mergeSort_size (entries : List Text) :
    (entries.mergeSort noShorter).Pairwise fun left right => right.size ≤ left.size := by
  rw [← List.mergeSort_zipIdx, List.pairwise_map]
  apply (pairwise_mergeSort_zipIdx entries).imp
  intro left right hnot
  simp only [Numbered.Precedes, not_or] at hnot
  exact Nat.le_of_not_lt hnot.1

theorem exists_first_of_findSome? {α : Type} {result? : Text → Option α} {result : α}
    (h : (entries.mergeSort noShorter).findSome? result? = some result) :
    ∃ first, First (result? · ≠ none) entries first ∧ result? first.1 = some result := by
  rw [← List.mergeSort_zipIdx, List.findSome?_map] at h
  obtain ⟨before, first, after, hsplit, hresult, hbefore⟩ := List.findSome?_eq_some_iff.mp h
  have hsorted := pairwise_mergeSort_zipIdx entries
  have hmem (other : Numbered) :
      entries[other.2]? = some other.1 ↔ other ∈ before ++ first :: after := by
    rw [← hsplit, List.mem_mergeSort, List.mem_zipIdx_iff_getElem?]
  rw [hsplit] at hsorted
  have hresult' : result? first.1 = some result := hresult
  refine ⟨first, ⟨(hmem first).mpr (by simp), by simp [hresult'], ?_⟩, hresult'⟩
  -- what is tried before has no result, and what comes after is in order
  intro other hlisted hother
  obtain hother' | hother' := List.mem_append.mp ((hmem other).mp hlisted)
  · exact absurd (hbefore other hother') hother
  obtain rfl | hother' := List.mem_cons.mp hother'
  · simp [Numbered.Precedes]
  · exact (List.pairwise_cons.mp (List.pairwise_append.mp hsorted).2.1).1 other hother'

theorem findSome?_mergeSort_eq_some_iff {α : Type} {result? : Text → Option α} {result : α} :
    (entries.mergeSort noShorter).findSome? result? = some result ↔
      ∃ first, First (result? · ≠ none) entries first ∧ result? first.1 = some result := by
  refine ⟨exists_first_of_findSome?, ?_⟩
  rintro ⟨first, hfirst, hresult⟩
  cases hfound : (entries.mergeSort noShorter).findSome? result? with
  | none =>
      have hmem : first.1 ∈ entries.mergeSort noShorter :=
        List.mem_mergeSort.mpr (List.mem_of_getElem? hfirst.listed)
      exact absurd (List.findSome?_eq_none_iff.mp hfound first.1 hmem) hfirst.holds
  | some found =>
      obtain ⟨other, hother, hfound'⟩ := exists_first_of_findSome? hfound
      rw [← hother.unique hfirst, hfound'] at hresult
      exact hresult

/-- The search along the entries of a vocabulary meets the first of those that fit. -/
theorem findSome?_ofEntries_eq_some_iff {category : Category} {text : Text} {size : Nat} :
    (ofEntries category entries).entries.findSome? (fit? text) = some size ↔
      ∃ first : Numbered, First (fun entry => fit? text (entry.map Unicode.fold) ≠ none) entries first ∧
        fit? text (first.1.map Unicode.fold) = some size := by
  rw [entries_ofEntries, List.findSome?_map]
  exact findSome?_mergeSort_eq_some_iff

end Highlighter.Vocabulary
