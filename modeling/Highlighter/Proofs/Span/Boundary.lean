import Highlighter.Highlight
import Highlighter.Proofs.Text.Offset
import Highlighter.Proofs.Vocabulary.WholeWord
import Highlighter.Span.Resolve

/-!
# Spans between characters

Everything that is found in a text starts and stops between two of its characters: a find is made
of whole needles, a comment or a string may also run to the end of the text, and a sweep moves the
start of a span only to where another one stops. The main statement is
`onBoundaries_of_mem_resolve`.
-/

namespace Highlighter

open Text

/-- The span starts and stops between two characters of the text, or at an end of it. -/
def Span.OnBoundaries (text : Text) (span : Span) : Prop :=
  IsBoundary text span.start ∧ IsBoundary text span.stop

namespace Span

/-- What is found in the rest of a text is on boundaries of the text. -/
theorem onBoundaries_of_mem_delimited {category : Category} {opener closer text : Text}
    {span : Span} (done : Text) (h : span ∈ delimited category opener closer done.size text) :
    span.OnBoundaries (done ++ text) := by
  generalize hoffset : done.size = offset at h
  fun_induction delimited category opener closer offset text generalizing done with
  | case1 => simp at h
  | case2 offset text before body hopener hcloser =>
      obtain rfl : span = _ := List.mem_singleton.mp h
      subst hoffset
      have hstart := IsBoundary.of_append (done ++ before) (opener ++ body)
      have hstop := IsBoundary.size (done ++ text)
      rw [eq_append_of_cut? hopener] at hstop ⊢
      simp only [List.append_assoc, size_append] at hstart hstop ⊢
      exact ⟨hstart, hstop⟩
  | case3 offset text before body hopener start inside rest hcloser stop =>
      rename_i ih
      subst hoffset
      have htext : text = before ++ opener ++ (inside ++ closer ++ rest) := by
        rw [eq_append_of_cut? hopener, eq_append_of_cut? hcloser]
      have hstart := IsBoundary.of_append (done ++ before) (opener ++ (inside ++ closer ++ rest))
      have hstop := IsBoundary.of_append (done ++ before ++ opener ++ inside ++ closer) rest
      obtain rfl | hrest := List.mem_cons.mp h
      · rw [htext]
        simp only [List.append_assoc, size_append, ← Nat.add_assoc] at hstart hstop ⊢
        exact ⟨hstart, hstop⟩
      · have hlater := ih (done ++ before ++ opener ++ inside ++ closer)
          (by simp [stop, start, Nat.add_assoc]) hrest
        rw [htext]
        simpa only [List.append_assoc] using hlater

/-- A sweep moves no end of a span to where no end was. -/
theorem forall_mem_sweep {p : Nat → Prop} {spans : List Span} {cursor : Nat} (hcursor : p cursor)
    (h : ∀ span ∈ spans, p span.start ∧ p span.stop) :
    ∀ span ∈ sweep cursor spans, p span.start ∧ p span.stop := by
  induction spans generalizing cursor with
  | nil => simp [sweep]
  | cons span rest ih =>
      obtain ⟨⟨hstart, hstop⟩, hrest⟩ := List.forall_mem_cons.mp h
      rw [sweep]
      split
      · exact ih hcursor hrest
      · refine List.forall_mem_cons.mpr ⟨⟨?_, hstop⟩, ih hstop hrest⟩
        obtain hle | hle := Nat.le_total span.start cursor
        · simpa [Nat.max_eq_right hle] using hcursor
        · simpa [Nat.max_eq_left hle] using hstart

theorem onBoundaries_of_mem_resolve {text : Text} {candidates : List Span}
    (h : ∀ span ∈ candidates, span.OnBoundaries text) :
    ∀ span ∈ resolve candidates, span.OnBoundaries text :=
  forall_mem_sweep (IsBoundary.zero text) fun span hspan => h span (List.mem_mergeSort.mp hspan)

end Span

/-! ### Words -/

namespace Vocabulary

theorem onBoundaries_of_mem_find {vocabulary : Vocabulary} {line : Text} {span : Span}
    (h : span ∈ vocabulary.find line) : span.OnBoundaries line := by
  obtain ⟨before, rest, size, rfl, -, -, hfirst, rfl⟩ := mem_find_iff.mp h
  obtain ⟨entry, -, hfit⟩ := List.exists_of_findSome?_eq_some hfirst
  obtain ⟨matched, after, rfl, -, -, rfl⟩ := fit?_eq_some_iff.mp hfit
  refine ⟨IsBoundary.of_append before (matched ++ after), ?_⟩
  simpa using IsBoundary.of_append (before ++ matched) after

end Vocabulary

/-! ### Candidates -/

namespace LineRules

theorem onBoundaries_of_comment? {rules : LineRules} {line : Text} {span : Span}
    (h : rules.comment? line = some span) : span.OnBoundaries line := by
  rw [comment?, Option.map_eq_some_iff] at h
  obtain ⟨start, hstart, rfl⟩ := h
  refine ⟨?_, IsBoundary.size line⟩
  obtain ⟨marker, -, hfind⟩ := List.mem_filterMap.mp (List.min?_mem hstart)
  obtain ⟨⟨before, after⟩, hcut, rfl⟩ := Option.map_eq_some_iff.mp hfind
  rw [eq_append_of_cut? hcut, List.append_assoc]
  exact IsBoundary.of_append before (marker ++ after)

/-- **Candidates start and stop between characters.** -/
theorem onBoundaries_of_mem_candidates {rules : LineRules} {line : Text} {inBlock : Bool}
    {span : Span} (h : span ∈ rules.candidates line inBlock) : span.OnBoundaries line := by
  unfold candidates at h
  split at h
  · split at h
    · simp at h
    · obtain rfl := List.mem_singleton.mp h
      exact ⟨IsBoundary.zero line, IsBoundary.size line⟩
  · rw [List.mem_append, List.mem_append, Option.mem_toList, List.mem_flatMap] at h
    obtain (hcomment | ⟨quote, -, hstring⟩) | hword := h
    · exact onBoundaries_of_comment? hcomment
    · exact Span.onBoundaries_of_mem_delimited [] hstring
    · obtain ⟨vocabulary, -, hword⟩ := List.mem_flatMap.mp hword
      exact Vocabulary.onBoundaries_of_mem_find hword

end LineRules

end Highlighter
