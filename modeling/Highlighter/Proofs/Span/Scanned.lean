import Highlighter.Proofs.Cursor.Delimited
import Highlighter.Proofs.Text.Position
import Mathlib.Data.List.Chain

/-!
# Scans by position

`Scanned` says of some spans where each of them starts and stops and when there is no further one, in
terms of the byte offsets at which openers and closers stand in the whole text. It holds of some
spans if it holds of the first one and, from where that one stops, of the others, so there is one
such sequence (`Scanned.unique`). Both the search by cuts and the loop over offsets find it
(`delimited_eq_iff_scanned`).
-/

namespace Highlighter.Span

open Text

/-- Where some spans leave a search that started at the position. -/
def reached (position : Nat) (spans : List Span) : Nat :=
  (spans.getLast?.map (·.stop)).getD position

/-- The closer stands somewhere past the opener with which the span starts. -/
def HasCloser (opener closer text : Text) (span : Span) : Prop :=
  OccursFrom closer text (span.start + opener.size)

/-- The spans that a search for stretches finds from the position on. -/
structure Scanned (category : Category) (opener closer text : Text) (position : Nat)
    (spans : List Span) : Prop where
  category_eq : ∀ span ∈ spans, span.category = category
  start : ∀ span ∈ spans.head?, FirstFrom opener text position span.start
  next : spans.IsChain fun left right => FirstFrom opener text left.stop right.start
  /-- A span stops just past the first closer that starts past its opener. -/
  closed : ∀ span ∈ spans, ∀ offset, FirstFrom closer text (span.start + opener.size) offset →
    span.stop = offset + closer.size
  /-- A span without a closer stops with the text. -/
  unclosed : ∀ span ∈ spans, ¬span.HasCloser opener closer text → span.stop = text.size
  /-- No span follows one without a closer. -/
  last : spans.IsChain fun left _ => left.HasCloser opener closer text
  /-- Past a last span that has its closer there is no opener. -/
  complete : (∀ span ∈ spans.getLast?, span.HasCloser opener closer text) →
    ¬OccursFrom opener text (reached position spans)

variable {category : Category} {opener closer text : Text} {position : Nat} {span : Span}
  {spans rest : List Span}

theorem reached_cons (position : Nat) (span : Span) (rest : List Span) :
    reached position (span :: rest) = reached span.stop rest := by
  unfold reached
  cases rest <;> rfl

/-! ### The first span and the others -/

theorem scanned_nil_iff :
    Scanned category opener closer text position [] ↔ ¬OccursFrom opener text position := by
  constructor
  · intro h
    exact h.complete (by simp)
  · intro h
    exact ⟨by simp, by simp, .nil, by simp, by simp, .nil, fun _ => h⟩

/-- A span with its closer, before what is scanned from where it stops. -/
theorem Scanned.cons {offset : Nat} (hcategory : span.category = category)
    (hstart : FirstFrom opener text position span.start)
    (hcloser : FirstFrom closer text (span.start + opener.size) offset)
    (hstop : span.stop = offset + closer.size)
    (h : Scanned category opener closer text span.stop rest) :
    Scanned category opener closer text position (span :: rest) where
  category_eq := List.forall_mem_cons.mpr ⟨hcategory, h.category_eq⟩
  start := by simpa using hstart
  next := List.isChain_cons.mpr ⟨h.start, h.next⟩
  closed := by
    refine List.forall_mem_cons.mpr ⟨?_, h.closed⟩
    intro other hother
    rw [hstop, hcloser.unique hother]
  unclosed := List.forall_mem_cons.mpr ⟨fun hnone => absurd hcloser.occursFrom hnone, h.unclosed⟩
  last := List.isChain_cons.mpr ⟨fun _ _ => hcloser.occursFrom, h.last⟩
  complete := by
    intro hlast
    rw [reached_cons]
    apply h.complete
    intro other hother
    apply hlast
    rw [List.getLast?_cons, Option.mem_def.mp hother]
    rfl

/-- A span that stops with the text, for want of a closer. -/
theorem scanned_singleton (hcategory : span.category = category)
    (hstart : FirstFrom opener text position span.start)
    (hcloser : ¬span.HasCloser opener closer text) (hstop : span.stop = text.size) :
    Scanned category opener closer text position [span] where
  category_eq := by simpa using hcategory
  start := by simpa using hstart
  next := .singleton span
  closed := by
    intro other hother offset hfirst
    obtain rfl := List.mem_singleton.mp hother
    exact absurd hfirst.occursFrom hcloser
  unclosed := by simpa using fun _ => hstop
  last := .singleton span
  complete := fun hlast => absurd (hlast span rfl) hcloser

theorem Scanned.tail (h : Scanned category opener closer text position (span :: rest))
    (hcloser : span.HasCloser opener closer text) :
    Scanned category opener closer text span.stop rest where
  category_eq := (List.forall_mem_cons.mp h.category_eq).2
  start := (List.isChain_cons.mp h.next).1
  next := (List.isChain_cons.mp h.next).2
  closed := (List.forall_mem_cons.mp h.closed).2
  unclosed := (List.forall_mem_cons.mp h.unclosed).2
  last := (List.isChain_cons.mp h.last).2
  complete := by
    intro hlast
    rw [← reached_cons position]
    apply h.complete
    cases rest with
    | nil => simpa using hcloser
    | cons next others => rwa [List.getLast?_cons_cons]

theorem Scanned.eq_nil (h : Scanned category opener closer text position (span :: rest))
    (hcloser : ¬span.HasCloser opener closer text) : rest = [] := by
  cases rest with
  | nil => rfl
  | cons next others => exact absurd ((List.isChain_cons.mp h.last).1 next rfl) hcloser

/-! ### The one sequence -/

theorem Scanned.stop_eq {other : Span} {others : List Span}
    (h : Scanned category opener closer text position (span :: rest))
    (h' : Scanned category opener closer text position (other :: others))
    (hstart : span.start = other.start) : span.stop = other.stop := by
  by_cases hcloser : span.HasCloser opener closer text
  · obtain ⟨offset, hfirst⟩ := hcloser.exists_firstFrom
    rw [h.closed span List.mem_cons_self offset hfirst,
      h'.closed other List.mem_cons_self offset (hstart ▸ hfirst)]
  · have hcloser' : ¬other.HasCloser opener closer text := by
      rwa [HasCloser, ← hstart]
    rw [h.unclosed span List.mem_cons_self hcloser, h'.unclosed other List.mem_cons_self hcloser']

/-- **There is one such sequence.** -/
theorem Scanned.unique {spans' : List Span} (h : Scanned category opener closer text position spans)
    (h' : Scanned category opener closer text position spans') : spans = spans' := by
  induction spans generalizing position spans' with
  | nil =>
      cases spans' with
      | nil => rfl
      | cons other others =>
          exact absurd (h'.start other rfl).occursFrom (scanned_nil_iff.mp h)
  | cons span rest ih =>
      cases spans' with
      | nil => exact absurd (h.start span rfl).occursFrom (scanned_nil_iff.mp h')
      | cons other others =>
          have hstart : span.start = other.start := (h.start span rfl).unique (h'.start other rfl)
          have hcategory : span.category = other.category := by
            rw [h.category_eq span List.mem_cons_self, h'.category_eq other List.mem_cons_self]
          have hstop : span.stop = other.stop := h.stop_eq h' hstart
          obtain rfl : span = other := by
            cases span
            cases other
            simp_all only
          by_cases hcloser : span.HasCloser opener closer text
          · rw [ih (h.tail hcloser) (h'.tail hcloser)]
          · rw [h.eq_nil hcloser, h'.eq_nil hcloser]

theorem scanned_delimited (hopener : opener ≠ []) (hcloser : closer ≠ []) (done rest : Text) :
    Scanned category opener closer (done ++ rest) done.size
      (delimited category opener closer done.size rest) := by
  generalize hoffset : done.size = offset
  fun_induction delimited category opener closer offset rest generalizing done with
  | case1 offset rest hcut =>
      subst hoffset
      exact scanned_nil_iff.mpr ((not_occursFrom_append_iff hopener done rest).mpr hcut)
  | case2 offset rest before body hcut start hclose =>
      subst hoffset
      have hdone : done ++ rest = (done ++ before ++ opener) ++ body := by
        rw [eq_append_of_cut? hcut]
        simp
      have hnone := (not_occursFrom_append_iff hcloser (done ++ before ++ opener) body).mpr hclose
      rw [← hdone, size_append, size_append] at hnone
      exact scanned_singleton rfl (firstFrom_of_cut? hcut) hnone (size_append ..).symm
  | case3 offset rest before body hcut start inside later hclose stop ih =>
      subst hoffset
      have hdone : done ++ rest = (done ++ before ++ opener) ++ body := by
        rw [eq_append_of_cut? hcut]
        simp
      have hlater : done ++ rest = (done ++ before ++ opener ++ inside ++ closer) ++ later := by
        rw [hdone, eq_append_of_cut? hclose]
        simp
      have hfirst : FirstFrom closer (done ++ before ++ opener ++ body)
          (done ++ before ++ opener).size ((done ++ before ++ opener).size + inside.size) :=
        firstFrom_of_cut? hclose
      rw [← hdone, size_append, size_append] at hfirst
      have hrest : Scanned category opener closer (done ++ rest) stop
          (delimited category opener closer stop later) := by
        rw [hlater]
        apply ih
        simp only [size_append, stop, start]
      exact .cons rfl (firstFrom_of_cut? hcut) hfirst rfl hrest

/-- **What a search for stretches finds** is the one sequence of spans of which each starts with the
first opener past the one before it, stops just past the first closer after that opener, or with the
text if there is none, and which ends where no opener is left. The loop over byte offsets finds the
same. -/
theorem delimited_eq_iff_scanned (hopener : opener ≠ []) (hcloser : closer ≠ []) :
    (delimited category opener closer 0 text = spans ↔
      Scanned category opener closer text 0 spans) ∧
    (Cursor.Turns.loop (Cursor.stretchTurn category opener closer text) 0 = some spans ↔
      Scanned category opener closer text 0 spans) := by
  have hscanned : delimited category opener closer 0 text = spans ↔
      Scanned category opener closer text 0 spans := by
    have h : Scanned category opener closer text 0 (delimited category opener closer 0 text) :=
      scanned_delimited hopener hcloser [] text
    constructor
    · rintro rfl
      exact h
    · exact h.unique
  rw [Cursor.loop_stretchTurn_zero hopener hcloser, Option.some.injEq]
  exact ⟨hscanned, hscanned⟩

/-- A closer that shares a character with its opener does not count, and the last opener has none. -/
theorem delimited_of_overlapping_marks :
    let opener := "/*".toList
    let closer := "*/".toList
    let text := "é/*/ x */ /*".toList
    opener ≠ [] ∧ closer ≠ [] ∧
      delimited .comment opener closer 0 text = [⟨2, 10, .comment⟩, ⟨11, 13, .comment⟩] ∧
      Scanned .comment opener closer text 0 [⟨2, 10, .comment⟩, ⟨11, 13, .comment⟩] := by
  intro opener closer text
  have hopener : opener ≠ [] := by decide
  have hcloser : closer ≠ [] := by decide
  have hfound : delimited .comment opener closer 0 text
      = [⟨2, 10, .comment⟩, ⟨11, 13, .comment⟩] := by
    decide +kernel
  exact ⟨hopener, hcloser, hfound, (delimited_eq_iff_scanned hopener hcloser).1.mp hfound⟩

end Highlighter.Span
