import Highlighter.Proofs.Span.Cut

/-!
# What resolving does to candidates

Candidates are cut by one order, by start, rank and length, and that is all there is to resolving
(`resolve_eq_iff_cut`). So neither how candidates are listed nor candidates that hold no byte of
their own can be told from the result, and a result is resolved already (`resolve_laws`).
-/

namespace Highlighter.Span

/-- The order in which candidates are served: by start, of two with one start the category of the
higher rank first, and of two with one category the longer first. -/
def Leads (left right : Span) : Prop :=
  left.start < right.start ∨ left.start = right.start ∧
    (left.category.priority < right.category.priority ∨
      left.category.priority = right.category.priority ∧ right.stop ≤ left.stop)

variable {candidates pieces spans : List Span} {span : Span} {cursor : Nat}

theorem outranks_eq_true_iff {left right : Span} :
    left.outranks right = true ↔ left.Leads right := by
  unfold outranks Leads
  split
  · next hstart =>
    rw [decide_eq_true_eq]
    simp [hstart]
  · next hstart =>
    rw [ne_eq, Decidable.not_not] at hstart
    split
    · next hpriority =>
      rw [decide_eq_true_eq]
      simp [hstart, hpriority]
    · next hpriority =>
      rw [ne_eq, Decidable.not_not] at hpriority
      rw [decide_eq_true_eq]
      simp [hstart, hpriority]

theorem cut_resolve (candidates : List Span) :
    Cut Leads (· ∈ candidates) (resolve candidates) := by
  have hleads : (fun left right => outranks left right = true) = Leads := by
    funext left right
    exact propext outranks_eq_true_iff
  rw [← hleads]
  exact cut_sweep_mergeSort outranks_trans outranks_total start_le_of_outranks candidates

/-- **Resolving is cutting** by the order in which candidates are served. What is left of candidates
is in order and disjoint, covers what they cover, and each of its bytes has the category and the end
of the first candidate that holds the byte; no other spans answer to this. -/
theorem resolve_eq_iff_cut : resolve candidates = pieces ↔ Cut Leads (· ∈ candidates) pieces := by
  constructor
  · rintro rfl
    exact cut_resolve candidates
  · intro h
    apply (cut_resolve candidates).eq h
    intro left right _ _ hleads hleads'
    exact outranks_antisymm (outranks_eq_true_iff.mpr hleads) (outranks_eq_true_iff.mpr hleads')

/-! ### What cannot be told from the result -/

/-- Spans in order and disjoint are swept as they are. -/
theorem Ordered.sweep_eq (h : Ordered cursor spans) : sweep cursor spans = spans := by
  induction spans generalizing cursor with
  | nil => rfl
  | cons span rest ih =>
      obtain ⟨hcursor, hspan, hrest⟩ := h
      have hclipped : { span with start := max span.start cursor } = span := by
        rw [Nat.max_eq_left hcursor]
      rw [sweep, hclipped, (isEmpty_eq_false_iff span).mpr hspan, ih hrest]
      rfl

theorem Ordered.resolve_eq (h : Ordered 0 spans) : resolve spans = spans := by
  have hsorted : spans.Pairwise fun left right => left.outranks right = true := by
    apply h.pairwise.imp_of_mem
    intro left right hleft _ hle
    have hlt : left.start < right.start := Nat.lt_of_lt_of_le (h.start_lt_stop left hleft) hle
    exact outranks_eq_true_iff.mpr (.inl hlt)
  rw [resolve, List.mergeSort_of_pairwise hsorted, h.sweep_eq]

/-- A span that gives some candidates nothing to add: it holds no byte, or one of them has its
category and start and reaches as far. -/
def Redundant (candidates : List Span) (span : Span) : Prop :=
  span.stop ≤ span.start ∨ span ∈ candidates ∨
    ∃ member ∈ candidates, span.category = member.category ∧ span.start = member.start ∧
      span.stop < member.stop

theorem Redundant.exists_absorbs (h : Redundant candidates span) (hspan : span.start < span.stop) :
    ∃ member ∈ candidates, member.Absorbs span := by
  obtain hempty | hmem | ⟨member, hmember, hcategory, hstart, hstop⟩ := h
  · omega
  · exact ⟨span, hmem, Absorbs.refl span⟩
  · exact ⟨member, hmember, hstart.symm, hcategory.symm, Nat.le_of_lt hstop⟩

theorem Redundant.resolve_cons (h : Redundant candidates span) :
    resolve (span :: candidates) = resolve candidates := by
  symm
  apply resolve_eq_of_absorbs
  · intro other hother
    exact List.mem_cons_of_mem _ hother
  · intro other hother hlt
    obtain rfl | hother := List.mem_cons.mp hother
    · exact h.exists_absorbs hlt
    · exact ⟨other, hother, Absorbs.refl other⟩

/-- **The result of resolving** does not depend on the order of the candidates, is left alone when it
is resolved again, and is the same with a redundant span put among the candidates anywhere. -/
theorem resolve_laws (candidates : List Span) :
    (∀ others : List Span, others.Perm candidates → resolve others = resolve candidates) ∧
      resolve (resolve candidates) = resolve candidates ∧
      ∀ before after span, before ++ after = candidates → Redundant candidates span →
        resolve (before ++ span :: after) = resolve candidates := by
  have hperm {spans others : List Span} (h : others.Perm spans) : resolve others = resolve spans :=
    resolve_eq_of_mem_iff fun _ => h.mem_iff
  refine ⟨fun _ => hperm, (ordered_resolve candidates).resolve_eq, ?_⟩
  rintro before after span rfl hredundant
  calc resolve (before ++ span :: after)
      = resolve (span :: (before ++ after)) := hperm List.perm_middle
    _ = resolve (before ++ after) := hredundant.resolve_cons

/-- Two spans that cross, the other way round, and a shorter copy of the second one between them. -/
theorem resolve_crossing :
    let string : Span := ⟨0, 6, .string⟩
    let comment : Span := ⟨3, 12, .comment⟩
    let shorter : Span := ⟨3, 8, .comment⟩
    [comment, string].Perm [string, comment] ∧ Redundant [string, comment] shorter ∧
      resolve [comment, string] = resolve [string, comment] ∧
      resolve [string, shorter, comment] = resolve [string, comment] := by
  intro string comment shorter
  have hperm : [comment, string].Perm [string, comment] := .swap ..
  have hredundant : Redundant [string, comment] shorter :=
    .inr (.inr ⟨comment, by simp, rfl, rfl, by decide⟩)
  have hlaws := resolve_laws [string, comment]
  exact ⟨hperm, hredundant, hlaws.1 _ hperm, hlaws.2.2 [string] [comment] shorter rfl hredundant⟩

end Highlighter.Span
