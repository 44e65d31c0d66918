import Highlighter.Proofs.Highlight.Restart
import Highlighter.Proofs.Span.Cut
import Highlighter.Proofs.Span.Stretch

/-!
# The block comments of a text

Each marker for blocks finds its own stretches of a text, and the stretches of all markers are cut
so that every byte stays with the stretch that starts first, the longer one if two start together
(`scan_eq_iff`). What is found is told by leftmost occurrences alone, so neither the search nor the
sweep is taken on trust.
-/

namespace Highlighter.Block

/-- One of the markers for blocks finds the span when it is searched on its own. -/
def Found (rules : RuleSet) (text : Text) (span : Span) : Prop :=
  ∃ opener closer, (opener, closer) ∈ rules.blockMarkers ∧
    Span.Stretch .comment opener closer 0 text span

/-- The span starts earlier, or with the other one and ends no earlier. -/
def Sooner (left right : Span) : Prop :=
  left.start < right.start ∨ left.start = right.start ∧ right.stop ≤ left.stop

/-- The block comments of a text: what the finds of its markers leave to each other. -/
structure Comments (rules : RuleSet) (text : Text) (blocks : List Span) : Prop
    extends Span.Cut Sooner (Found rules text) blocks where
  comment : ∀ block ∈ blocks, block.category = .comment
  stop_le : ∀ block ∈ blocks, block.stop ≤ text.size

variable {rules : RuleSet} {text : Text}

theorem mem_finds_iff {span : Span} : span ∈ finds rules text ↔ Found rules text span := by
  rw [finds, List.mem_flatMap, Prod.exists]
  apply exists_congr
  intro opener
  apply exists_congr
  intro closer
  apply and_congr_right
  intro hmarker
  obtain ⟨-, hcloser, -⟩ := RuleSet.no_blank_of_mem_blockMarkers hmarker
  exact Span.mem_delimited_iff hcloser

theorem precedes_eq_true_iff {left right : Span} :
    precedes left right = true ↔ Sooner left right := by
  unfold precedes Sooner
  split
  · next hstart =>
    rw [decide_eq_true_eq]
    simp [hstart]
  · next hstart =>
    rw [ne_eq, Decidable.not_not] at hstart
    rw [decide_eq_true_eq]
    simp [hstart]

theorem cut_scan (rules : RuleSet) (text : Text) :
    Span.Cut Sooner (Found rules text) (scan rules text) := by
  have hsooner : (fun left right => precedes left right = true) = Sooner := by
    funext left right
    exact propext precedes_eq_true_iff
  have hfound : (· ∈ finds rules text) = Found rules text := by
    funext span
    exact propext mem_finds_iff
  rw [← hsooner, ← hfound]
  exact Span.cut_sweep_mergeSort precedes_trans precedes_total start_le_of_precedes _

theorem comments_scan (rules : RuleSet) (text : Text) : Comments rules text (scan rules text) := by
  have hcut := cut_scan rules text
  refine ⟨hcut, ?_, ?_⟩
  all_goals
    intro block hblock
    obtain ⟨span, hspan, hremnant⟩ := hcut.origin block hblock
    have hfind := mem_finds_iff.mpr hspan
  · rw [hremnant.category]
    exact category_of_mem_finds span hfind
  · rw [hremnant.stop]
    exact (bounds_of_mem_finds span hfind).2

/-- **The block comments of a text** are in order and disjoint, stay within the text, cover what the
markers find, each on its own, and stop where the finds stop: of finds that overlap, the one that
starts first keeps what they share. No other list of spans answers to this. -/
theorem scan_eq_iff (rules : RuleSet) (text : Text) (blocks : List Span) :
    scan rules text = blocks ↔ Comments rules text blocks := by
  constructor
  · rintro rfl
    exact comments_scan rules text
  · intro h
    apply (cut_scan rules text).eq h.toCut
    intro left right hleft hright hsooner hsooner'
    have hcategory : left.category = right.category := by
      rw [category_of_mem_finds left (mem_finds_iff.mpr hleft),
        category_of_mem_finds right (mem_finds_iff.mpr hright)]
    exact precedes_antisymm hcategory (precedes_eq_true_iff.mpr hsooner)
      (precedes_eq_true_iff.mpr hsooner')

end Highlighter.Block
