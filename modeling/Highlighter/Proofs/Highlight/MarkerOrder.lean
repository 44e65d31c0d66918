import Highlighter.Proofs.Highlight.Cells
import Highlighter.Proofs.Highlight.Restart
import Highlighter.Proofs.Span.Absorbed

/-!
# The order of markers and quote marks

Each marker and each quote mark is searched on its own, so what is found, taken as a set, depends on
which of them there are and not on how they are listed. Sorting orders any two different spans, and
a repeated span is swept away by its first copy; so the set is all that can be told from the result
(`Block.scan_eq_of_sameMarks`, `LineRules.mem_candidates_iff_of_sameMarks`).
-/

namespace Highlighter

namespace RuleSet

/-- Rule sets with the same words of which the comment entries are the same, and the quote marks,
but for their order and repetitions. -/
structure SameMarks (rules rules' : RuleSet) : Prop where
  keywords : rules.keywords = rules'.keywords
  types : rules.types = rules'.types
  modifiers : rules.modifiers = rules'.modifiers
  comments : ∀ entry, entry ∈ rules.comments ↔ entry ∈ rules'.comments
  strings : ∀ entry, entry ∈ rules.strings ↔ entry ∈ rules'.strings

theorem mem_markers_iff {rules : RuleSet} {marker : Marker} :
    marker ∈ rules.markers ↔ (∃ entry ∈ rules.comments, Marker.ofEntry entry = marker) ∧
      ∀ opener ∈ marker.line?, ∀ entry ∈ rules.comments,
        (Marker.ofEntry entry).closer? ≠ some opener := by
  simp [markers, Option.all_eq_true]

variable {rules rules' : RuleSet} (h : SameMarks rules rules')

include h

theorem SameMarks.mem_markers_iff {marker : Marker} :
    marker ∈ rules.markers ↔ marker ∈ rules'.markers := by
  simp only [RuleSet.mem_markers_iff, h.comments]

theorem SameMarks.mem_lineMarkers_iff {opener : Text} :
    opener ∈ rules.lineMarkers ↔ opener ∈ rules'.lineMarkers := by
  simp only [lineMarkers, List.mem_filterMap, h.mem_markers_iff]

theorem SameMarks.mem_blockMarkers_iff {marker : Text × Text} :
    marker ∈ rules.blockMarkers ↔ marker ∈ rules'.blockMarkers := by
  simp only [blockMarkers, List.mem_filterMap, h.mem_markers_iff]

theorem SameMarks.vocabularies_eq : rules.vocabularies = rules'.vocabularies := by
  rw [vocabularies, vocabularies, h.keywords, h.types, h.modifiers]

end RuleSet

namespace Block

/-- Of comments alone, sorted with either order, the same is left. -/
theorem scan_eq_resolve (rules : RuleSet) (text : Text) :
    scan rules text = Span.resolve (finds rules text) := by
  have hcategory : ∀ span ∈ finds rules text, span.category = .comment := category_of_mem_finds
  have hprecedes := List.pairwise_mergeSort precedes_trans precedes_total (finds rules text)
  -- the two orders differ on spans of different categories only
  have houtranks : ((finds rules text).mergeSort precedes).Pairwise
      fun left right => left.outranks right = true := by
    apply hprecedes.imp_of_mem
    intro left right hleft hright hle
    have hsame : left.category = right.category := by
      rw [hcategory left (List.mem_mergeSort.mp hleft),
        hcategory right (List.mem_mergeSort.mp hright)]
    simpa [Span.outranks, precedes, hsame] using hle
  have hsorted : (finds rules text).mergeSort precedes
      = (finds rules text).mergeSort Span.outranks := by
    apply List.Perm.eq_of_pairwise _ houtranks
      (List.pairwise_mergeSort Span.outranks_trans Span.outranks_total _)
      ((List.mergeSort_perm _ _).trans (List.mergeSort_perm _ _).symm)
    intro left right _ _ hle hle'
    exact Span.outranks_antisymm hle hle'
  rw [scan, hsorted, Span.resolve]

end Block

variable {rules rules' : RuleSet}

theorem Block.scan_eq_of_sameMarks (h : rules.SameMarks rules') (text : Text) :
    Block.scan rules text = Block.scan rules' text := by
  rw [Block.scan_eq_resolve, Block.scan_eq_resolve]
  apply Span.resolve_eq_of_mem_iff
  intro span
  simp only [Block.finds, List.mem_flatMap, h.mem_blockMarkers_iff]

namespace LineRules

/-- The least start does not depend on how the starts are listed. -/
theorem comment?_eq_of_sameMarks (h : rules.SameMarks rules') (line : Text) :
    (ofRuleSet rules).comment? line = (ofRuleSet rules').comment? line := by
  have hstarts (start : Nat) : start ∈ rules.lineMarkers.filterMap (Text.find? · line)
      ↔ start ∈ rules'.lineMarkers.filterMap (Text.find? · line) := by
    simp only [List.mem_filterMap, h.mem_lineMarkers_iff]
  have hmin : (rules.lineMarkers.filterMap (Text.find? · line)).min?
      = (rules'.lineMarkers.filterMap (Text.find? · line)).min? := by
    ext start
    simp only [List.min?_eq_some_iff, hstarts]
  rw [comment?, comment?, ofRuleSet, ofRuleSet, hmin]

theorem mem_candidates_iff_of_sameMarks (h : rules.SameMarks rules') {line : Text} {inBlock : Bool}
    {span : Span} : span ∈ (ofRuleSet rules).candidates line inBlock
      ↔ span ∈ (ofRuleSet rules').candidates line inBlock := by
  cases inBlock with
  | true => rfl
  | false =>
      have hwords : (ofRuleSet rules).words line = (ofRuleSet rules').words line := by
        rw [words, words, ofRuleSet, ofRuleSet, h.vocabularies_eq]
      have hstrings : span ∈ (ofRuleSet rules).quotes.flatMap (strings · line)
          ↔ span ∈ (ofRuleSet rules').quotes.flatMap (strings · line) := by
        simp only [ofRuleSet, List.mem_flatMap, h.strings]
      simp only [candidates, Bool.false_eq_true, if_false, List.mem_append,
        comment?_eq_of_sameMarks h, hwords, hstrings]

end LineRules

/-- **Only the sets of markers and quote marks matter**, for the block comments of a text and for
its segments. -/
theorem highlight_eq_of_sameMarks (h : rules.SameMarks rules') (text : Text) (mode : Mode) :
    Block.scan rules text = Block.scan rules' text ∧
      highlight text rules mode = highlight text rules' mode := by
  have hscan := Block.scan_eq_of_sameMarks h text
  refine ⟨hscan, ?_⟩
  rw [highlight_eq_ofCells, highlight_eq_ofCells, hscan]
  congr 1
  apply cells_congr_resolve
  intro line inBlock
  apply Span.resolve_eq_of_mem_iff
  intro span
  exact LineRules.mem_candidates_iff_of_sameMarks h

/-- A closer that is also listed on its own, and is no marker then, in either order. -/
theorem highlight_of_listed_closer :
    RuleSet.SameMarks
        ⟨[], [], [], ["*/".toList, "/*".toList, "#".toList], ["'".toList, "\"".toList]⟩
        ⟨[], [], [], ["#".toList, "/*".toList, "#".toList, "*/".toList, "/*".toList],
          ["\"".toList, "'".toList, "\"".toList]⟩ ∧
      Block.scan ⟨[], [], [], ["*/".toList, "/*".toList, "#".toList], ["'".toList, "\"".toList]⟩
          "/*a*/ '\"' */ #".toList
        = Block.scan ⟨[], [], [], ["#".toList, "/*".toList, "#".toList, "*/".toList, "/*".toList],
            ["\"".toList, "'".toList, "\"".toList]⟩ "/*a*/ '\"' */ #".toList ∧
      highlight "/*a*/ '\"' */ #".toList
          ⟨[], [], [], ["*/".toList, "/*".toList, "#".toList], ["'".toList, "\"".toList]⟩ .light
        = highlight "/*a*/ '\"' */ #".toList
            ⟨[], [], [], ["#".toList, "/*".toList, "#".toList, "*/".toList, "/*".toList],
              ["\"".toList, "'".toList, "\"".toList]⟩ .light :=
  have hsame : RuleSet.SameMarks
      ⟨[], [], [], ["*/".toList, "/*".toList, "#".toList], ["'".toList, "\"".toList]⟩
      ⟨[], [], [], ["#".toList, "/*".toList, "#".toList, "*/".toList, "/*".toList],
        ["\"".toList, "'".toList, "\"".toList]⟩ :=
    ⟨rfl, rfl, rfl, fun entry => by simp; tauto, fun entry => by simp; tauto⟩
  ⟨hsame, highlight_eq_of_sameMarks hsame _ .light⟩

end Highlighter
