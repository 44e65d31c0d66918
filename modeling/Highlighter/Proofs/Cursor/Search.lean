import Highlighter.Highlight
import Highlighter.Proofs.Cursor.Delimited
import Highlighter.Proofs.Cursor.Words
import Highlighter.Proofs.RuleSet.Built

/-!
# Searches by byte offsets

The search for block comments and the one for the candidates on a line, made of the loops over byte
offsets: one for each marker of blocks, one for each quote mark and one for each vocabulary. All
that they need to come to an end is that no entry is empty (`scan?_eq`, `candidates?_eq`).
-/

namespace Highlighter.Cursor

open Text

/-- The block comments of a text, found by loops over its offsets. -/
def scan? (rules : RuleSet) (text : Text) : Option (List Span) := do
  let finds ← rules.blockMarkers.mapM fun (opener, closer) =>
    Turns.loop (stretchTurn .comment opener closer text) 0
  return Span.sweep 0 (finds.flatten.mergeSort Block.precedes)

def comment? (rules : LineRules) (line : Text) : Option Span :=
  (rules.markers.filterMap (indexOf? · line)).min?.map fun start => ⟨start, line.size, .comment⟩

/-- The candidates on a line, found by loops over its offsets. -/
def candidates? (rules : LineRules) (line : Text) (inBlock : Bool) : Option (List Span) :=
  if inBlock then some (if line = [] then [] else [⟨0, line.size, .comment⟩])
  else do
    let strings ← rules.quotes.mapM fun quote => Turns.loop (stretchTurn .string quote quote line) 0
    let words ← rules.vocabularies.mapM fun vocabulary => Turns.loop (wordTurn vocabulary line) 0
    return (comment? rules line).toList ++ strings.flatten ++ words.flatten

variable {rules : RuleSet}

theorem mapM_eq_some_map {α β : Type} {search : α → Option β} {found : α → β} {items : List α}
    (h : ∀ item ∈ items, search item = some (found item)) :
    items.mapM search = some (items.map found) := by
  induction items with
  | nil => rfl
  | cons item others ih =>
      obtain ⟨hitem, hothers⟩ := List.forall_mem_cons.mp h
      rw [List.mapM_cons, hitem, ih hothers]
      rfl

theorem loop_wordTurn_zero {vocabulary : Vocabulary}
    (h : ∀ entry ∈ vocabulary.entries, entry ≠ []) (line : Text) :
    Turns.loop (wordTurn vocabulary line) 0 = some (vocabulary.find line) :=
  loop_wordTurn h [] line

/-- **The loops find the block comments**, whatever entries there are: no marker of blocks is
empty. -/
theorem scan?_eq (rules : RuleSet) (text : Text) :
    scan? rules text = some (Block.scan rules text) := by
  have hfinds : (rules.blockMarkers.mapM fun (opener, closer) =>
        Turns.loop (stretchTurn .comment opener closer text) 0)
      = some (rules.blockMarkers.map fun (opener, closer) =>
          Span.delimited .comment opener closer 0 text) := by
    apply mapM_eq_some_map
    rintro ⟨opener, closer⟩ hmarker
    obtain ⟨⟨hopener, -⟩, hcloser, -⟩ := RuleSet.no_blank_of_mem_blockMarkers hmarker
    exact loop_stretchTurn_zero hopener hcloser text
  rw [scan?, hfinds]
  rfl

theorem comment?_eq (h : rules.HasNoEmptyEntry) (line : Text) :
    comment? (LineRules.ofRuleSet rules) line = (LineRules.ofRuleSet rules).comment? line := by
  have hstarts : rules.lineMarkers.filterMap (indexOf? · line)
      = rules.lineMarkers.filterMap (find? · line) := by
    apply List.filterMap_congr
    intro marker hmarker
    exact indexOf?_eq_find? (RuleSet.ne_nil_of_mem_lineMarkers h marker hmarker) line
  rw [comment?, LineRules.comment?, LineRules.ofRuleSet, hstarts]

/-- **The loops find the candidates** on every line. -/
theorem candidates?_eq (h : rules.HasNoEmptyEntry) (line : Text) (inBlock : Bool) :
    candidates? (LineRules.ofRuleSet rules) line inBlock
      = some ((LineRules.ofRuleSet rules).candidates line inBlock) := by
  cases inBlock with
  | true => rfl
  | false =>
      have hstrings : ((LineRules.ofRuleSet rules).quotes.mapM fun quote =>
            Turns.loop (stretchTurn .string quote quote line) 0)
          = some ((LineRules.ofRuleSet rules).quotes.map (LineRules.strings · line)) := by
        apply mapM_eq_some_map
        intro quote hquote
        have hne := RuleSet.ne_nil_of_mem_strings h quote hquote
        exact loop_stretchTurn_zero hne hne line
      have hwords : ((LineRules.ofRuleSet rules).vocabularies.mapM fun vocabulary =>
            Turns.loop (wordTurn vocabulary line) 0)
          = some ((LineRules.ofRuleSet rules).vocabularies.map (·.find line)) := by
        apply mapM_eq_some_map
        intro vocabulary hvocabulary
        exact loop_wordTurn_zero (RuleSet.ne_nil_of_mem_vocabularies h hvocabulary) line
      rw [candidates?, if_neg Bool.false_ne_true, hstrings, hwords, comment?_eq h]
      rfl

end Highlighter.Cursor
