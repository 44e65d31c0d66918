import Highlighter.Proofs.Cursor.Highlight

/-!
# Searches end

That no entry is empty is kept by everything that makes a rule set, and it is all that the loops
over offsets rely on: each turn moves on, so each loop ends, and what is made of the loops has a
result.
-/

namespace Highlighter.Cursor

open Text

/-- What a rule set must keep for its searches to end, and that they do end, in every text. -/
structure Terminates (rules : RuleSet) : Prop where
  hasNoEmptyEntry : rules.HasNoEmptyEntry
  no_blank : ∀ opener closer, (opener, closer) ∈ rules.blockMarkers →
    (opener ≠ [] ∧ ∀ char ∈ opener, isBlank char = false) ∧
      (closer ≠ [] ∧ ∀ char ∈ closer, isBlank char = false)
  comments_end : ∀ opener closer, (opener, closer) ∈ rules.blockMarkers →
    ∀ text, Ends (stretchTurn .comment opener closer text) text.size
  strings_end : ∀ quote ∈ rules.strings, ∀ line,
    Ends (stretchTurn .string quote quote line) line.size
  words_end : ∀ vocabulary ∈ (LineRules.ofRuleSet rules).vocabularies, ∀ line,
    Ends (wordTurn vocabulary line) line.size
  scan_returns : ∀ text, ∃ blocks, scan? rules text = some blocks
  candidates_return : ∀ line inBlock, ∃ candidates,
    candidates? (LineRules.ofRuleSet rules) line inBlock = some candidates
  highlight_returns : ∀ text mode, ∃ segments, highlight? text rules mode = some segments

/-- **Searches end** with all rules that can be made. -/
theorem terminates_of_built {rules : RuleSet} (h : rules.Built) : Terminates rules where
  hasNoEmptyEntry := h.hasNoEmptyEntry
  no_blank := by
    intro opener closer hmarker
    exact RuleSet.no_blank_of_mem_blockMarkers hmarker
  comments_end := by
    intro opener closer hmarker text
    obtain ⟨⟨hopener, -⟩, hcloser, -⟩ := RuleSet.no_blank_of_mem_blockMarkers hmarker
    exact ends_stretchTurn hopener hcloser text
  strings_end := by
    intro quote hquote line
    have hne := RuleSet.ne_nil_of_mem_strings h.hasNoEmptyEntry quote hquote
    exact ends_stretchTurn hne hne line
  words_end := by
    intro vocabulary _ line
    exact ends_wordTurn vocabulary line
  scan_returns := by
    intro text
    exact ⟨_, scan?_eq rules text⟩
  candidates_return := by
    intro line inBlock
    exact ⟨_, candidates?_eq h.hasNoEmptyEntry line inBlock⟩
  highlight_returns := by
    intro text mode
    exact ⟨_, highlight?_eq h.hasNoEmptyEntry text mode⟩

/-- Rules from entries that are empty, blank, of three parts, or an opener alone. -/
theorem terminates_of_odd_entries :
    ((RuleSet.empty.withStrings ["".toList, "'".toList]).withComments
        ["".toList, "  ".toList, "a b c".toList, "/*".toList]).Built ∧
      Terminates ((RuleSet.empty.withStrings ["".toList, "'".toList]).withComments
        ["".toList, "  ".toList, "a b c".toList, "/*".toList]) :=
  have hbuilt := (RuleSet.Built.empty.withStrings _).withComments _
  ⟨hbuilt, terminates_of_built hbuilt⟩

end Highlighter.Cursor
