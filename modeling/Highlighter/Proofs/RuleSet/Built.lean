import Highlighter.Highlight
import Highlighter.Language
import Highlighter.Proofs.Vocabulary.WholeWord
import Highlighter.RuleSet
import Highlighter.RuleSet.RuleFile

/-!
# Rule sets that can be made

A rule set starts empty and has its lists filled one at a time, or it is read from a rule file.
Every such way drops empty entries, and nothing else makes a rule set (`Built`). So no quote mark,
no marker and no word that a search is told to look for is empty.
-/

namespace Highlighter.RuleSet

inductive Built : RuleSet → Prop where
  | empty : Built empty
  | withKeywords {rules : RuleSet} (h : Built rules) (entries : List Text) :
      Built (rules.withKeywords entries)
  | withTypes {rules : RuleSet} (h : Built rules) (entries : List Text) :
      Built (rules.withTypes entries)
  | withModifiers {rules : RuleSet} (h : Built rules) (entries : List Text) :
      Built (rules.withModifiers entries)
  | withComments {rules : RuleSet} (h : Built rules) (entries : List Text) :
      Built (rules.withComments entries)
  | withStrings {rules : RuleSet} (h : Built rules) (entries : List Text) :
      Built (rules.withStrings entries)
  | ofToml {text : Text} {rules : RuleSet} {warnings : List Warning}
      (h : ofToml text = .ok (rules, warnings)) : Built rules
  | load {files : Files Id} {path : Path} {rules : RuleSet} {warnings : List Warning}
      (h : load files path = .ok (rules, warnings)) : Built rules

def lists (rules : RuleSet) : List (List Text) :=
  [rules.keywords, rules.types, rules.modifiers, rules.comments, rules.strings]

def HasNoEmptyEntry (rules : RuleSet) : Prop :=
  ∀ entries ∈ rules.lists, [] ∉ entries

variable {rules : RuleSet}

theorem nil_not_mem_nonempty (entries : List Text) : [] ∉ nonempty entries := by
  simp [nonempty]

theorem nil_not_mem_field (fields : Toml.Fields) (name : String) : [] ∉ (field fields name).1 := by
  unfold field
  split
  · exact List.not_mem_nil
  · split
    · exact nil_not_mem_nonempty _
    · exact List.not_mem_nil

theorem hasNoEmptyEntry_ofFields (fields : Toml.Fields) : (ofFields fields).1.HasNoEmptyEntry := by
  simp [HasNoEmptyEntry, lists, ofFields, nil_not_mem_field]

theorem hasNoEmptyEntry_of_ofToml {text : Text} {warnings : List Warning}
    (h : ofToml text = .ok (rules, warnings)) : rules.HasNoEmptyEntry := by
  unfold ofToml at h
  split at h
  · next fields _ =>
    have hrules : (ofFields fields).1 = rules := congrArg Prod.fst (Except.ok.inj h)
    exact hrules ▸ hasNoEmptyEntry_ofFields fields
  · cases h

theorem hasNoEmptyEntry_of_load {files : Files Id} {path : Path} {warnings : List Warning}
    (h : load files path = .ok (rules, warnings)) : rules.HasNoEmptyEntry := by
  have hfile : ofFile path (files.read path) = .ok (rules, warnings) := h
  unfold ofFile at hfile
  cases htext : textOfFile path (files.read path) with
  | error cause =>
      rw [htext] at hfile
      cases hfile
  | ok text =>
      rw [htext] at hfile
      exact hasNoEmptyEntry_of_ofToml hfile

/-- **No entry is empty** in a rule set that can be made. -/
theorem Built.hasNoEmptyEntry (h : Built rules) : rules.HasNoEmptyEntry := by
  induction h with
  | empty => simp [HasNoEmptyEntry, lists, RuleSet.empty]
  | withKeywords _ entries ih =>
      simp_all [HasNoEmptyEntry, lists, RuleSet.withKeywords, nil_not_mem_nonempty]
  | withTypes _ entries ih =>
      simp_all [HasNoEmptyEntry, lists, RuleSet.withTypes, nil_not_mem_nonempty]
  | withModifiers _ entries ih =>
      simp_all [HasNoEmptyEntry, lists, RuleSet.withModifiers, nil_not_mem_nonempty]
  | withComments _ entries ih =>
      simp_all [HasNoEmptyEntry, lists, RuleSet.withComments, nil_not_mem_nonempty]
  | withStrings _ entries ih =>
      simp_all [HasNoEmptyEntry, lists, RuleSet.withStrings, nil_not_mem_nonempty]
  | ofToml h => exact hasNoEmptyEntry_of_ofToml h
  | load h => exact hasNoEmptyEntry_of_load h

/-! ### What a search looks for -/

theorem ne_nil_of_mem_strings (h : rules.HasNoEmptyEntry) :
    ∀ quote ∈ rules.strings, quote ≠ [] := by
  rintro quote hquote rfl
  exact h rules.strings (by simp [lists]) hquote

theorem mem_comments_of_mem_lineMarkers {opener : Text} (h : opener ∈ rules.lineMarkers) :
    opener ∈ rules.comments := by
  obtain ⟨marker, hmarker, hline⟩ := List.mem_filterMap.mp h
  obtain ⟨entry, hentry, rfl⟩ := List.mem_map.mp (List.mem_filter.mp hmarker).1
  unfold Marker.ofEntry at hline
  split at hline
  · cases hline
  · split at hline
    · cases hline
    · obtain rfl := Option.some.inj hline
      exact hentry
  · obtain rfl := Option.some.inj hline
    exact hentry

theorem ne_nil_of_mem_lineMarkers (h : rules.HasNoEmptyEntry) :
    ∀ opener ∈ rules.lineMarkers, opener ≠ [] := by
  rintro opener hopener rfl
  exact h rules.comments (by simp [lists]) (mem_comments_of_mem_lineMarkers hopener)

theorem ne_nil_of_mem_vocabularies (h : rules.HasNoEmptyEntry) {vocabulary : Vocabulary}
    (hvocabulary : vocabulary ∈ (LineRules.ofRuleSet rules).vocabularies) :
    ∀ entry ∈ vocabulary.entries, entry ≠ [] := by
  obtain ⟨⟨category, entries⟩, hentries, rfl⟩ := List.mem_map.mp hvocabulary
  rintro folded hfolded rfl
  obtain ⟨entry, hentry, hempty⟩ := Vocabulary.mem_entries_ofEntries_iff.mp hfolded
  obtain rfl := List.map_eq_nil_iff.mp hempty
  have hlist : entries ∈ rules.lists := by
    simp only [vocabularies, List.mem_cons, Prod.mk.injEq, List.not_mem_nil, or_false] at hentries
    obtain ⟨-, rfl⟩ | ⟨-, rfl⟩ | ⟨-, rfl⟩ := hentries <;> simp [lists]
  exact h entries hlist hentry

end Highlighter.RuleSet

namespace Highlighter.Builtin

open RuleSet

/-- The built-in rules are rules that can be made. -/
theorem built_of_mem_languages {rules : RuleSet} (h : rules ∈ languages.map Language.rules) :
    rules.Built := by
  have hfilled : (languages.map Language.rules).all (fun rules =>
      rules.lists.all fun entries => nonempty entries = entries) = true := by
    decide +kernel
  have hlists := List.all_eq_true.mp hfilled rules h
  simp only [lists, List.all_cons, List.all_nil, Bool.and_true, Bool.and_eq_true,
    decide_eq_true_eq] at hlists
  obtain ⟨hkeywords, htypes, hmodifiers, hcomments, hstrings⟩ := hlists
  have hmade := ((((Built.empty.withKeywords rules.keywords).withTypes rules.types).withModifiers
    rules.modifiers).withComments rules.comments).withStrings rules.strings
  simpa only [withKeywords, withTypes, withModifiers, withComments, withStrings, hkeywords, htypes,
    hmodifiers, hcomments, hstrings] using hmade

end Highlighter.Builtin
