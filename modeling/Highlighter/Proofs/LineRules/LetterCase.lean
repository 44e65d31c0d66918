import Highlighter.Highlight
import Highlighter.Proofs.Span.Delimited
import Highlighter.Proofs.Text.LetterCase
import Highlighter.Proofs.Vocabulary.WholeWord

/-!
# The case of letters and the words found

Neither the case in which ASCII letters stand on a line nor the one in which they are given in a
vocabulary matters for the words found: both sides of a match are case-folded, entries keep their
sizes, and so their order, and word characters stay what they are. So the words are those found with
small letters in both (`find_map_toLower`, `ofEntries_map_toLower`). The main statement is
`filter_candidates_eq_of_sameLetters`.
-/

namespace Highlighter

open Text

namespace Vocabulary

/-! ### Small letters on the line -/

theorem afterEntry?_map_toLower (entry text : Text) :
    afterEntry? entry (text.map Char.toLower)
      = ( afterEntry? entry text).map (·.map Char.toLower) := by
  induction entry generalizing text with
  | nil =>
      unfold afterEntry?
      rfl
  | cons folded entry ih =>
      cases text with
      | nil => rfl
      | cons char rest =>
          rw [List.map_cons, afterEntry?, afterEntry?, Unicode.fold_toLower, ih]
          split <;> rfl

theorem endsWord_map_toLower (text : Text) : endsWord (text.map Char.toLower) = endsWord text := by
  cases text with
  | nil => rfl
  | cons char rest => simp [endsWord, Unicode.continuesWord_toLower]

theorem fit?_map_toLower (text entry : Text) :
    fit? (text.map Char.toLower) entry = fit? text entry := by
  rw [fit?, fit?, afterEntry?_map_toLower]
  cases afterEntry? entry text with
  | none => rfl
  | some after =>
      simp only [Option.map_some, endsWord_map_toLower, size_map_toLower]

theorem findFrom_map_toLower (vocabulary : Vocabulary) (afterWordChar : Bool) (offset : Nat)
    (text : Text) :
    vocabulary.findFrom afterWordChar offset (text.map Char.toLower)
      = vocabulary.findFrom afterWordChar offset text := by
  induction text generalizing afterWordChar offset with
  | nil => rfl
  | cons char rest ih =>
      have hfit : fit? (char.toLower :: rest.map Char.toLower) = fit? (char :: rest) :=
        funext (fit?_map_toLower (char :: rest))
      rw [List.map_cons, findFrom, findFrom, Unicode.isWordChar_toLower, Unicode.utf8Size_toLower,
        ih, hfit]

theorem find_map_toLower (vocabulary : Vocabulary) (line : Text) :
    vocabulary.find (line.map Char.toLower) = vocabulary.find line :=
  findFrom_map_toLower vocabulary false 0 line

/-! ### Small letters in the entries -/

theorem ofEntries_map_toLower (category : Category) (entries : List Text) :
    ofEntries category (entries.map (·.map Char.toLower)) = ofEntries category entries := by
  have hsort : (entries.map (·.map Char.toLower)).mergeSort noShorter
      = (entries.mergeSort noShorter).map (·.map Char.toLower) := by
    symm
    apply List.map_mergeSort
    intro left _ right _
    rw [noShorter, noShorter, size_map_toLower, size_map_toLower]
  have hentries : (ofEntries category (entries.map (·.map Char.toLower))).entries
      = (ofEntries category entries).entries := by
    rw [entries_ofEntries, entries_ofEntries, hsort, List.map_map]
    exact List.map_congr_left fun entry _ => map_fold_map_toLower entry
  exact congrArg (Vocabulary.mk category) hentries

theorem find_eq_of_sameLetters {category : Category} {entries entries' : List Text}
    {line line' : Text} (hentries : List.Forall₂ SameLetters entries entries')
    (hline : SameLetters line line') :
    (ofEntries category entries).find line = (ofEntries category entries').find line' :=
  calc (ofEntries category entries).find line
      = (ofEntries category (entries.map (·.map Char.toLower))).find (line.map Char.toLower) := by
        rw [ofEntries_map_toLower, find_map_toLower]
    _ = (ofEntries category (entries'.map (·.map Char.toLower))).find (line'.map Char.toLower) := by
        rw [map_map_toLower_eq hentries, hline]
    _ = (ofEntries category entries').find line' := by
        rw [ofEntries_map_toLower, find_map_toLower]

end Vocabulary

/-! ### The words among the candidates -/

/-- Whether the candidates of a category are words. -/
def Category.isOfWords : Category → Bool
  | .keyword | .typeName | .modifier => true
  | .comment | .string | .plain => false

namespace LineRules

theorem isOfWords_of_mem_words {rules : RuleSet} {line : Text} {span : Span}
    (h : span ∈ (ofRuleSet rules).words line) : span.category.isOfWords = true := by
  simp only [words, ofRuleSet, RuleSet.vocabularies, List.map_cons, List.map_nil, List.flatMap_cons,
    List.flatMap_nil, List.append_nil, List.mem_append] at h
  obtain h | h | h := h <;>
    · obtain ⟨_, _, _, -, -, -, -, rfl⟩ := Vocabulary.mem_find_iff.mp h
      rfl

theorem not_isOfWords_of_mem_comment? {rules : LineRules} {line : Text} {span : Span}
    (h : span ∈ (rules.comment? line).toList) : ¬ span.category.isOfWords = true := by
  obtain ⟨start, -, rfl⟩ := Option.map_eq_some_iff.mp (Option.mem_toList.mp h)
  exact Bool.false_ne_true

theorem not_isOfWords_of_mem_strings {quote line : Text} {span : Span}
    (h : span ∈ strings quote line) : ¬ span.category.isOfWords = true := by
  rw [Span.category_of_mem_delimited span h]
  exact Bool.false_ne_true

theorem filter_candidates_eq_words (rules : RuleSet) (line : Text) :
    ((ofRuleSet rules).candidates line false).filter (·.category.isOfWords)
      = (ofRuleSet rules).words line := by
  have hcomment : ((ofRuleSet rules).comment? line).toList.filter (·.category.isOfWords) = [] :=
    List.filter_eq_nil_iff.mpr fun _ => not_isOfWords_of_mem_comment?
  have hstrings : ((ofRuleSet rules).quotes.flatMap (strings · line)).filter
      (·.category.isOfWords) = [] := by
    apply List.filter_eq_nil_iff.mpr
    intro span hspan
    obtain ⟨quote, -, hspan⟩ := List.mem_flatMap.mp hspan
    exact not_isOfWords_of_mem_strings hspan
  have hwords : ((ofRuleSet rules).words line).filter (·.category.isOfWords)
      = (ofRuleSet rules).words line :=
    List.filter_eq_self.mpr fun _ => isOfWords_of_mem_words
  rw [candidates, if_neg Bool.false_ne_true, List.filter_append, List.filter_append, hcomment,
    hstrings, hwords, List.nil_append, List.nil_append]

end LineRules

/-- Rule sets whose words differ at most in the case of ASCII letters. -/
structure RuleSet.SameWordLetters (rules rules' : RuleSet) : Prop where
  keywords : List.Forall₂ SameLetters rules.keywords rules'.keywords
  types : List.Forall₂ SameLetters rules.types rules'.types
  modifiers : List.Forall₂ SameLetters rules.modifiers rules'.modifiers

variable {rules rules' : RuleSet} {line line' : Text}

theorem LineRules.words_eq_of_sameLetters (h : rules.SameWordLetters rules')
    (hline : SameLetters line line') :
    (ofRuleSet rules).words line = (ofRuleSet rules').words line' := by
  simp only [words, ofRuleSet, RuleSet.vocabularies, List.map_cons, List.map_nil,
    List.flatMap_cons, List.flatMap_nil]
  rw [Vocabulary.find_eq_of_sameLetters h.keywords hline,
    Vocabulary.find_eq_of_sameLetters h.types hline,
    Vocabulary.find_eq_of_sameLetters h.modifiers hline]

/-- **The case of ASCII letters does not matter** for the words among the candidates on a line, be it
the case of letters on the line or in the words of the rule set. -/
theorem filter_candidates_eq_of_sameLetters (h : rules.SameWordLetters rules')
    (hline : SameLetters line line') :
    ((LineRules.ofRuleSet rules).candidates line false).filter (·.category.isOfWords)
      = ((LineRules.ofRuleSet rules').candidates line' false).filter (·.category.isOfWords) := by
  rw [LineRules.filter_candidates_eq_words, LineRules.filter_candidates_eq_words,
    LineRules.words_eq_of_sameLetters h hline]

/-- A long s and the Kelvin sign stay as they are, next to letters that change. -/
theorem filter_candidates_of_kelvin_sign :
    let rules : RuleSet := ⟨["ſET".toList, ['\u212A']], ["Int".toList], ["PUB".toList], [], []⟩
    let rules' : RuleSet := ⟨["ſet".toList, ['\u212A']], ["iNT".toList], ["pub".toList], [], []⟩
    let line := "pub Set: k INT".toList
    let line' := "Pub sEt: K int".toList
    rules.SameWordLetters rules' ∧ SameLetters line line' ∧
      ((LineRules.ofRuleSet rules).candidates line false).filter (·.category.isOfWords)
        = ((LineRules.ofRuleSet rules').candidates line' false).filter (·.category.isOfWords) := by
  intro rules rules' line line'
  have hrules : rules.SameWordLetters rules' := by
    constructor
    · exact .cons (by decide) (.cons (by decide) .nil)
    · exact .cons (by decide) .nil
    · exact .cons (by decide) .nil
  have hline : SameLetters line line' := by decide
  exact ⟨hrules, hline, filter_candidates_eq_of_sameLetters hrules hline⟩

end Highlighter
