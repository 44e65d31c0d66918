import Highlighter.Highlight
import Highlighter.Language
import Highlighter.Proofs.Span.Absorbed
import Highlighter.Proofs.Span.Stretch
import Highlighter.Proofs.Vocabulary.WholeWord

/-!
# The candidates that a rule set calls for

`Specified` says which spans of a line a rule set calls for, whatever a search for them would
report: among them every whole word of every vocabulary, of which several may start at one place.
`specified` lists these spans (`mem_specified_iff`).

The search reports one word of a vocabulary at a place, the longest entry that fits. If the entries
are ASCII, an entry with more bytes takes at least as much of the line, so the word reported absorbs
the other words that start there, and the candidates reported resolve as those called for
(`resolve_candidates_eq_resolve_specified`). An entry past ASCII may take less than it is long: the
Kelvin sign has three bytes, and takes the one byte of a `k`.
-/

namespace Highlighter

open Text

/-- The spans that a rule set calls for on a line. -/
inductive Specified (rules : RuleSet) (line : Text) : Span → Prop
  /-- The line marker that occurs first starts a comment to the end of the line. -/
  | comment {marker before after : Text} (hmarker : marker ∈ rules.lineMarkers)
      (hleftmost : Leftmost marker line before after)
      (hfirst : ∀ other ∈ rules.lineMarkers, ∀ before' after',
        Leftmost other line before' after' → before.size ≤ before'.size) :
      Specified rules line ⟨before.size, line.size, .comment⟩
  /-- A string stands between two quote marks of one kind. -/
  | string {quote : Text} {span : Span} (hquote : quote ∈ rules.strings)
      (hstretch : Span.Stretch .string quote quote 0 line span) : Specified rules line span
  /-- An entry stands there, in any case, with no word character on either side. -/
  | word {category : Category} {entries : List Text} {entry before matched after : Text}
      (hvocabulary : (category, entries) ∈ rules.vocabularies) (hentry : entry ∈ entries)
      (hline : line = before ++ matched ++ after)
      (hmatched : matched.map Unicode.fold = entry.map Unicode.fold)
      (hbefore : before.getLast?.any Unicode.isWordChar = false)
      (hafter : after.head?.any Unicode.isWordChar = false) :
      Specified rules line ⟨before.size, before.size + matched.size, category⟩

/-! ### Listing them -/

/-- The whole word that an entry makes after the first `count` characters of a line. -/
def wholeWordAt? (category : Category) (entry line : Text) (count : Nat) : Option Span :=
  let before : Text := line.take count
  let matched : Text := (line.drop count).take entry.length
  let after : Text := (line.drop count).drop entry.length
  if matched.map Unicode.fold = entry.map Unicode.fold ∧
      before.getLast?.any Unicode.isWordChar = false ∧
      after.head?.any Unicode.isWordChar = false then
    some ⟨before.size, before.size + matched.size, category⟩
  else none

def wholeWords (category : Category) (line entry : Text) : List Span :=
  (List.range (line.length + 1)).filterMap (wholeWordAt? category entry line)

/-- The spans that a rule set calls for on a line, in some order. -/
def specified (rules : RuleSet) (line : Text) : List Span :=
  ((LineRules.ofRuleSet rules).comment? line).toList ++
    rules.strings.flatMap (LineRules.strings · line) ++
    rules.vocabularies.flatMap fun (category, entries) =>
      entries.flatMap (wholeWords category line)

theorem mem_wholeWords_iff {category : Category} {entry line : Text} {span : Span} :
    span ∈ wholeWords category line entry ↔
      ∃ before matched after, line = before ++ matched ++ after ∧
        matched.map Unicode.fold = entry.map Unicode.fold ∧
        before.getLast?.any Unicode.isWordChar = false ∧
        after.head?.any Unicode.isWordChar = false ∧
        span = ⟨before.size, before.size + matched.size, category⟩ := by
  rw [wholeWords, List.mem_filterMap]
  constructor
  · rintro ⟨count, -, hword⟩
    rw [wholeWordAt?] at hword
    split at hword
    · next hwhole =>
      obtain ⟨hmatched, hbefore, hafter⟩ := hwhole
      refine ⟨_, _, _, ?_, hmatched, hbefore, hafter, (Option.some.inj hword).symm⟩
      rw [List.append_assoc, List.take_append_drop, List.take_append_drop]
    · cases hword
  · rintro ⟨before, matched, after, rfl, hmatched, hbefore, hafter, rfl⟩
    have hlength : entry.length = matched.length := by
      simpa using (congrArg List.length hmatched).symm
    refine ⟨before.length, ?_, ?_⟩
    · rw [List.mem_range, List.length_append, List.length_append]
      omega
    · simp [wholeWordAt?, hlength, hmatched, hbefore, hafter]

theorem comment?_eq_some_iff {rules : RuleSet} {line : Text} {span : Span} :
    (LineRules.ofRuleSet rules).comment? line = some span ↔
      ∃ marker ∈ rules.lineMarkers, ∃ before after, Leftmost marker line before after ∧
        (∀ other ∈ rules.lineMarkers, ∀ before' after',
          Leftmost other line before' after' → before.size ≤ before'.size) ∧
        span = ⟨before.size, line.size, .comment⟩ := by
  rw [LineRules.comment?, Option.map_eq_some_iff]
  constructor
  · rintro ⟨start, hmin, rfl⟩
    obtain ⟨hmem, hleast⟩ := List.min?_eq_some_iff.mp hmin
    obtain ⟨marker, hmarker, hfind⟩ := List.mem_filterMap.mp hmem
    obtain ⟨before, after, hleftmost, rfl⟩ := find?_eq_some_iff.mp hfind
    refine ⟨marker, hmarker, before, after, hleftmost, ?_, rfl⟩
    intro other hother before' after' hleftmost'
    apply hleast
    exact List.mem_filterMap.mpr
      ⟨other, hother, find?_eq_some_iff.mpr ⟨before', after', hleftmost', rfl⟩⟩
  · rintro ⟨marker, hmarker, before, after, hleftmost, hfirst, rfl⟩
    refine ⟨before.size, List.min?_eq_some_iff.mpr ⟨?_, ?_⟩, rfl⟩
    · exact List.mem_filterMap.mpr
        ⟨marker, hmarker, find?_eq_some_iff.mpr ⟨before, after, hleftmost, rfl⟩⟩
    · intro start hstart
      obtain ⟨other, hother, hfind⟩ := List.mem_filterMap.mp hstart
      obtain ⟨before', after', hleftmost', rfl⟩ := find?_eq_some_iff.mp hfind
      exact hfirst other hother before' after' hleftmost'

theorem mem_strings_iff {quote line : Text} {span : Span} :
    span ∈ LineRules.strings quote line ↔ Span.Stretch .string quote quote 0 line span := by
  by_cases hne : quote = []
  · subst hne
    rw [LineRules.strings, Span.delimited_of_no_opener rfl]
    exact ⟨fun h => absurd h List.not_mem_nil, fun h => absurd h Span.not_stretch_nil⟩
  · exact Span.mem_delimited_iff hne

theorem mem_specified_iff {rules : RuleSet} {line : Text} {span : Span} :
    span ∈ specified rules line ↔ Specified rules line span := by
  rw [specified, List.mem_append, List.mem_append, Option.mem_toList, comment?_eq_some_iff]
  simp only [List.mem_flatMap, mem_strings_iff, mem_wholeWords_iff]
  constructor
  · rintro ((⟨marker, hmarker, before, after, hleftmost, hfirst, rfl⟩ |
      ⟨quote, hquote, hstretch⟩) |
      ⟨⟨category, entries⟩, hvocabulary, entry, hentry, before, matched, after, hline, hmatched,
        hbefore, hafter, rfl⟩)
    · exact .comment hmarker hleftmost hfirst
    · exact .string hquote hstretch
    · exact .word hvocabulary hentry hline hmatched hbefore hafter
  · intro h
    cases h with
    | comment hmarker hleftmost hfirst =>
        exact .inl (.inl ⟨_, hmarker, _, _, hleftmost, hfirst, rfl⟩)
    | string hquote hstretch => exact .inl (.inr ⟨_, hquote, hstretch⟩)
    | word hvocabulary hentry hline hmatched hbefore hafter =>
        exact .inr ⟨_, hvocabulary, _, hentry, _, _, _, hline, hmatched, hbefore, hafter, rfl⟩

/-! ### The candidates reported -/

def RuleSet.HasAsciiWords (rules : RuleSet) : Prop :=
  ∀ vocabulary ∈ rules.vocabularies, ∀ entry ∈ vocabulary.2, ∀ char ∈ entry, char.toNat < 0x80

instance (rules : RuleSet) : Decidable rules.HasAsciiWords :=
  decidable_of_iff
    (rules.vocabularies.all fun vocabulary => vocabulary.2.all fun entry =>
      entry.all fun char => char.toNat < 0x80)
    (by simp only [RuleSet.HasAsciiWords, List.all_eq_true, decide_eq_true_eq])

theorem Builtin.hasAsciiWords {language : Language} (h : language ∈ Builtin.languages) :
    language.rules.HasAsciiWords := by
  have hall : Builtin.languages.all (fun language => language.rules.HasAsciiWords) = true := by
    decide +kernel
  exact of_decide_eq_true (List.all_eq_true.mp hall language h)

variable {rules : RuleSet} {line : Text} {span : Span}

theorem mem_candidates_iff :
    span ∈ (LineRules.ofRuleSet rules).candidates line false ↔
      ((LineRules.ofRuleSet rules).comment? line = some span ∨
        ∃ quote ∈ rules.strings, span ∈ LineRules.strings quote line) ∨
      ∃ category entries, (category, entries) ∈ rules.vocabularies ∧
        span ∈ (Vocabulary.ofEntries category entries).find line := by
  rw [LineRules.candidates, if_neg Bool.false_ne_true, List.mem_append, List.mem_append,
    Option.mem_toList, List.mem_flatMap, LineRules.words, List.mem_flatMap]
  apply or_congr_right
  constructor
  · rintro ⟨vocabulary, hvocabulary, hfind⟩
    obtain ⟨⟨category, entries⟩, hentries, rfl⟩ := List.mem_map.mp hvocabulary
    exact ⟨category, entries, hentries, hfind⟩
  · rintro ⟨category, entries, hentries, hfind⟩
    exact ⟨_, List.mem_map.mpr ⟨(category, entries), hentries, rfl⟩, hfind⟩

theorem specified_of_mem_candidates
    (hagree : ∀ char ∈ line, Unicode.continuesWord char = Unicode.isWordChar char)
    (h : span ∈ (LineRules.ofRuleSet rules).candidates line false) : Specified rules line span := by
  obtain (hcomment | ⟨quote, hquote, hstring⟩) | ⟨category, entries, hvocabulary, hfind⟩ :=
    mem_candidates_iff.mp h
  · obtain ⟨marker, hmarker, before, after, hleftmost, hfirst, rfl⟩ :=
      comment?_eq_some_iff.mp hcomment
    exact .comment hmarker hleftmost hfirst
  · exact .string hquote (mem_strings_iff.mp hstring)
  · obtain ⟨entry, hentry, before, matched, after, hline, hmatched, hbefore, hafter, rfl⟩ :=
      Vocabulary.exists_entry_of_mem_find hagree hfind
    exact .word hvocabulary hentry hline hmatched hbefore hafter

/-- A span called for that holds a byte is absorbed by a candidate reported. -/
theorem exists_absorbs_of_specified (hascii : rules.HasAsciiWords)
    (h : Specified rules line span) (hlt : span.start < span.stop) :
    ∃ kept ∈ (LineRules.ofRuleSet rules).candidates line false, kept.Absorbs span := by
  cases h with
  | comment hmarker hleftmost hfirst =>
      refine ⟨_, mem_candidates_iff.mpr (.inl (.inl ?_)), .refl _⟩
      exact comment?_eq_some_iff.mpr ⟨_, hmarker, _, _, hleftmost, hfirst, rfl⟩
  | string hquote hstretch =>
      refine ⟨_, mem_candidates_iff.mpr (.inl (.inr ?_)), .refl _⟩
      exact ⟨_, hquote, mem_strings_iff.mpr hstretch⟩
  | @word category entries entry before matched after hvocabulary hentry hline hmatched hbefore
      hafter =>
      have hne : matched ≠ [] := by
        rintro rfl
        simp at hlt
      obtain ⟨size, hsize, hfind⟩ := Vocabulary.exists_mem_find_of_entry category
        (hascii _ hvocabulary) hentry hne hmatched hbefore hafter
      rw [← hline] at hfind
      refine ⟨_, mem_candidates_iff.mpr (.inr ⟨category, entries, hvocabulary, hfind⟩), ?_⟩
      exact ⟨rfl, rfl, Nat.add_le_add_left hsize _⟩

/-- **The candidates reported resolve as those called for**: of the words of one vocabulary that
start at one place, the one reported stands for all, whatever else is on the line. The tests for a
word character before a word and after one are taken to agree on the characters of the line. -/
theorem resolve_candidates_eq_resolve_specified (hascii : rules.HasAsciiWords)
    (hagree : ∀ char ∈ line, Unicode.continuesWord char = Unicode.isWordChar char) :
    (∀ span, span ∈ specified rules line ↔ Specified rules line span) ∧
      Span.resolve ((LineRules.ofRuleSet rules).candidates line false)
        = Span.resolve (specified rules line) := by
  refine ⟨fun span => mem_specified_iff, ?_⟩
  apply Span.resolve_eq_of_absorbs
  · intro span hspan
    exact mem_specified_iff.mpr (specified_of_mem_candidates hagree hspan)
  · intro span hspan hlt
    exact exists_absorbs_of_specified hascii (mem_specified_iff.mp hspan) hlt

/-- Two of the words overlap, and one is written with a long s. -/
theorem resolve_candidates_of_java :
    let rules := Builtin.javaRules
    let line := "non-sealed ſuper \"int\" // x".toList
    rules.HasAsciiWords ∧
      (∀ char ∈ line, Unicode.continuesWord char = Unicode.isWordChar char) ∧
      (∀ span, span ∈ specified rules line ↔ Specified rules line span) ∧
      Span.resolve ((LineRules.ofRuleSet rules).candidates line false)
        = Span.resolve (specified rules line) := by
  intro rules line
  have hjava : .ofRules "Java".toList rules (Builtin.texts ["java"]) ∈ Builtin.languages :=
    List.mem_cons_of_mem _ List.mem_cons_self
  have hascii : rules.HasAsciiWords := Builtin.hasAsciiWords hjava
  have hall : line.all (fun char => Unicode.continuesWord char == Unicode.isWordChar char)
      = true := by
    decide +kernel
  have hagree : ∀ char ∈ line, Unicode.continuesWord char = Unicode.isWordChar char := by
    intro char hchar
    exact eq_of_beq (List.all_eq_true.mp hall char hchar)
  exact ⟨hascii, hagree, resolve_candidates_eq_resolve_specified hascii hagree⟩

end Highlighter
