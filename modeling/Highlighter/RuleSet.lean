import Highlighter.Category
import Highlighter.Text.Basic

/-!
# Rule sets

A rule set is the lexical vocabulary of a language: three lists of words, the comment markers and
the quote marks of its strings. Every way to fill a list drops empty entries.
-/

namespace Highlighter

/-- The words, comment markers and quote marks of a language. -/
structure RuleSet where
  keywords : List Text
  types : List Text
  modifiers : List Text
  comments : List Text
  strings : List Text
deriving DecidableEq, Repr

namespace RuleSet

def empty : RuleSet :=
  ⟨[], [], [], [], []⟩

/-- The entries of a list that hold at least one character. -/
def nonempty (entries : List Text) : List Text :=
  entries.filter (· ≠ [])

def withKeywords (rules : RuleSet) (entries : List Text) : RuleSet :=
  { rules with keywords := nonempty entries }

def withTypes (rules : RuleSet) (entries : List Text) : RuleSet :=
  { rules with types := nonempty entries }

def withModifiers (rules : RuleSet) (entries : List Text) : RuleSet :=
  { rules with modifiers := nonempty entries }

def withComments (rules : RuleSet) (entries : List Text) : RuleSet :=
  { rules with comments := nonempty entries }

def withStrings (rules : RuleSet) (entries : List Text) : RuleSet :=
  { rules with strings := nonempty entries }

/-- The word lists, each with the category of its words. -/
def vocabularies (rules : RuleSet) : List (Category × List Text) :=
  [(.keyword, rules.keywords), (.typeName, rules.types), (.modifier, rules.modifiers)]

def isEmpty (rules : RuleSet) : Bool :=
  rules.keywords.isEmpty && rules.types.isEmpty && rules.modifiers.isEmpty &&
    rules.comments.isEmpty && rules.strings.isEmpty

end RuleSet

/-! ### Comment markers

An entry of a rule set's comment list of the form "OPENER CLOSER" marks comments that may cross
lines; any other entry marks comments that run to the end of their line. The opener `/*` alone
stands for the pair of `/*` and `*/`. -/

/-- How comments of one kind are delimited. -/
inductive Marker where
  | line (opener : Text)
  | block (opener closer : Text)
deriving DecidableEq, Repr

namespace Marker

/-- The opener that may be written without its closer. -/
def slashStar : Text := "/*".toList

def starSlash : Text := "*/".toList

/-- The marker that an entry of a comment list stands for. -/
def ofEntry (entry : Text) : Marker :=
  match entry.words with
  | [opener, closer] => block opener closer
  | [opener] => if opener = slashStar then block slashStar starSlash else line entry
  | _ => line entry

def closer? : Marker → Option Text
  | line _ => none
  | block _ closer => some closer

/-- The opener of a marker for comments to the end of the line. -/
def line? : Marker → Option Text
  | line opener => some opener
  | block _ _ => none

/-- The opener and the closer of a marker for blocks. -/
def block? : Marker → Option (Text × Text)
  | line _ => none
  | block opener closer => some (opener, closer)

end Marker

namespace RuleSet

/-- The markers of a rule set. An entry that is the closer of a marker for blocks in the same list
is no marker of its own. -/
def markers (rules : RuleSet) : List Marker :=
  let all := rules.comments.map Marker.ofEntry
  let closers := all.filterMap Marker.closer?
  all.filter fun marker => marker.line?.all (· ∉ closers)

/-- The openers of comments to the end of the line. -/
def lineMarkers (rules : RuleSet) : List Text :=
  rules.markers.filterMap Marker.line?

def blockMarkers (rules : RuleSet) : List (Text × Text) :=
  rules.markers.filterMap Marker.block?

end RuleSet

/-! ### Markers hold no blank

The opener and the closer of a marker for blocks are words of an entry, so neither is empty or
holds a blank. In particular neither can lie across a line break. -/

open Text

theorem Marker.no_blank_of_ofEntry {entry opener closer : Text}
    (h : ofEntry entry = block opener closer) :
    (opener ≠ [] ∧ ∀ char ∈ opener, isBlank char = false) ∧
      (closer ≠ [] ∧ ∀ char ∈ closer, isBlank char = false) := by
  unfold ofEntry at h
  split at h
  · next first second hwords =>
    obtain ⟨rfl, rfl⟩ := Marker.block.inj h
    have hfirst : first ∈ entry.words := by simp [hwords]
    have hsecond : second ∈ entry.words := by simp [hwords]
    exact ⟨words_no_blank hfirst, words_no_blank hsecond⟩
  · split at h
    · obtain ⟨rfl, rfl⟩ := Marker.block.inj h
      have hslash : isBlank '/' = false := by decide
      have hstar : isBlank '*' = false := by decide
      simp [slashStar, starSlash, hslash, hstar]
    · cases h
  · cases h

theorem RuleSet.no_blank_of_mem_blockMarkers {rules : RuleSet} {opener closer : Text}
    (h : (opener, closer) ∈ rules.blockMarkers) :
    (opener ≠ [] ∧ ∀ char ∈ opener, isBlank char = false) ∧
      (closer ≠ [] ∧ ∀ char ∈ closer, isBlank char = false) := by
  obtain ⟨marker, hmarker, hblock⟩ := List.mem_filterMap.mp h
  obtain ⟨entry, -, hentry⟩ := List.mem_map.mp (List.mem_filter.mp hmarker).1
  cases marker with
  | line => cases hblock
  | block =>
      obtain ⟨rfl, rfl⟩ : _ = opener ∧ _ = closer := by simpa [Marker.block?] using hblock
      exact Marker.no_blank_of_ofEntry hentry

theorem RuleSet.newline_not_mem_of_mem_blockMarkers {rules : RuleSet} {opener closer : Text}
    (h : (opener, closer) ∈ rules.blockMarkers) : '\n' ∉ opener ∧ '\n' ∉ closer := by
  obtain ⟨⟨-, hopener⟩, -, hcloser⟩ := no_blank_of_mem_blockMarkers h
  have hnewline : isBlank '\n' = true := by decide
  constructor
  · intro hmem
    simp [hopener _ hmem] at hnewline
  · intro hmem
    simp [hcloser _ hmem] at hnewline

end Highlighter
