import Highlighter.Proofs.Highlight.Cells
import Highlighter.Proofs.Vocabulary.WholeWord

/-!
# The order of words

Words are tried longest first, and it is their bytes that are counted, as they are written. Two
words of one size can fit the same text and still take stretches of different length from it: case
folding keeps the number of characters but not their sizes. Of such two the one listed first is
found. The Kelvin sign, of three bytes, and `k-k` are an example. In lists without such words only
the set of words matters (`Vocabulary.findSome?_eq_of_mem_iff`).
-/

namespace Highlighter

namespace Vocabulary

/-- No word, in any case, is a proper start of another one of its size. -/
def Untied (entries : List Text) : Prop :=
  ∀ left ∈ entries, ∀ right ∈ entries, left.size = right.size →
    left.map Unicode.fold <+: right.map Unicode.fold → left.length = right.length

theorem untied_of_ascii {entries : List Text}
    (hascii : ∀ entry ∈ entries, ∀ char ∈ entry, char.toNat < 0x80) : Untied entries := by
  intro left hleft right hright hsize _
  rwa [size_eq_length_of_ascii (hascii left hleft), size_eq_length_of_ascii (hascii right hright)]
    at hsize

variable {category : Category} {entries entries' : List Text} {text : Text} {size size' : Nat}

/-- What is found is what some entry takes, and no entry that fits has more bytes. -/
theorem exists_longest_of_findSome?
    (h : (ofEntries category entries).entries.findSome? (fit? text) = some size) :
    ∃ entry ∈ entries, fit? text (entry.map Unicode.fold) = some size ∧
      ∀ other ∈ entries, fit? text (other.map Unicode.fold) ≠ none → other.size ≤ entry.size := by
  obtain ⟨first, hfirst, hfit⟩ := findSome?_ofEntries_eq_some_iff.mp h
  refine ⟨first.1, List.mem_of_getElem? hfirst.listed, hfit, ?_⟩
  intro other hother hfits
  obtain ⟨number, hnumber⟩ := List.getElem?_of_mem hother
  have hnot := hfirst.not_precedes ⟨other, number⟩ hnumber hfits
  simp only [Numbered.Precedes, not_or] at hnot
  omega

/-- Of two words of one size that fit the same text one is a start of the other. -/
theorem length_eq_of_fit? (huntied : Untied entries) {left right : Text} (hleft : left ∈ entries)
    (hright : right ∈ entries) (hsize : left.size = right.size)
    (h : fit? text (left.map Unicode.fold) = some size)
    (h' : fit? text (right.map Unicode.fold) = some size') : left.length = right.length := by
  obtain ⟨matched, after, rfl, hmatched, -, -⟩ := fit?_eq_some_iff.mp h
  obtain ⟨matched', after', htext, hmatched', -, -⟩ := fit?_eq_some_iff.mp h'
  -- what the two words take starts the same text, so one of them takes a start of the other's
  obtain hprefix | hprefix := List.prefix_or_prefix_of_prefix ⟨after, rfl⟩ ⟨after', htext.symm⟩
  · apply huntied left hleft right hright hsize
    rw [← hmatched, ← hmatched']
    exact hprefix.map Unicode.fold
  · symm
    apply huntied right hright left hleft hsize.symm
    rw [← hmatched, ← hmatched']
    exact hprefix.map Unicode.fold

/-- **Only the set of words matters** for what is found at a place, if no two words are tied. -/
theorem findSome?_eq_of_mem_iff (hmem : ∀ entry, entry ∈ entries ↔ entry ∈ entries')
    (huntied : Untied entries) (text : Text) :
    (ofEntries category entries).entries.findSome? (fit? text)
      = (ofEntries category entries').entries.findSome? (fit? text) := by
  have hfold (folded : Text) : folded ∈ (ofEntries category entries).entries ↔
      folded ∈ (ofEntries category entries').entries := by
    simp only [mem_entries_ofEntries_iff, hmem]
  cases hfirst : (ofEntries category entries).entries.findSome? (fit? text) with
  | none =>
      symm
      rw [List.findSome?_eq_none_iff] at hfirst ⊢
      intro folded hfolded
      exact hfirst folded ((hfold folded).mpr hfolded)
  | some size =>
      obtain ⟨left, hleft, hfit, hlongest⟩ := exists_longest_of_findSome? hfirst
      cases hfirst' : (ofEntries category entries').entries.findSome? (fit? text) with
      | none =>
          have hmiss := List.findSome?_eq_none_iff.mp hfirst' (left.map Unicode.fold)
            (mem_entries_ofEntries_iff.mpr ⟨left, (hmem left).mp hleft, rfl⟩)
          rw [hmiss] at hfit
          cases hfit
      | some size' =>
          obtain ⟨right, hright, hfit', hlongest'⟩ := exists_longest_of_findSome? hfirst'
          rw [← hmem] at hright
          have hsize : left.size = right.size := by
            apply Nat.le_antisymm
            · exact hlongest' left ((hmem left).mp hleft) (by simp [hfit])
            · exact hlongest right hright (by simp [hfit'])
          have hlength := length_eq_of_fit? huntied hleft hright hsize hfit hfit'
          have hle : size ≤ size' := size_le_of_fit? (by simp [hlength]) hfit hfit'
          have hge : size' ≤ size := size_le_of_fit? (by simp [hlength]) hfit' hfit
          rw [Nat.le_antisymm hle hge]

theorem findFrom_eq_of_mem_iff (hmem : ∀ entry, entry ∈ entries ↔ entry ∈ entries')
    (huntied : Untied entries) (afterWordChar : Bool) (offset : Nat) (text : Text) :
    (ofEntries category entries).findFrom afterWordChar offset text
      = (ofEntries category entries').findFrom afterWordChar offset text := by
  induction text generalizing afterWordChar offset with
  | nil => rfl
  | cons char rest ih =>
      rw [findFrom, findFrom, ih, findSome?_eq_of_mem_iff hmem huntied]
      rfl

end Vocabulary

namespace RuleSet

/-- Rule sets with the same comment entries and quote marks of which the words are the same but for
their order and repetitions. -/
structure SameWords (rules rules' : RuleSet) : Prop where
  keywords : ∀ entry, entry ∈ rules.keywords ↔ entry ∈ rules'.keywords
  types : ∀ entry, entry ∈ rules.types ↔ entry ∈ rules'.types
  modifiers : ∀ entry, entry ∈ rules.modifiers ↔ entry ∈ rules'.modifiers
  comments : rules.comments = rules'.comments
  strings : rules.strings = rules'.strings

/-- No two words of one list are tied. -/
structure Untied (rules : RuleSet) : Prop where
  keywords : Vocabulary.Untied rules.keywords
  types : Vocabulary.Untied rules.types
  modifiers : Vocabulary.Untied rules.modifiers

end RuleSet

variable {rules rules' : RuleSet}

theorem LineRules.words_eq_of_sameWords (h : rules.SameWords rules') (huntied : rules.Untied)
    (line : Text) : (ofRuleSet rules).words line = (ofRuleSet rules').words line := by
  simp only [words, ofRuleSet, RuleSet.vocabularies, List.map_cons, List.map_nil,
    List.flatMap_cons, List.flatMap_nil, Vocabulary.find]
  rw [Vocabulary.findFrom_eq_of_mem_iff h.keywords huntied.keywords,
    Vocabulary.findFrom_eq_of_mem_iff h.types huntied.types,
    Vocabulary.findFrom_eq_of_mem_iff h.modifiers huntied.modifiers]

/-- **Only the sets of words matter** for the segments of a text, if no two words are tied. -/
theorem highlight_eq_of_sameWords (h : rules.SameWords rules') (huntied : rules.Untied)
    (text : Text) (mode : Mode) : highlight text rules mode = highlight text rules' mode := by
  have hmarkers : rules.markers = rules'.markers := by
    rw [RuleSet.markers, RuleSet.markers, h.comments]
  have hscan : Block.scan rules text = Block.scan rules' text := by
    rw [Block.scan, Block.scan, Block.finds, Block.finds, RuleSet.blockMarkers,
      RuleSet.blockMarkers, hmarkers]
  rw [highlight_eq_ofCells, highlight_eq_ofCells, hscan]
  congr 1
  apply cells_congr_resolve
  intro line inBlock
  have hcomment : (LineRules.ofRuleSet rules).comment? line
      = (LineRules.ofRuleSet rules').comment? line := by
    simp only [LineRules.comment?, LineRules.ofRuleSet, RuleSet.lineMarkers, hmarkers]
  have hquotes : (LineRules.ofRuleSet rules).quotes = (LineRules.ofRuleSet rules').quotes :=
    h.strings
  rw [LineRules.candidates, LineRules.candidates, hcomment, hquotes,
    LineRules.words_eq_of_sameWords h huntied]

/-- Words that start each other, listed in either order. -/
theorem highlight_of_int_and_in :
    RuleSet.SameWords ⟨["in".toList, "int".toList], [], [], [], []⟩
        ⟨["int".toList, "in".toList], [], [], [], []⟩ ∧
      RuleSet.Untied ⟨["in".toList, "int".toList], [], [], [], []⟩ ∧
      highlight "int in x".toList ⟨["in".toList, "int".toList], [], [], [], []⟩ .light
        = highlight "int in x".toList ⟨["int".toList, "in".toList], [], [], [], []⟩ .light :=
  have hsame : RuleSet.SameWords ⟨["in".toList, "int".toList], [], [], [], []⟩
      ⟨["int".toList, "in".toList], [], [], [], []⟩ :=
    ⟨fun entry => by simp [or_comm], fun _ => Iff.rfl, fun _ => Iff.rfl, rfl, rfl⟩
  have huntied : RuleSet.Untied ⟨["in".toList, "int".toList], [], [], [], []⟩ :=
    ⟨Vocabulary.untied_of_ascii (by simp), Vocabulary.untied_of_ascii (by simp),
      Vocabulary.untied_of_ascii (by simp)⟩
  ⟨hsame, huntied, highlight_eq_of_sameWords hsame huntied _ .light⟩

/-! ### Tied words -/

theorem Vocabulary.findFrom_nil (category : Category) (afterWordChar : Bool) (offset : Nat)
    (text : Text) : findFrom ⟨category, []⟩ afterWordChar offset text = [] := by
  induction text generalizing afterWordChar offset with
  | nil => rfl
  | cons char rest ih => simp [findFrom, ih]

/-- The segments of a single line under keywords alone, which are listed longest first, if the words
found do not have to be sorted either. -/
theorem highlight_of_keywords {keywords : List Text} {line : Text} {found : List Span} (mode : Mode)
    (hline : line.lines = [⟨0, line⟩])
    (hkeywords : keywords.Pairwise fun left right => right.size ≤ left.size)
    (hfind : Vocabulary.find ⟨.keyword, keywords.map (·.map Unicode.fold)⟩ line = found)
    (hfound : found.Pairwise fun left right => left.outranks right = true) :
    highlight line ⟨keywords, [], [], [], []⟩ mode
      = Segment.ofCells mode 0 (Cell.paint (Span.sweep 0 found) 0 line) := by
  have hentries : Vocabulary.ofEntries .keyword keywords
      = ⟨.keyword, keywords.map (·.map Unicode.fold)⟩ := by
    rw [Vocabulary.ofEntries, List.mergeSort_of_pairwise (hkeywords.imp decide_eq_true)]
  have hnone (category : Category) : Vocabulary.ofEntries category [] = ⟨category, []⟩ := by
    simp [Vocabulary.ofEntries]
  have hcandidates : (LineRules.ofRuleSet ⟨keywords, [], [], [], []⟩).candidates line false
      = found := by
    have hwords : (LineRules.ofRuleSet ⟨keywords, [], [], [], []⟩).words line = found := by
      simp only [LineRules.words, LineRules.ofRuleSet, RuleSet.vocabularies, List.map_cons,
        List.map_nil, List.flatMap_cons, List.flatMap_nil, hentries, hfind, hnone]
      simp [Vocabulary.find, Vocabulary.findFrom_nil]
    rw [LineRules.candidates, hwords]
    rfl
  have hresolve : Span.resolve found = Span.sweep 0 found := by
    rw [Span.resolve, List.mergeSort_of_pairwise hfound]
  have hscan : Block.scan ⟨keywords, [], [], [], []⟩ line = [] := by
    simp [Block.scan, Block.finds, RuleSet.blockMarkers, RuleSet.markers, Span.sweep]
  rw [highlight_eq_ofCells, hscan, hline, cells, lineCells, ← hresolve, ← hcandidates]
  rfl

theorem highlight_ne_of_kelvin_sign :
    [['\u212A'], "k-k".toList].Perm ["k-k".toList, ['\u212A']] ∧
      highlight "k-k".toList ⟨[['\u212A'], "k-k".toList], [], [], [], []⟩ .light
        ≠ highlight "k-k".toList ⟨["k-k".toList, ['\u212A']], [], [], [], []⟩ .light := by
  have hshort : highlight "k-k".toList ⟨[['\u212A'], "k-k".toList], [], [], [], []⟩ .light
      = Segment.ofCells .light 0 (Cell.paint
          (Span.sweep 0 [⟨0, 1, .keyword⟩, ⟨2, 3, .keyword⟩]) 0 "k-k".toList) :=
    highlight_of_keywords .light rfl (by decide) (by decide +kernel) (by decide)
  have hlong : highlight "k-k".toList ⟨["k-k".toList, ['\u212A']], [], [], [], []⟩ .light
      = Segment.ofCells .light 0 (Cell.paint
          (Span.sweep 0 [⟨0, 3, .keyword⟩, ⟨2, 3, .keyword⟩]) 0 "k-k".toList) :=
    highlight_of_keywords .light rfl (by decide) (by decide +kernel) (by decide)
  rw [hshort, hlong]
  exact ⟨List.Perm.swap .., by decide +kernel⟩

end Highlighter
