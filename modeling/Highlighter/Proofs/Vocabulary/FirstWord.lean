import Highlighter.Proofs.Cursor.Search

/-!
# Which words are found

The words found on a line are the whole words that start at its places, one at a place where there
are some: of the entries that stand there the one with the most bytes, and of those of one size the
one listed first. The main statement is `loop_finds_first_wholeWords`.
-/

namespace Highlighter.Vocabulary

open Text Cursor

variable {entries : List Text}

/-! ### Whole words -/

/-- An entry stands at a place of a line in any case, and no word character is next to it. -/
structure WholeWord (line entry before matched after : Text) : Prop where
  line_eq : line = before ++ matched ++ after
  matched_eq : matched.map Unicode.fold = entry.map Unicode.fold
  before_eq : before.getLast?.any Unicode.isWordChar = false
  after_eq : after.head?.any Unicode.isWordChar = false

/-- Whether an entry makes a whole word after the first part of a line. -/
def StandsAfter (line before entry : Text) : Prop :=
  ∃ matched after, WholeWord line entry before matched after

variable {category : Category} {line before rest entry : Text} {size : Nat} {span : Span}

theorem fit?_eq_some_iff_wholeWord
    (hagree : ∀ char ∈ rest, Unicode.continuesWord char = Unicode.isWordChar char)
    (hbefore : before.getLast?.any Unicode.isWordChar = false) :
    fit? rest (entry.map Unicode.fold) = some size ↔
      ∃ matched after, WholeWord (before ++ rest) entry before matched after ∧
        matched.size = size := by
  rw [fit?_eq_some_iff]
  constructor
  · rintro ⟨matched, after, rfl, hmatched, hends, hsize⟩
    rw [endsWord_eq fun char hchar => hagree char (List.mem_append_right _ hchar),
      Bool.not_eq_true'] at hends
    exact ⟨matched, after, ⟨by simp, hmatched, hbefore, hends⟩, hsize⟩
  · rintro ⟨matched, after, hword, hsize⟩
    have hrest : rest = matched ++ after := by
      have hline := hword.line_eq
      rwa [List.append_assoc, List.append_cancel_left_eq] at hline
    exact ⟨matched, after, hrest, hword.matched_eq, endsWord_of_not_isWordChar hword.after_eq,
      hsize⟩

theorem fit?_ne_none_iff_standsAfter
    (hagree : ∀ char ∈ rest, Unicode.continuesWord char = Unicode.isWordChar char)
    (hbefore : before.getLast?.any Unicode.isWordChar = false) :
    fit? rest (entry.map Unicode.fold) ≠ none ↔ StandsAfter (before ++ rest) before entry := by
  rw [Option.ne_none_iff_exists']
  simp only [fit?_eq_some_iff_wholeWord hagree hbefore, StandsAfter]
  constructor
  · rintro ⟨_, matched, after, hword, -⟩
    exact ⟨matched, after, hword⟩
  · rintro ⟨matched, after, hword⟩
    exact ⟨_, matched, after, hword, rfl⟩

theorem WholeWord.matched_ne_nil {matched after : Text}
    (h : WholeWord line entry before matched after) (hne : entry ≠ []) : matched ≠ [] := by
  rintro rfl
  exact hne (List.map_eq_nil_iff.mp h.matched_eq.symm)

theorem mem_find_ofEntries_iff (hne : ∀ entry ∈ entries, entry ≠ [])
    (hagree : ∀ char ∈ line, Unicode.continuesWord char = Unicode.isWordChar char) :
    span ∈ (ofEntries category entries).find line ↔
      ∃ before matched after first, First (StandsAfter line before) entries first ∧
        WholeWord line first.1 before matched after ∧
        span = ⟨before.size, before.size + matched.size, category⟩ := by
  rw [mem_find_iff]
  constructor
  · rintro ⟨before, rest, size, rfl, -, hbefore, hfound, rfl⟩
    have hrest : ∀ char ∈ rest, Unicode.continuesWord char = Unicode.isWordChar char :=
      fun char hchar => hagree char (List.mem_append_right _ hchar)
    obtain ⟨first, hfirst, hfit⟩ := findSome?_ofEntries_eq_some_iff.mp hfound
    rw [first_congr fun entry => fit?_ne_none_iff_standsAfter hrest hbefore] at hfirst
    obtain ⟨matched, after, hword, rfl⟩ := (fit?_eq_some_iff_wholeWord hrest hbefore).mp hfit
    exact ⟨before, matched, after, first, hfirst, hword, rfl⟩
  · rintro ⟨before, matched, after, first, hfirst, hword, rfl⟩
    have hentry : first.1 ≠ [] := hne first.1 (List.mem_of_getElem? hfirst.listed)
    have hline : line = before ++ (matched ++ after) := by rw [hword.line_eq, List.append_assoc]
    subst hline
    have hrest : ∀ char ∈ matched ++ after, Unicode.continuesWord char = Unicode.isWordChar char :=
      fun char hchar => hagree char (List.mem_append_right _ hchar)
    refine ⟨before, matched ++ after, matched.size, rfl, ?_, hword.before_eq, ?_, rfl⟩
    · exact List.append_ne_nil_of_left_ne_nil (hword.matched_ne_nil hentry) after
    · rw [findSome?_ofEntries_eq_some_iff]
      refine ⟨first, ?_, (fit?_eq_some_iff_wholeWord hrest hword.before_eq).mpr ?_⟩
      · rwa [first_congr fun entry => fit?_ne_none_iff_standsAfter hrest hword.before_eq]
      · exact ⟨matched, after, hword, rfl⟩

/-! ### The whole line -/

theorem pairwise_start_findFrom (vocabulary : Vocabulary) (afterWordChar : Bool) (offset : Nat)
    (text : Text) :
    (vocabulary.findFrom afterWordChar offset text).Pairwise
      fun left right => left.start < right.start := by
  induction text generalizing afterWordChar offset with
  | nil => exact List.Pairwise.nil
  | cons char rest ih =>
      have hlater := ih (Unicode.isWordChar char) (offset + char.utf8Size)
      rw [findFrom]
      split
      · exact hlater
      · split
        · refine List.pairwise_cons.mpr ⟨?_, hlater⟩
          intro span hspan
          obtain ⟨before, _, _, -, -, -, -, rfl⟩ := mem_findFrom_iff.mp hspan
          have hpos := char.utf8Size_pos
          dsimp only
          omega
        · exact hlater

/-- **The words that the loop finds** are the whole words of the line, each for the first entry that
stands at its place, by the place where they start. The tests for a word character before a word and
after one are taken to agree on the characters of the line. -/
theorem loop_finds_first_wholeWords (category : Category) (hne : ∀ entry ∈ entries, entry ≠ [])
    (hagree : ∀ char ∈ line, Unicode.continuesWord char = Unicode.isWordChar char) :
    Turns.loop (wordTurn (ofEntries category entries) line) 0
        = some ((ofEntries category entries).find line) ∧
      ((ofEntries category entries).find line).Pairwise
        (fun left right => left.start < right.start) ∧
      ∀ span, span ∈ (ofEntries category entries).find line ↔
        ∃ before matched after first, First (StandsAfter line before) entries first ∧
          WholeWord line first.1 before matched after ∧
          span = ⟨before.size, before.size + matched.size, category⟩ := by
  refine ⟨?_, pairwise_start_findFrom _ false 0 line, fun span => mem_find_ofEntries_iff hne hagree⟩
  apply loop_wordTurn_zero
  intro folded hfolded
  obtain ⟨entry, hentry, rfl⟩ := mem_entries_ofEntries_iff.mp hfolded
  exact fun hnil => hne entry hentry (List.map_eq_nil_iff.mp hnil)

/-- Entries that start each other, tied ones, and ones that overlap themselves on the line. -/
theorem loop_finds_of_dotted_entries :
    let entries := ["a".toList, ['\u212A'], "a.b".toList, "a.a".toList, "k-k".toList]
    let line := "A.bc a.a.a→k-k".toList
    (∀ entry ∈ entries, entry ≠ []) ∧
      (∀ char ∈ line, Unicode.continuesWord char = Unicode.isWordChar char) ∧
      Turns.loop (wordTurn (ofEntries .keyword entries) line) 0
        = some ((ofEntries .keyword entries).find line) ∧
      ((ofEntries .keyword entries).find line).Pairwise
        (fun left right => left.start < right.start) ∧
      ∀ span, span ∈ (ofEntries .keyword entries).find line ↔
        ∃ before matched after first, First (StandsAfter line before) entries first ∧
          WholeWord line first.1 before matched after ∧
          span = ⟨before.size, before.size + matched.size, .keyword⟩ := by
  intro entries line
  have hne : ∀ entry ∈ entries, entry ≠ [] := by decide
  have hall : line.all (fun char => Unicode.continuesWord char == Unicode.isWordChar char)
      = true := by
    decide +kernel
  have hagree : ∀ char ∈ line, Unicode.continuesWord char = Unicode.isWordChar char := by
    intro char hchar
    exact eq_of_beq (List.all_eq_true.mp hall char hchar)
  exact ⟨hne, hagree, loop_finds_first_wholeWords .keyword hne hagree⟩

end Highlighter.Vocabulary
