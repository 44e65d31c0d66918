import Highlighter.Proofs.Vocabulary.FirstEntry

/-!
# What a vocabulary finds

An entry fits at the start of a text if the text starts with it in any case and a word can end
there (`fit?_eq_some_iff`). A vocabulary finds, at each place that no word character comes before,
the first of its entries that fits (`mem_find_iff`). Its entries come longest first, so what an
entry takes reaches no further than what the vocabulary finds at that place
(`le_of_findSome?_fit?`).
-/

namespace Highlighter.Vocabulary

/-! ### One entry -/

theorem afterEntry?_eq_some_iff {entry text after : Text} :
    afterEntry? entry text = some after ↔
      ∃ matched, text = matched ++ after ∧ matched.map Unicode.fold = entry := by
  induction entry generalizing text with
  | nil =>
      unfold afterEntry?
      simp [eq_comm]
  | cons folded entry ih =>
      constructor
      · intro h
        cases text with
        | nil => cases h
        | cons char rest =>
            unfold afterEntry? at h
            split at h
            · next hfolded =>
              obtain ⟨matched, rfl, rfl⟩ := ih.mp h
              exact ⟨char :: matched, rfl, by rw [hfolded, List.map_cons]⟩
            · cases h
      · rintro ⟨matched, rfl, hmatched⟩
        cases matched with
        | nil => cases hmatched
        | cons char matched =>
            obtain ⟨hfolded, hentry⟩ := List.cons.inj hmatched
            rw [List.cons_append, afterEntry?, if_pos hfolded.symm]
            exact ih.mpr ⟨matched, rfl, hentry⟩

theorem fit?_eq_some_iff {text entry : Text} {size : Nat} :
    fit? text entry = some size ↔
      ∃ matched after, text = matched ++ after ∧ matched.map Unicode.fold = entry ∧
        endsWord after = true ∧ matched.size = size := by
  constructor
  · intro h
    unfold fit? at h
    split at h
    · next after hafter =>
      obtain ⟨matched, rfl, hmatched⟩ := afterEntry?_eq_some_iff.mp hafter
      split at h
      · next hends =>
        refine ⟨matched, after, rfl, hmatched, hends, ?_⟩
        simpa using h
      · cases h
    · cases h
  · rintro ⟨matched, after, rfl, hmatched, hends, rfl⟩
    rw [fit?, afterEntry?_eq_some_iff.mpr ⟨matched, rfl, hmatched⟩]
    simp [hends]

/-! ### The first entry that fits -/

/-- What a shorter entry takes is no larger, though its characters may be of any size: both take
the start of one text. -/
theorem size_le_of_fit? {text entry longer : Text} {size size' : Nat}
    (hlength : entry.length ≤ longer.length) (h : fit? text entry = some size)
    (h' : fit? text longer = some size') : size ≤ size' := by
  obtain ⟨matched, after, rfl, rfl, -, rfl⟩ := fit?_eq_some_iff.mp h
  obtain ⟨matched', after', htext, rfl, -, rfl⟩ := fit?_eq_some_iff.mp h'
  rw [List.length_map, List.length_map] at hlength
  obtain ⟨between, rfl⟩ : matched <+: matched' :=
    List.prefix_of_prefix_length_le ⟨after, rfl⟩ ⟨after', htext.symm⟩ hlength
  simp

theorem le_of_findSome?_fit? {entries : List Text} {text entry : Text} {size size' : Nat}
    (hsorted : entries.Pairwise fun left right => right.length ≤ left.length)
    (h : entries.findSome? (fit? text) = some size) (hentry : entry ∈ entries)
    (hfit : fit? text entry = some size') : size' ≤ size := by
  obtain ⟨before, first, after, rfl, hfirst, hbefore⟩ := List.findSome?_eq_some_iff.mp h
  obtain hmem | hmem := List.mem_append.mp hentry
  · rw [hbefore entry hmem] at hfit
    cases hfit
  obtain rfl | hmem := List.mem_cons.mp hmem
  · rw [hfirst] at hfit
    exact Nat.le_of_eq (Option.some.inj hfit).symm
  · have hlater := (List.pairwise_append.mp hsorted).2.1
    exact size_le_of_fit? ((List.pairwise_cons.mp hlater).1 entry hmem) hfit hfirst

/-! ### The entries of a vocabulary -/

theorem mem_entries_ofEntries_iff {category : Category} {entries : List Text} {folded : Text} :
    folded ∈ (ofEntries category entries).entries ↔
      ∃ entry ∈ entries, entry.map Unicode.fold = folded := by
  simp [ofEntries]

theorem size_eq_length_of_ascii {entry : Text} (h : ∀ char ∈ entry, char.toNat < 0x80) :
    entry.size = entry.length := by
  induction entry with
  | nil => rfl
  | cons char rest ih =>
      obtain ⟨hchar, hrest⟩ := List.forall_mem_cons.mp h
      have hone : char.utf8Size = 1 := Char.utf8Size_eq_one_iff.mpr (Nat.le_of_lt_succ hchar)
      rw [Text.size_cons, List.length_cons, ih hrest, hone, Nat.add_comm]

/-- Entries are sorted by their bytes. What they take is counted in characters first, and for ASCII
the two are one. -/
theorem pairwise_entries_ofEntries {category : Category} {entries : List Text}
    (hascii : ∀ entry ∈ entries, ∀ char ∈ entry, char.toNat < 0x80) :
    (ofEntries category entries).entries.Pairwise fun left right =>
      right.length ≤ left.length := by
  rw [entries_ofEntries, List.pairwise_map]
  apply (pairwise_mergeSort_size entries).imp_of_mem
  intro left right hleft hright h
  rw [size_eq_length_of_ascii (hascii left (List.mem_mergeSort.mp hleft)),
    size_eq_length_of_ascii (hascii right (List.mem_mergeSort.mp hright))] at h
  rwa [List.length_map, List.length_map]

/-! ### A whole text -/

theorem mem_findFrom_cons_iff {vocabulary : Vocabulary} {afterWordChar : Bool} {offset : Nat}
    {char : Char} {rest : Text} {span : Span} :
    span ∈ vocabulary.findFrom afterWordChar offset (char :: rest) ↔
      (afterWordChar = false ∧
        ∃ size, vocabulary.entries.findSome? (fit? (char :: rest)) = some size ∧
          span = ⟨offset, offset + size, vocabulary.category⟩) ∨
      span ∈ vocabulary.findFrom (Unicode.isWordChar char) (offset + char.utf8Size) rest := by
  cases afterWordChar with
  | true => simp [findFrom]
  | false =>
      rw [findFrom]
      cases vocabulary.entries.findSome? (fit? (char :: rest)) with
      | none => simp
      | some size => simp

/-- What is asked of the character before a place passes from a text to its rest. -/
theorem elim_getLast?_cons (char : Char) (before : Text) (afterWordChar : Bool) :
    (char :: before).getLast?.elim afterWordChar Unicode.isWordChar
      = before.getLast?.elim (Unicode.isWordChar char) Unicode.isWordChar := by
  rw [List.getLast?_cons]
  cases before.getLast? <;> rfl

theorem mem_findFrom_iff {vocabulary : Vocabulary} {afterWordChar : Bool} {offset : Nat}
    {text : Text} {span : Span} :
    span ∈ vocabulary.findFrom afterWordChar offset text ↔
      ∃ before rest size, text = before ++ rest ∧ rest ≠ [] ∧
        before.getLast?.elim afterWordChar Unicode.isWordChar = false ∧
        vocabulary.entries.findSome? (fit? rest) = some size ∧
        span = ⟨offset + before.size, offset + before.size + size, vocabulary.category⟩ := by
  induction text generalizing afterWordChar offset with
  | nil =>
      constructor
      · intro h
        simp [findFrom] at h
      · rintro ⟨before, rest, size, htext, hne, -⟩
        exact absurd (List.append_eq_nil_iff.mp htext.symm).2 hne
  | cons char text ih =>
      rw [mem_findFrom_cons_iff, ih]
      constructor
      · rintro (⟨hstart, size, hfirst, rfl⟩ | ⟨before, rest, size, rfl, hne, hstart, hfirst, rfl⟩)
        · exact ⟨[], char :: text, size, rfl, List.cons_ne_nil _ _, hstart, hfirst, rfl⟩
        · refine ⟨char :: before, rest, size, rfl, hne, ?_, hfirst, by simp [Nat.add_assoc]⟩
          rwa [elim_getLast?_cons]
      · rintro ⟨before, rest, size, htext, hne, hstart, hfirst, rfl⟩
        cases before with
        | nil =>
            obtain rfl : char :: text = rest := htext
            exact .inl ⟨hstart, size, hfirst, rfl⟩
        | cons first before =>
            obtain ⟨rfl, rfl⟩ := List.cons.inj htext
            refine .inr ⟨before, rest, size, rfl, hne, ?_, hfirst, by simp [Nat.add_assoc]⟩
            rwa [elim_getLast?_cons] at hstart

/-- **What a vocabulary finds on a line**: at each place that no word character comes before, the
first entry that fits. -/
theorem mem_find_iff {vocabulary : Vocabulary} {line : Text} {span : Span} :
    span ∈ vocabulary.find line ↔
      ∃ before rest size, line = before ++ rest ∧ rest ≠ [] ∧
        before.getLast?.any Unicode.isWordChar = false ∧
        vocabulary.entries.findSome? (fit? rest) = some size ∧
        span = ⟨before.size, before.size + size, vocabulary.category⟩ := by
  have helim : ∀ last? : Option Char,
      last?.elim false Unicode.isWordChar = last?.any Unicode.isWordChar := by
    intro last?
    cases last? <;> rfl
  simp only [find, mem_findFrom_iff, helim, Nat.zero_add]

/-! ### Whole words -/

section WholeWords

variable {category : Category} {entries : List Text} {line : Text}

theorem endsWord_eq {after : Text}
    (h : ∀ char ∈ after, Unicode.continuesWord char = Unicode.isWordChar char) :
    endsWord after = !after.head?.any Unicode.isWordChar := by
  cases after with
  | nil => rfl
  | cons char rest => simp [endsWord, h char List.mem_cons_self]

theorem endsWord_of_not_isWordChar {after : Text}
    (h : after.head?.any Unicode.isWordChar = false) : endsWord after = true := by
  cases after with
  | nil => rfl
  | cons char rest =>
      have hchar : Unicode.continuesWord char = false := by
        apply Bool.eq_false_iff.mpr
        intro hcontinues
        rw [List.head?_cons, Option.any_some, Unicode.isWordChar_of_continuesWord hcontinues] at h
        cases h
      simp [endsWord, hchar]

theorem exists_entry_of_mem_find
    (hagree : ∀ char ∈ line, Unicode.continuesWord char = Unicode.isWordChar char) {span : Span}
    (h : span ∈ (ofEntries category entries).find line) :
    ∃ entry ∈ entries, ∃ before matched after, line = before ++ matched ++ after ∧
      matched.map Unicode.fold = entry.map Unicode.fold ∧
      before.getLast?.any Unicode.isWordChar = false ∧
      after.head?.any Unicode.isWordChar = false ∧
      span = ⟨before.size, before.size + matched.size, category⟩ := by
  obtain ⟨before, rest, size, rfl, -, hbefore, hfirst, rfl⟩ := mem_find_iff.mp h
  obtain ⟨folded, hfolded, hfit⟩ := List.exists_of_findSome?_eq_some hfirst
  obtain ⟨entry, hentry, rfl⟩ := mem_entries_ofEntries_iff.mp hfolded
  obtain ⟨matched, after, rfl, hmatched, hends, rfl⟩ := fit?_eq_some_iff.mp hfit
  have hafter : ∀ char ∈ after, Unicode.continuesWord char = Unicode.isWordChar char := by
    intro char hchar
    apply hagree
    simp [hchar]
  rw [endsWord_eq hafter, Bool.not_eq_true'] at hends
  exact ⟨entry, hentry, before, matched, after, (List.append_assoc ..).symm, hmatched, hbefore,
    hends, rfl⟩

/-- **Where a whole word starts, one is found that reaches at least as far.** -/
theorem exists_mem_find_of_entry (category : Category) {entry before matched after : Text}
    (hascii : ∀ entry ∈ entries, ∀ char ∈ entry, char.toNat < 0x80) (hentry : entry ∈ entries)
    (hne : matched ≠ []) (hmatched : matched.map Unicode.fold = entry.map Unicode.fold)
    (hbefore : before.getLast?.any Unicode.isWordChar = false)
    (hafter : after.head?.any Unicode.isWordChar = false) :
    ∃ size, matched.size ≤ size ∧
      ⟨before.size, before.size + size, category⟩
        ∈ (ofEntries category entries).find (before ++ matched ++ after) := by
  have hmem : entry.map Unicode.fold ∈ (ofEntries category entries).entries :=
    mem_entries_ofEntries_iff.mpr ⟨entry, hentry, rfl⟩
  have hfit : fit? (matched ++ after) (entry.map Unicode.fold) = some matched.size :=
    fit?_eq_some_iff.mpr
      ⟨matched, after, rfl, hmatched, endsWord_of_not_isWordChar hafter, rfl⟩
  have hsome : ((ofEntries category entries).entries.findSome?
      (fit? (matched ++ after))).isSome := by
    rw [List.findSome?_isSome_iff]
    exact ⟨_, hmem, by rw [hfit]; rfl⟩
  obtain ⟨size, hfirst⟩ := Option.isSome_iff_exists.mp hsome
  refine ⟨size, le_of_findSome?_fit? (pairwise_entries_ofEntries hascii) hfirst hmem hfit, ?_⟩
  refine mem_find_iff.mpr ⟨before, matched ++ after, size, List.append_assoc .., ?_, hbefore,
    hfirst, rfl⟩
  exact List.append_ne_nil_of_left_ne_nil hne after

end WholeWords

end Highlighter.Vocabulary
