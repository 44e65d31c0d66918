import Highlighter.Proofs.Text.Occurrence
import Highlighter.Settings

/-!
# The last line for a key

The value that counts for a key is given by the last line that gives it one (`value?_eq_some_iff`).
`Assigns` says what it is for a line to give a value, without a word of how lines are read.
-/

namespace Highlighter

theorem Text.mem_of_mem_trim {text : Text} {char : Char} (h : char ∈ text.trim) : char ∈ text := by
  have hend := (List.dropWhile_sublist _).subset (List.mem_reverse.mp h)
  exact (List.dropWhile_sublist _).subset (List.mem_reverse.mp hend)

namespace Settings

/-- The line gives a value to a key. Blanks around it set aside, it is no comment, and around its
first equals sign stand the key, in whatever letters, and the value. -/
structure Assigns (line key value : Text) : Prop where
  not_comment : line.trim.head? ≠ some '#'
  parts : ∃ before after, Text.Leftmost ['='] line.trim before after ∧
    Unicode.lowercase before.trim = key ∧ after.trim = value

/-- The value is the one that the last line for the key gives it. -/
def Last (text key value : Text) : Prop :=
  ∃ before line after, Text.pieces '\n' text = before ++ line :: after ∧ Assigns line key value ∧
    ∀ later ∈ after, ∀ other, ¬Assigns later key other

variable {text line key value : Text}

theorem assignment?_eq_some_iff : assignment? line = some (key, value) ↔ Assigns line key value := by
  dsimp only [assignment?]
  constructor
  · intro h
    split at h
    · cases h
    · next hcomment =>
      obtain ⟨⟨before, after⟩, hcut, hpair⟩ := Option.map_eq_some_iff.mp h
      obtain ⟨hkey, hvalue⟩ := Prod.mk.inj hpair
      exact ⟨hcomment, before, after, Text.cut?_eq_some_iff.mp hcut, hkey, hvalue⟩
  · rintro ⟨hcomment, before, after, hleftmost, rfl, rfl⟩
    rw [if_neg hcomment, Text.cut?_eq_some_iff.mpr hleftmost]
    rfl

theorem lookup_reverse_eq_some_iff {entries : List (Text × Text)} :
    entries.reverse.lookup key = some value ↔
      ∃ before after, entries = before ++ (key, value) :: after ∧
        ∀ entry ∈ after, entry.1 ≠ key := by
  rw [List.lookup_eq_some_iff]
  constructor
  · rintro ⟨later, earlier, hsplit, hlater⟩
    refine ⟨earlier.reverse, later.reverse, ?_, ?_⟩
    · simpa using congrArg List.reverse hsplit
    · intro entry hentry
      exact (bne_iff_ne.mp (hlater entry (List.mem_reverse.mp hentry))).symm
  · rintro ⟨before, after, rfl, hafter⟩
    refine ⟨after.reverse, before.reverse, by simp, ?_⟩
    intro entry hentry
    exact bne_iff_ne.mpr (hafter entry (List.mem_reverse.mp hentry)).symm

/-- **The last line for a key counts.** -/
theorem value?_eq_some_iff {key : String} :
    value? text key = some value ↔ Last text key.toList value := by
  rw [value?, lookup_reverse_eq_some_iff, assignments]
  constructor
  · rintro ⟨earlier, later, hsplit, hlater⟩
    obtain ⟨before, rest, hlines, -, hrest⟩ := List.filterMap_eq_append_iff.mp hsplit
    -- between the line of an earlier entry and the one for the key some lines may give no value
    obtain ⟨silent, line, after, rfl, -, hline, rfl⟩ := List.filterMap_eq_cons_iff.mp hrest
    refine ⟨before ++ silent, line, after, by simp [hlines], assignment?_eq_some_iff.mp hline, ?_⟩
    intro other hother value hassigns
    have hmem := List.mem_filterMap.mpr ⟨other, hother, assignment?_eq_some_iff.mpr hassigns⟩
    exact hlater _ hmem rfl
  · rintro ⟨before, line, after, hlines, hassigns, hlast⟩
    refine ⟨before.filterMap assignment?, after.filterMap assignment?, ?_, ?_⟩
    · rw [hlines, List.filterMap_append,
        List.filterMap_cons_some (assignment?_eq_some_iff.mpr hassigns)]
    · rintro ⟨other, value⟩ hentry rfl
      obtain ⟨line, hline, hassignment⟩ := List.mem_filterMap.mp hentry
      exact hlast line hline value (assignment?_eq_some_iff.mp hassignment)

theorem Last.eq {key : String} {other : Text} (h : Last text key.toList value)
    (h' : Last text key.toList other) : value = other :=
  Option.some.inj ((value?_eq_some_iff.mpr h).symm.trans (value?_eq_some_iff.mpr h'))

end Settings

end Highlighter
