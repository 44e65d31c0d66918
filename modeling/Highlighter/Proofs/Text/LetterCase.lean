import Highlighter.Text.Basic
import Highlighter.Unicode.CaseFold
import Highlighter.Unicode.Lowercase
import Highlighter.Unicode.WordChar
import Mathlib.Data.List.Forall2

/-!
# The case of ASCII letters

`Char.toLower` changes the capital letters of ASCII alone. A test or a map of characters that gives
the same for each of them and its small letter gives the same for all texts that differ in the case
of such letters (`apply_toLower`): the size of a character, its case-folded and its small form, and
the tests for characters of words are such.
-/

namespace Highlighter

namespace Unicode

theorem toLower_eq_self {char : Char} (h : 0x5A < char.toNat) : char.toLower = char := by
  have hcapital : ¬ (char.val ≥ 'A'.val ∧ char.val ≤ 'Z'.val) := by
    rintro ⟨-, hle⟩
    exact Nat.not_lt.mpr hle h
  exact dif_neg hcapital

/-- What is the same for every ASCII character and its small form is so for all characters. -/
theorem apply_toLower {α : Type} {f : Char → α}
    (h : ∀ code < 0x80, f (Char.ofNat code).toLower = f (Char.ofNat code)) (char : Char) :
    f char.toLower = f char := by
  by_cases hascii : char.toNat < 0x80
  · have hchar := h char.toNat hascii
    rwa [Char.ofNat_toNat] at hchar
  · rw [toLower_eq_self (by omega)]

theorem utf8Size_toLower (char : Char) : char.toLower.utf8Size = char.utf8Size :=
  apply_toLower (by decide) char

theorem fold_toLower (char : Char) : fold char.toLower = fold char :=
  apply_toLower (by decide) char

theorem isWordChar_toLower (char : Char) : isWordChar char.toLower = isWordChar char :=
  apply_toLower (by decide) char

theorem continuesWord_toLower (char : Char) : continuesWord char.toLower = continuesWord char :=
  apply_toLower (by decide +kernel) char

theorem lowerChar_toLower (char : Char) : lowerChar char.toLower = lowerChar char :=
  apply_toLower (by decide) char

theorem isCased_toLower (char : Char) : isCased char.toLower = isCased char :=
  apply_toLower (by decide) char

theorem isCaseIgnorable_toLower (char : Char) :
    isCaseIgnorable char.toLower = isCaseIgnorable char :=
  apply_toLower (by decide) char

end Unicode

namespace Text

/-- Texts that differ at most in the case of ASCII letters. -/
def SameLetters (left right : Text) : Prop :=
  left.map Char.toLower = right.map Char.toLower

instance (left right : Text) : Decidable (SameLetters left right) :=
  inferInstanceAs (Decidable (left.map Char.toLower = right.map Char.toLower))

theorem size_map_toLower (text : Text) : size (text.map Char.toLower) = size text := by
  induction text with
  | nil => rfl
  | cons char rest ih => rw [List.map_cons, size_cons, size_cons, ih, Unicode.utf8Size_toLower]

theorem map_fold_map_toLower (text : Text) :
    (text.map Char.toLower).map Unicode.fold = text.map Unicode.fold := by
  rw [List.map_map]
  exact List.map_congr_left fun char _ => Unicode.fold_toLower char

theorem toLower_eq_dot_iff (char : Char) : char.toLower = '.' ↔ char = '.' :=
  decide_eq_decide.mp (Unicode.apply_toLower (f := fun char => decide (char = '.')) (by decide) char)

theorem toLower_eq_slash_iff (char : Char) : char.toLower = '/' ↔ char = '/' :=
  decide_eq_decide.mp (Unicode.apply_toLower (f := fun char => decide (char = '/')) (by decide) char)

theorem SameLetters.ne_nil {left right : Text} (h : SameLetters left right) (hne : right ≠ []) :
    left ≠ [] := by
  rintro rfl
  exact hne (List.map_eq_nil_iff.mp h.symm)

/-- A mark that is no letter is in both texts or in none. -/
theorem SameLetters.mem_iff {left right : Text} {mark : Char} (h : SameLetters left right)
    (hmark : ∀ char : Char, char.toLower = mark ↔ char = mark) : mark ∈ left ↔ mark ∈ right := by
  have hmap (text : Text) : mark ∈ text.map Char.toLower ↔ mark ∈ text := by
    simp [List.mem_map, hmark]
  rw [← hmap left, h, hmap right]

theorem SameLetters.dropWhile_dots {left right : Text} (h : SameLetters left right) :
    SameLetters (left.dropWhile (· = '.')) (right.dropWhile (· = '.')) := by
  have hmap (text : Text) : (text.map Char.toLower).dropWhile (· = '.')
      = (text.dropWhile (· = '.')).map Char.toLower := by
    rw [List.dropWhile_map]
    congr 2
    funext char
    exact decide_eq_decide.mpr (toLower_eq_dot_iff char)
  rw [SameLetters, ← hmap, ← hmap, h]

theorem map_map_toLower_eq {entries entries' : List Text}
    (h : List.Forall₂ SameLetters entries entries') :
    entries.map (·.map Char.toLower) = entries'.map (·.map Char.toLower) := by
  rw [← List.forall₂_eq_eq_eq, List.forall₂_map_left_iff, List.forall₂_map_right_iff]
  exact h

end Text

end Highlighter
