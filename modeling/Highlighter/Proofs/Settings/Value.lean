import Highlighter.Proofs.Unicode.Lowercase
import Highlighter.Settings

/-!
# The words of a settings file

A mode is named by one of two words, and a switch is on for one of four. Letters count alike in small
and capital form, and these are the ASCII letters alone: a switch is read by the small form of its
value, but no other character has one of these letters as its small form (`isOn_eq_true_iff`).
-/

namespace Highlighter

/-- A name of a mode, in whatever letters and with whatever blanks around it. -/
inductive Mode.Named (name : Text) : Mode → Prop where
  | light (h : Text.SameLetters name.trim "light".toList) : Named name .light
  | dark (h : Text.SameLetters name.trim "dark".toList) : Named name .dark

namespace Settings

/-- The words that switch something on. -/
def onWords : List Text :=
  ["true".toList, "yes".toList, "on".toList, "1".toList]

/-- A value that switches something on: one of four words, in whatever letters. Any other value
switches it off. -/
def On (value : Text) : Prop :=
  ∃ word ∈ onWords, Text.SameLetters value word

end Settings

theorem Mode.ofName?_eq_some_iff {name : Text} {mode : Mode} :
    ofName? name = some mode ↔ Named name mode := by
  have hlight : "light".toList.map Char.toLower = "light".toList := by decide
  have hdark : "dark".toList.map Char.toLower = "dark".toList := by decide
  dsimp only [ofName?]
  constructor
  · intro h
    split at h
    · next hname =>
      cases h
      exact .light (hname.trans hlight.symm)
    · split at h
      · next hname =>
        cases h
        exact .dark (hname.trans hdark.symm)
      · cases h
  · intro h
    cases h with
    | light h => rw [if_pos (h.trans hlight)]
    | dark h =>
        have hne : name.trim.map Char.toLower ≠ "light".toList := by
          rw [h]
          decide
        rw [if_neg hne, if_pos (h.trans hdark)]

theorem Mode.ofName?_eq_none_iff {name : Text} :
    ofName? name = none ↔ ∀ mode, ¬Named name mode := by
  simp only [← ofName?_eq_some_iff, Option.eq_none_iff_forall_ne_some]

theorem Settings.isOn_eq_true_iff {value : Text} : isOn value = true ↔ On value := by
  have hplain : onWords.all (fun word => word.all fun char =>
      Unicode.IsSmall char ∧ char.toNat < 0x80 ∧ char ≠ 'k') = true := by
    decide +kernel
  have hword (word : Text) (hmem : word ∈ onWords) :
      Unicode.lowercase value = word ↔ Text.SameLetters value word := by
    apply Unicode.lowercase_eq_iff_sameLetters
    intro char hchar
    have hchars := List.all_eq_true.mp hplain word hmem
    exact of_decide_eq_true (List.all_eq_true.mp hchars char hchar)
  have hon : isOn value = true ↔ ∃ word ∈ onWords, Unicode.lowercase value = word := by
    simp [isOn, onWords, or_assoc]
  rw [hon, On]
  exact exists_congr fun word => and_congr_right fun hmem => hword word hmem

end Highlighter
