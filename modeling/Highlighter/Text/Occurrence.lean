import Highlighter.Text.Basic

/-!
# Occurrences of one text in another

`cut?` splits a text at the leftmost occurrence of a needle. The empty needle occurs nowhere, so
what follows an occurrence is always shorter than the text (`length_after_lt`), and a scan that
goes on after each occurrence ends.
-/

namespace Highlighter.Text

/-- What follows `start` in `text`, if the text starts with it. -/
def after? : (start text : Text) → Option Text
  | [], text => some text
  | _ :: _, [] => none
  | expected :: start, char :: text => if expected = char then after? start text else none

theorem after?_eq_some_iff {start text after : Text} :
    after? start text = some after ↔ text = start ++ after := by
  induction start generalizing text with
  | nil => simp [after?, eq_comm]
  | cons expected start ih =>
    cases text with
    | nil => simp [after?]
    | cons char text =>
      by_cases h : expected = char <;> simp [after?, h, ih, eq_comm]

/-- The texts before and after the leftmost position from which `start` can be read. -/
def cutAt? (start : Text) : Text → Option (Text × Text)
  | [] => none
  | char :: rest =>
    match after? start (char :: rest) with
    | some after => some ([], after)
    | none => (cutAt? start rest).map fun (before, after) => (char :: before, after)

/-- The texts before and after the leftmost occurrence of a needle. -/
def cut? (needle text : Text) : Option (Text × Text) :=
  if needle = [] then none else cutAt? needle text

theorem eq_append_of_cutAt? {start text before after : Text}
    (h : cutAt? start text = some (before, after)) : text = before ++ start ++ after := by
  induction text generalizing before with
  | nil => simp [cutAt?] at h
  | cons char rest ih =>
    rw [cutAt?] at h
    split at h
    · next found hfound =>
      simp only [Option.some.injEq, Prod.mk.injEq] at h
      obtain ⟨rfl, rfl⟩ := h
      simpa using after?_eq_some_iff.1 hfound
    · next =>
      obtain ⟨⟨inner, tail⟩, hcut, hpair⟩ := Option.map_eq_some_iff.1 h
      simp only [Prod.mk.injEq] at hpair
      obtain ⟨rfl, rfl⟩ := hpair
      simp [ih hcut]

/-- An occurrence splits the text into what is before it, the needle, and what is after it. -/
theorem eq_append_of_cut? {needle text before after : Text}
    (h : cut? needle text = some (before, after)) : text = before ++ needle ++ after := by
  unfold cut? at h
  split at h
  · simp at h
  · exact eq_append_of_cutAt? h

theorem ne_nil_of_cut? {needle text before after : Text}
    (h : cut? needle text = some (before, after)) : needle ≠ [] := by
  rintro rfl
  simp [cut?] at h

/-- What follows an occurrence is shorter than the text. -/
theorem length_after_lt {needle text before after : Text}
    (h : cut? needle text = some (before, after)) : after.length < text.length := by
  have hpos := List.length_pos_iff.2 (ne_nil_of_cut? h)
  rw [eq_append_of_cut? h]
  simp
  omega

/-- The byte offset of the leftmost occurrence of a needle. -/
def find? (needle text : Text) : Option Nat :=
  (cut? needle text).map fun (before, _) => size before

end Highlighter.Text
