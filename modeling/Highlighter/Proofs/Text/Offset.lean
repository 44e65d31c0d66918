import Highlighter.Text.Basic

/-!
# Bytes of a text

`within` is the part of a text between two byte offsets (`within_append_append`) and `charAt?` the
character that a byte belongs to. Everything that is found in a text starts and stops at a boundary
(`IsBoundary`), and no character has bytes on both sides of one (`IsBoundary.le_or_le`).
-/

namespace Highlighter.Text

/-- The characters that start from byte `start` to before byte `stop`, in a text that itself starts
at byte `offset`. -/
def within (start stop offset : Nat) : Text → Text
  | [] => []
  | char :: rest =>
    if start ≤ offset ∧ offset < stop then
      char :: within start stop (offset + char.utf8Size) rest
    else within start stop (offset + char.utf8Size) rest

/-- The character that holds the byte at `offset`. -/
def charAt? (offset : Nat) : Text → Option Char
  | [] => none
  | char :: rest =>
    if offset < char.utf8Size then some char else charAt? (offset - char.utf8Size) rest

/-- The offset is one between two characters, or an end of the text. -/
def IsBoundary (text : Text) (offset : Nat) : Prop :=
  ∃ before after, text = before ++ after ∧ before.size = offset

/-! ### Between two offsets -/

section Within

variable {start stop offset : Nat}

theorem within_append (left right : Text) :
    within start stop offset (left ++ right)
      = within start stop offset left ++ within start stop (offset + left.size) right := by
  induction left generalizing offset with
  | nil => simp [within]
  | cons char rest ih =>
      rw [List.cons_append, within, within, ih, size_cons, Nat.add_assoc]
      split <;> rfl

theorem within_eq_nil_of_stop_le {text : Text} (h : stop ≤ offset) :
    within start stop offset text = [] := by
  induction text generalizing offset with
  | nil => rfl
  | cons char rest ih =>
      rw [within, if_neg (by omega)]
      exact ih (by omega)

theorem within_eq_nil_of_le_start {text : Text} (h : offset + text.size ≤ start) :
    within start stop offset text = [] := by
  induction text generalizing offset with
  | nil => rfl
  | cons char rest ih =>
      have hpos := char.utf8Size_pos
      rw [size_cons] at h
      rw [within, if_neg (by omega)]
      exact ih (by omega)

theorem within_eq_self {text : Text} (hstart : start ≤ offset) (hstop : offset + text.size ≤ stop) :
    within start stop offset text = text := by
  induction text generalizing offset with
  | nil => rfl
  | cons char rest ih =>
      have hpos := char.utf8Size_pos
      rw [size_cons] at hstop
      rw [within, if_pos (by omega), ih (by omega) (by omega)]

/-- Between the offsets of a part of a text stands that part. -/
theorem within_append_append (offset : Nat) (before inside after : Text) :
    within (offset + before.size) (offset + before.size + inside.size) offset
      (before ++ inside ++ after) = inside := by
  have hafter : offset + before.size + inside.size ≤ offset + (before ++ inside).size := by
    rw [size_append]
    omega
  rw [within_append, within_append, within_eq_nil_of_le_start (Nat.le_refl _),
    within_eq_self (Nat.le_refl _) (Nat.le_refl _), within_eq_nil_of_stop_le hafter,
    List.nil_append, List.append_nil]

end Within

theorem mem_of_charAt? {text : Text} {offset : Nat} {char : Char}
    (h : charAt? offset text = some char) : char ∈ text := by
  induction text generalizing offset with
  | nil => simp [charAt?] at h
  | cons first rest ih =>
      unfold charAt? at h
      split at h
      · obtain rfl := Option.some.inj h
        exact List.mem_cons_self
      · apply List.mem_cons_of_mem
        exact ih h

/-! ### Boundaries -/

namespace IsBoundary

theorem zero (text : Text) : IsBoundary text 0 :=
  ⟨[], text, rfl, rfl⟩

theorem size (text : Text) : IsBoundary text text.size :=
  ⟨text, [], (List.append_nil text).symm, rfl⟩

theorem of_append (before after : Text) : IsBoundary (before ++ after) before.size :=
  ⟨before, after, rfl, rfl⟩

theorem le_or_le {before after : Text} {char : Char} {offset : Nat}
    (h : IsBoundary (before ++ char :: after) offset) :
    offset ≤ before.size ∨ before.size + char.utf8Size ≤ offset := by
  obtain ⟨left, right, htext, rfl⟩ := h
  obtain ⟨between, rfl, hrest⟩ | ⟨between, rfl, -⟩ := List.append_eq_append_iff.mp htext
  · cases between with
    | nil => simp
    | cons first others =>
        obtain ⟨rfl, -⟩ := List.cons.inj hrest
        simp [← Nat.add_assoc]
  · simp

/-- A boundary past the first part of a text cuts the second part. -/
theorem exists_append_of_le {left right : Text} {offset : Nat}
    (h : IsBoundary (left ++ right) offset) (hle : left.size ≤ offset) :
    ∃ before after, right = before ++ after ∧ left.size + before.size = offset := by
  obtain ⟨before, after, hsplit, rfl⟩ := h
  obtain ⟨between, rfl, hright⟩ | ⟨between, rfl, -⟩ := List.append_eq_append_iff.mp hsplit
  · exact ⟨between, after, hright, (size_append ..).symm⟩
  · have hbetween : Text.size between = 0 := by
      rw [size_append] at hle
      omega
    obtain rfl := (size_eq_zero_iff between).mp hbetween
    exact ⟨[], right, rfl, by simp⟩

end IsBoundary

end Highlighter.Text
