import Highlighter.Text.Occurrence

/-!
# Occurrences

`cut?` cuts a text at the leftmost occurrence of a needle (`cut?_eq_some_iff`). In a text with a
separator that the needle does not hold, that is the one before the separator, if there is one, and
else the one after it (`cut?_append_cons`).
-/

namespace Highlighter.Text

/-! ### Leftmost occurrences

`cut?` cuts a text at the occurrence of a needle that no other one comes before
(`cut?_eq_some_iff`), and fails only on a text without an occurrence (`cut?_eq_none_iff`). -/

/-- The needle stands between the two texts, and nowhere further left. -/
structure Leftmost (needle text before after : Text) : Prop where
  ne_nil : needle ≠ []
  split : text = before ++ needle ++ after
  least : ∀ before' after', text = before' ++ needle ++ after' → before.size ≤ before'.size

theorem append_inj_of_size_eq {left right left' right' : Text}
    (h : left ++ right = left' ++ right') (hsize : left.size = left'.size) :
    left = left' ∧ right = right' := by
  obtain ⟨between, rfl, rfl⟩ | ⟨between, rfl, rfl⟩ := List.append_eq_append_iff.mp h
  all_goals
    have hbetween : between = [] := by
      rw [← size_eq_zero_iff]
      rw [size_append] at hsize
      omega
    simp [hbetween]

theorem size_le_of_cutAt? {needle text before after before' after' : Text}
    (h : cutAt? needle text = some (before, after)) (h' : text = before' ++ needle ++ after') :
    before.size ≤ before'.size := by
  induction text generalizing before before' with
  | nil => simp [cutAt?] at h
  | cons char rest ih =>
      rw [cutAt?] at h
      split at h
      · obtain ⟨rfl, -⟩ := Prod.mk.inj (Option.some.inj h)
        exact Nat.zero_le _
      · next hmiss =>
        obtain ⟨⟨inner, tail⟩, hcut, hpair⟩ := Option.map_eq_some_iff.mp h
        obtain ⟨rfl, rfl⟩ := Prod.mk.inj hpair
        cases before' with
        | nil =>
            rw [List.nil_append] at h'
            rw [after?_eq_some_iff.mpr h'] at hmiss
            cases hmiss
        | cons first others =>
            obtain ⟨rfl, hrest⟩ := List.cons.inj h'
            exact Nat.add_le_add_left (ih hcut hrest) _

theorem cutAt?_ne_none {needle : Text} (hne : needle ≠ []) (before after : Text) :
    cutAt? needle (before ++ needle ++ after) ≠ none := by
  induction before with
  | nil =>
      obtain ⟨first, others, rfl⟩ := List.exists_cons_of_ne_nil hne
      have hafter : after? (first :: others) (first :: (others ++ after)) = some after :=
        after?_eq_some_iff.mpr rfl
      simp [cutAt?, hafter]
  | cons char before ih =>
      rw [List.cons_append, List.cons_append, cutAt?]
      split
      · simp
      · simpa using ih

theorem leftmost_of_cut? {needle text before after : Text}
    (h : cut? needle text = some (before, after)) : Leftmost needle text before after := by
  refine ⟨ne_nil_of_cut? h, eq_append_of_cut? h, ?_⟩
  intro before' after' hsplit
  rw [cut?, if_neg (ne_nil_of_cut? h)] at h
  exact size_le_of_cutAt? h hsplit

theorem cut?_eq_none_iff {needle text : Text} (hne : needle ≠ []) :
    cut? needle text = none ↔ ¬needle <:+: text := by
  rw [cut?, if_neg hne]
  constructor
  · rintro h ⟨before, after, rfl⟩
    exact cutAt?_ne_none hne before after h
  · intro h
    cases hcut : cutAt? needle text with
    | none => rfl
    | some found => exact absurd ⟨found.1, found.2, (eq_append_of_cutAt? hcut).symm⟩ h

/-- **A text is cut at the leftmost occurrence of the needle.** There is one such place only. -/
theorem cut?_eq_some_iff {needle text before after : Text} :
    cut? needle text = some (before, after) ↔ Leftmost needle text before after := by
  refine ⟨leftmost_of_cut?, ?_⟩
  intro h
  cases hcut : cut? needle text with
  | none => exact absurd ⟨before, after, h.split.symm⟩ ((cut?_eq_none_iff h.ne_nil).mp hcut)
  | some found =>
      obtain ⟨before', after'⟩ := found
      have h' := leftmost_of_cut? hcut
      have hsize : before'.size = before.size :=
        Nat.le_antisymm (h'.least _ _ h.split) (h.least _ _ h'.split)
      have hsplit := h'.split.symm.trans h.split
      rw [List.append_assoc, List.append_assoc] at hsplit
      obtain ⟨rfl, hrest⟩ := append_inj_of_size_eq hsplit hsize
      rw [List.append_cancel_left hrest]

theorem find?_eq_some_iff {needle text : Text} {start : Nat} :
    find? needle text = some start ↔
      ∃ before after, Leftmost needle text before after ∧ before.size = start := by
  rw [find?, Option.map_eq_some_iff]
  constructor
  · rintro ⟨⟨before, after⟩, hcut, rfl⟩
    exact ⟨before, after, cut?_eq_some_iff.mp hcut, rfl⟩
  · rintro ⟨before, after, hleftmost, rfl⟩
    exact ⟨(before, after), cut?_eq_some_iff.mpr hleftmost, rfl⟩

/-! ### Occurrences and line breaks

A needle without a given separator cannot lie across one, so its leftmost occurrence in a text with
a separator is the one before the separator, if there is one, and else the one after it
(`cut?_append_cons`). -/

variable {separator : Char} {needle : Text}

theorem after?_append_cons (h : separator ∉ needle) (left right : Text) :
    after? needle (left ++ separator :: right)
      = (after? needle left).map (· ++ separator :: right) := by
  induction needle generalizing left with
  | nil => rfl
  | cons expected rest ih =>
      obtain ⟨hne, hrest⟩ := not_or.mp (mt List.mem_cons.mpr h)
      cases left with
      | nil => simp [after?, Ne.symm hne]
      | cons char others =>
          rw [List.cons_append, after?, after?]
          split
          · exact ih hrest others
          · rfl

theorem cutAt?_append_cons (hne : needle ≠ []) (h : separator ∉ needle) (left right : Text) :
    cutAt? needle (left ++ separator :: right)
      = match cutAt? needle left with
        | some (before, after) => some (before, after ++ separator :: right)
        | none => (cutAt? needle right).map fun (before, after) =>
            (left ++ separator :: before, after) := by
  induction left with
  | nil =>
      have hmiss : after? needle (separator :: right) = none := by
        have hafter := after?_append_cons h [] right
        obtain ⟨expected, rest, rfl⟩ := List.exists_cons_of_ne_nil hne
        simpa [after?] using hafter
      simp [cutAt?, hmiss]
  | cons char rest ih =>
      rw [List.cons_append, cutAt?, ← List.cons_append, after?_append_cons h, cutAt?, ih]
      cases after? needle (char :: rest) with
      | some after => rfl
      | none =>
          cases cutAt? needle rest with
          | some found => rfl
          | none => simp [Function.comp_def]

/-- **No needle lies across a separator that it does not hold.** -/
theorem cut?_append_cons (h : separator ∉ needle) (left right : Text) :
    cut? needle (left ++ separator :: right)
      = match cut? needle left with
        | some (before, after) => some (before, after ++ separator :: right)
        | none => (cut? needle right).map fun (before, after) =>
            (left ++ separator :: before, after) := by
  by_cases hne : needle = []
  · simp [cut?, hne]
  · simp only [cut?, if_neg hne]
    exact cutAt?_append_cons hne h left right

end Highlighter.Text
