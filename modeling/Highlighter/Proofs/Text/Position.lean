import Highlighter.Proofs.Text.Slice
import Mathlib.Data.Nat.Find

/-!
# Occurrences from a position on

A search that goes on from a byte offset takes the least offset, from there on, at which the bytes
of the needle stand (`FirstFrom`). To cut what is left of a text is to do this
(`firstFrom_of_cut?`, `not_occursFrom_append_iff`). Taking occurrences one after another, each
from where the last one ended, leaves no choice and comes to an end (`existsUnique_occurrences`).
-/

namespace Highlighter.Text

/-- The bytes of the needle stand at the offset. -/
def OccursAt (needle text : Text) (offset : Nat) : Prop :=
  needle.utf8 <+: text.utf8.drop offset

instance (needle text : Text) (offset : Nat) : Decidable (OccursAt needle text offset) :=
  inferInstanceAs (Decidable (needle.utf8 <+: text.utf8.drop offset))

/-- The needle stands somewhere at or after the position. -/
def OccursFrom (needle text : Text) (position : Nat) : Prop :=
  ∃ offset, position ≤ offset ∧ OccursAt needle text offset

/-- The needle stands at the offset and, from the position on, nowhere before it. -/
structure FirstFrom (needle text : Text) (position offset : Nat) : Prop where
  le : position ≤ offset
  occurs : OccursAt needle text offset
  least : ∀ other < offset, position ≤ other → ¬OccursAt needle text other

/-- The occurrences that are found when each one is searched from where the one before it ended. -/
inductive Occurrences (needle text : Text) : Nat → List Nat → Prop
  | done {position : Nat} (h : ¬OccursFrom needle text position) :
      Occurrences needle text position []
  | next {position offset : Nat} {later : List Nat} (hfirst : FirstFrom needle text position offset)
      (h : Occurrences needle text (offset + needle.size) later) :
      Occurrences needle text position (offset :: later)

variable {needle text : Text} {position offset : Nat} {offsets : List Nat}

/-! ### One occurrence -/

theorem OccursAt.add_size_le (hne : needle ≠ []) (h : OccursAt needle text offset) :
    offset + needle.size ≤ text.size := by
  obtain ⟨before, after, rfl, rfl⟩ := (utf8_isPrefix_drop_iff hne).mp h
  simp only [size_append]
  omega

theorem FirstFrom.occursFrom (h : FirstFrom needle text position offset) :
    OccursFrom needle text position :=
  ⟨offset, h.le, h.occurs⟩

theorem FirstFrom.unique {offset' : Nat} (h : FirstFrom needle text position offset)
    (h' : FirstFrom needle text position offset') : offset = offset' := by
  apply Nat.le_antisymm
  · exact Nat.le_of_not_lt fun hlt => h.least offset' hlt h'.le h'.occurs
  · exact Nat.le_of_not_lt fun hlt => h'.least offset hlt h.le h.occurs

theorem OccursFrom.exists_firstFrom (h : OccursFrom needle text position) :
    ∃ offset, FirstFrom needle text position offset := by
  classical
  obtain ⟨hle, hoccurs⟩ := Nat.find_spec h
  refine ⟨Nat.find h, hle, hoccurs, ?_⟩
  intro other hlt hother hoccursOther
  exact Nat.find_min h hlt ⟨hother, hoccursOther⟩

/-! ### What is left of a text -/

theorem occursAt_append_iff (done rest : Text) :
    OccursAt needle (done ++ rest) (done.size + offset) ↔ OccursAt needle rest offset := by
  rw [OccursAt, ← List.drop_drop, drop_size_utf8_append, OccursAt]

theorem occursFrom_append_iff (done rest : Text) :
    OccursFrom needle (done ++ rest) done.size ↔ ∃ offset, OccursAt needle rest offset := by
  constructor
  · rintro ⟨offset, hle, hoccurs⟩
    obtain ⟨distance, rfl⟩ := Nat.exists_eq_add_of_le hle
    exact ⟨distance, (occursAt_append_iff done rest).mp hoccurs⟩
  · rintro ⟨distance, hoccurs⟩
    exact ⟨done.size + distance, Nat.le_add_right .., (occursAt_append_iff done rest).mpr hoccurs⟩

theorem not_occursFrom_append_iff (hne : needle ≠ []) (done rest : Text) :
    ¬OccursFrom needle (done ++ rest) done.size ↔ cut? needle rest = none := by
  rw [cut?_eq_none_iff hne, occursFrom_append_iff]
  apply not_congr
  constructor
  · rintro ⟨offset, hoccurs⟩
    obtain ⟨before, after, rfl, -⟩ := (utf8_isPrefix_drop_iff hne).mp hoccurs
    exact ⟨before, after, rfl⟩
  · rintro ⟨before, after, rfl⟩
    exact ⟨Text.size before, (utf8_isPrefix_drop_iff hne).mpr ⟨before, after, rfl, rfl⟩⟩

/-- **To cut what is left of a text** is to find the first occurrence from there on. -/
theorem firstFrom_of_cut? {done rest before after : Text}
    (h : cut? needle rest = some (before, after)) :
    FirstFrom needle (done ++ rest) done.size (done.size + before.size) := by
  have hleftmost := cut?_eq_some_iff.mp h
  have hoccurs : OccursAt needle rest before.size :=
    (utf8_isPrefix_drop_iff hleftmost.ne_nil).mpr ⟨before, after, hleftmost.split, rfl⟩
  refine ⟨Nat.le_add_right .., (occursAt_append_iff done rest).mpr hoccurs, ?_⟩
  intro other hlt hle hother
  obtain ⟨distance, rfl⟩ := Nat.exists_eq_add_of_le hle
  obtain ⟨before', after', hsplit, hdistance⟩ :=
    (utf8_isPrefix_drop_iff hleftmost.ne_nil).mp ((occursAt_append_iff done rest).mp hother)
  have hleast := hleftmost.least before' after' hsplit
  omega

/-! ### One occurrence after another -/

theorem Occurrences.unique {offsets' : List Nat} (h : Occurrences needle text position offsets)
    (h' : Occurrences needle text position offsets') : offsets = offsets' := by
  induction h generalizing offsets' with
  | done hnone =>
      cases h' with
      | done => rfl
      | next hfirst => exact absurd hfirst.occursFrom hnone
  | next hfirst _ ih =>
      cases h' with
      | done hnone => exact absurd hfirst.occursFrom hnone
      | next hfirst' hlater =>
          obtain rfl := hfirst.unique hfirst'
          rw [ih hlater]

theorem exists_occurrences (hne : needle ≠ []) (text : Text) (position : Nat) :
    ∃ offsets, Occurrences needle text position offsets := by
  -- what is left of the text gets smaller from one occurrence to the next
  induction hleft : text.size - position using Nat.strongRecOn generalizing position with
  | ind left ih =>
      by_cases hoccurs : OccursFrom needle text position
      · obtain ⟨offset, hfirst⟩ := hoccurs.exists_firstFrom
        have hsize := mt (size_eq_zero_iff needle).mp hne
        have hle := hfirst.le
        have hstop := hfirst.occurs.add_size_le hne
        obtain ⟨later, hlater⟩ := ih (text.size - (offset + needle.size)) (by omega) _ rfl
        exact ⟨offset :: later, .next hfirst hlater⟩
      · exact ⟨[], .done hoccurs⟩

theorem existsUnique_occurrences (hne : needle ≠ []) (text : Text) (position : Nat) :
    ∃! offsets, Occurrences needle text position offsets := by
  obtain ⟨offsets, h⟩ := exists_occurrences hne text position
  exact ⟨offsets, h, fun _ h' => h'.unique h⟩

theorem Occurrences.le_of_mem (h : Occurrences needle text position offsets) :
    ∀ offset ∈ offsets, position ≤ offset := by
  induction h with
  | done => simp
  | next hfirst _ ih =>
      refine List.forall_mem_cons.mpr ⟨hfirst.le, ?_⟩
      intro other hother
      have hle := hfirst.le
      have hlater := ih other hother
      omega

/-- Occurrences that are taken one after another do not overlap. -/
theorem Occurrences.pairwise (h : Occurrences needle text position offsets) :
    offsets.Pairwise fun left right => left + needle.size ≤ right := by
  induction h with
  | done => exact .nil
  | next _ hlater ih => exact List.pairwise_cons.mpr ⟨hlater.le_of_mem, ih⟩

end Highlighter.Text
