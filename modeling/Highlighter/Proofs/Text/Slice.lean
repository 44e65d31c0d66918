import Highlighter.Proofs.Text.Occurrence
import Highlighter.Proofs.Text.Offset
import Highlighter.Text.Encoding
import Mathlib.Data.List.Infix

/-!
# Slices at byte offsets

A reader that keeps byte offsets into the UTF-8 form of a text may slice the text only where a
character starts or the text ends; any other slice is refused (`slice?_eq_some_iff`). A search
through the bytes never leads off these places. UTF-8 synchronizes itself: a byte that starts a
character is no byte inside one, and the bytes of one character do not start those of another. So
the bytes of a needle stand only where its characters do (`utf8_isPrefix_drop_iff`), and the search
finds the leftmost occurrence (`indexOf?_eq_find?`).
-/

namespace Highlighter.Text

/-- Whether the byte at the offset is the first one of a character, or the text ends there. -/
def isCharBoundary (text : Text) (offset : Nat) : Bool :=
  offset = text.size || text.utf8[offset]?.any fun byte => byte.IsUTF8FirstByte

/-- The part of a text between two byte offsets. No part lies between offsets that are out of order,
past the end, or inside a character. -/
def slice? (text : Text) (start stop : Nat) : Option Text :=
  if start ≤ stop ∧ text.isCharBoundary start ∧ text.isCharBoundary stop then
    some (within start stop 0 text)
  else none

/-- The least byte offset from which the bytes of a needle can be read. Those of the empty needle
can be read everywhere. -/
def indexOf? (needle text : Text) : Option Nat :=
  text.utf8.tails.findIdx? fun bytes => needle.utf8.isPrefixOf bytes

/-! ### Boundaries -/

@[simp]
theorem utf8_cons (char : Char) (rest : Text) :
    utf8 (char :: rest) = String.utf8EncodeChar char ++ utf8 rest := by
  simp [utf8]

theorem isCharBoundary_cons_iff {char : Char} {rest : Text} {offset : Nat} :
    isCharBoundary (char :: rest) offset = true ↔
      offset = 0 ∨ char.utf8Size ≤ offset ∧
        isCharBoundary rest (offset - char.utf8Size) = true := by
  have hpos := char.utf8Size_pos
  unfold isCharBoundary
  rw [utf8_cons, size_cons]
  by_cases hchar : offset < char.utf8Size
  · have hbyte : offset < (String.utf8EncodeChar char).length := by simpa using hchar
    rw [List.getElem?_append_left hbyte, List.getElem?_eq_getElem hbyte, Option.any_some]
    simp
    omega
  · rw [List.getElem?_append_right (by simpa using hchar), String.length_utf8EncodeChar]
    simp only [Bool.or_eq_true, decide_eq_true_eq]
    constructor
    · rintro (h | h)
      · exact .inr ⟨by omega, .inl (by omega)⟩
      · exact .inr ⟨by omega, .inr h⟩
    · rintro (h | ⟨-, h | h⟩)
      · omega
      · exact .inl (by omega)
      · exact .inr h

theorem isBoundary_cons_iff {char : Char} {rest : Text} {offset : Nat} :
    IsBoundary (char :: rest) offset ↔
      offset = 0 ∨ char.utf8Size ≤ offset ∧ IsBoundary rest (offset - char.utf8Size) := by
  constructor
  · rintro ⟨before, after, htext, rfl⟩
    cases before with
    | nil => exact .inl rfl
    | cons first others =>
        obtain ⟨rfl, rfl⟩ := List.cons.inj htext
        exact .inr ⟨Nat.le_add_right .., others, after, rfl, by simp⟩
  · rintro (rfl | ⟨hle, before, after, rfl, hsize⟩)
    · exact IsBoundary.zero _
    · exact ⟨char :: before, after, rfl, by rw [size_cons, hsize]; omega⟩

/-- **Told by one byte**: slices may start and stop between two characters, and nowhere else. -/
theorem isCharBoundary_iff {text : Text} {offset : Nat} :
    isCharBoundary text offset = true ↔ IsBoundary text offset := by
  induction text generalizing offset with
  | nil =>
      constructor
      · intro h
        obtain rfl : offset = size [] := by
          simpa only [isCharBoundary, utf8, List.flatMap_nil, List.getElem?_nil, Option.any_none,
            Bool.or_false, decide_eq_true_eq] using h
        exact IsBoundary.size []
      · rintro ⟨before, after, htext, rfl⟩
        obtain ⟨rfl, -⟩ := List.append_eq_nil_iff.mp htext.symm
        rfl
  | cons char rest ih => rw [isCharBoundary_cons_iff, isBoundary_cons_iff, ih]

/-- **A slice is taken** exactly where it cuts no character. -/
theorem slice?_eq_some_iff {text inside : Text} {start stop : Nat} :
    slice? text start stop = some inside ↔
      ∃ before after, text = before ++ inside ++ after ∧ before.size = start ∧
        before.size + inside.size = stop := by
  constructor
  · intro h
    unfold slice? at h
    split at h
    · next hcut =>
      obtain ⟨hle, hstart, hstop⟩ := hcut
      obtain ⟨before, rest, rfl, rfl⟩ := isCharBoundary_iff.mp hstart
      obtain ⟨left, after, htext, rfl⟩ := isCharBoundary_iff.mp hstop
      obtain ⟨between, rfl, rfl⟩ :
          ∃ between, left = before ++ between ∧ rest = between ++ after := by
        obtain ⟨between, hleft, hrest⟩ | ⟨between, hbefore, hafter⟩ :=
          List.append_eq_append_iff.mp htext
        · exact ⟨between, hleft, hrest⟩
        · subst hbefore
          have hbetween : between = [] := by
            rw [← size_eq_zero_iff]
            rw [size_append] at hle
            omega
          subst hbetween
          exact ⟨[], by simp, by simpa using hafter.symm⟩
      have hwithin := within_append_append 0 before between after
      rw [Nat.zero_add, List.append_assoc] at hwithin
      rw [size_append, hwithin] at h
      obtain rfl := Option.some.inj h
      exact ⟨before, after, (List.append_assoc ..).symm, rfl, (size_append ..).symm⟩
    · cases h
  · rintro ⟨before, after, rfl, rfl, rfl⟩
    have hstart : isCharBoundary (before ++ inside ++ after) before.size = true := by
      rw [isCharBoundary_iff, List.append_assoc]
      exact IsBoundary.of_append before (inside ++ after)
    have hstop : isCharBoundary (before ++ inside ++ after) (before.size + inside.size) = true := by
      rw [isCharBoundary_iff, ← size_append]
      exact IsBoundary.of_append (before ++ inside) after
    have hwithin := within_append_append 0 before inside after
    rw [Nat.zero_add] at hwithin
    rw [slice?, if_pos ⟨Nat.le_add_right .., hstart, hstop⟩, hwithin]

theorem slice?_append (before after : Text) :
    slice? (before ++ after) before.size (before ++ after).size = some after :=
  slice?_eq_some_iff.mpr ⟨before, [], by simp, rfl, by simp⟩

theorem slice?_zero_append (before after : Text) :
    slice? (before ++ after) 0 before.size = some before :=
  slice?_eq_some_iff.mpr ⟨[], after, by simp, rfl, by simp⟩

theorem isCharBoundary_of_slice? {text inside : Text} {start stop : Nat}
    (h : slice? text start stop = some inside) :
    start ≤ stop ∧ text.isCharBoundary start ∧ text.isCharBoundary stop := by
  unfold slice? at h
  split at h
  · next hcut => exact hcut
  · cases h

section Parts

variable {text left right : Text} {start middle stop : Nat}

theorem add_size_of_slice? (h : slice? text start stop = some left) : start + left.size = stop := by
  obtain ⟨before, after, -, rfl, hstop⟩ := slice?_eq_some_iff.mp h
  exact hstop

theorem slice?_trans (hleft : slice? text start middle = some left)
    (hright : slice? text middle stop = some right) :
    slice? text start stop = some (left ++ right) := by
  obtain ⟨before, after, htext, rfl, rfl⟩ := slice?_eq_some_iff.mp hleft
  obtain ⟨before', after', htext', hmiddle, rfl⟩ := slice?_eq_some_iff.mp hright
  have hparts : before ++ left ++ after = before' ++ right ++ after' := htext.symm.trans htext'
  rw [List.append_assoc before'] at hparts
  obtain ⟨rfl, rfl⟩ := append_inj_of_size_eq hparts (by rw [size_append, hmiddle])
  apply slice?_eq_some_iff.mpr
  exact ⟨before, after', by simp [htext], rfl, by simp [Nat.add_assoc]⟩

theorem slice?_parts (h : slice? text start stop = some (left ++ right)) :
    slice? text start (start + left.size) = some left ∧
      slice? text (start + left.size) stop = some right := by
  obtain ⟨before, after, htext, rfl, rfl⟩ := slice?_eq_some_iff.mp h
  constructor
  · apply slice?_eq_some_iff.mpr
    exact ⟨before, right ++ after, by simp [htext], rfl, rfl⟩
  · apply slice?_eq_some_iff.mpr
    exact ⟨before ++ left, after, by simp [htext], by simp, by simp [Nat.add_assoc]⟩

end Parts

/-! ### Searching bytes -/

theorem eq_of_utf8EncodeChar_append_eq {left right : Char} {bytes bytes' : List UInt8}
    (h : String.utf8EncodeChar left ++ bytes = String.utf8EncodeChar right ++ bytes') :
    left = right := by
  have hdecode (char : Char) (rest : List UInt8) :
      (String.utf8EncodeChar char ++ rest).toByteArray.utf8DecodeChar? 0 = some char := by
    rw [List.toByteArray_append, ByteArray.utf8DecodeChar?_utf8EncodeChar_append]
  have hleft := hdecode left bytes
  rw [h, hdecode right bytes'] at hleft
  exact (Option.some.inj hleft).symm

theorem utf8_isPrefix_iff {needle text : Text} : needle.utf8 <+: text.utf8 ↔ needle <+: text := by
  constructor
  · intro h
    induction needle generalizing text with
    | nil => exact List.nil_prefix
    | cons char needle ih =>
        obtain ⟨bytes, hbytes⟩ := h
        cases text with
        | nil =>
            have hsize := congrArg List.length hbytes
            have hpos := char.utf8Size_pos
            simp at hsize
            omega
        | cons first text =>
            rw [utf8_cons, utf8_cons, List.append_assoc] at hbytes
            obtain rfl := eq_of_utf8EncodeChar_append_eq hbytes
            rw [List.cons_prefix_cons]
            exact ⟨rfl, ih ⟨bytes, List.append_cancel_left hbytes⟩⟩
  · rintro ⟨after, rfl⟩
    exact ⟨utf8 after, (utf8_append ..).symm⟩

theorem drop_size_utf8_append (before after : Text) :
    (utf8 (before ++ after)).drop before.size = utf8 after := by
  rw [utf8_append, ← length_utf8, List.drop_left]

theorem isUTF8FirstByte_of_head?_utf8 {needle : Text} :
    ∀ byte ∈ needle.utf8.head?, byte.IsUTF8FirstByte := by
  cases needle with
  | nil => simp [utf8]
  | cons char rest =>
      have hlength : 0 < (String.utf8EncodeChar char).length := by
        simpa using char.utf8Size_pos
      intro byte hbyte
      rw [utf8_cons, List.head?_append_of_ne_nil _ (List.length_pos_iff.mp hlength),
        List.head?_eq_getElem?, List.getElem?_eq_getElem hlength, Option.mem_some_iff] at hbyte
      rw [← hbyte]
      exact UInt8.isUTF8FirstByte_getElem_zero_utf8EncodeChar

/-- **UTF-8 synchronizes itself**: the bytes of a needle stand where its characters do. -/
theorem utf8_isPrefix_drop_iff {needle text : Text} (hne : needle ≠ []) {offset : Nat} :
    needle.utf8 <+: text.utf8.drop offset ↔
      ∃ before after, text = before ++ needle ++ after ∧ before.size = offset := by
  constructor
  · intro h
    have hboundary : isCharBoundary text offset = true := by
      obtain ⟨byte, hbyte⟩ : ∃ byte, needle.utf8.head? = some byte := by
        apply Option.ne_none_iff_exists'.mp
        rw [ne_eq, List.head?_eq_none_iff, ← List.length_eq_zero_iff, length_utf8, size_eq_zero_iff]
        exact hne
      have hget : text.utf8[offset]? = some byte := by
        obtain ⟨bytes, hbytes⟩ := h
        rw [← List.head?_drop, ← hbytes, List.head?_append, hbyte]
        rfl
      simp [isCharBoundary, hget, isUTF8FirstByte_of_head?_utf8 byte hbyte]
    obtain ⟨before, rest, rfl, rfl⟩ := isCharBoundary_iff.mp hboundary
    rw [drop_size_utf8_append, utf8_isPrefix_iff] at h
    obtain ⟨after, rfl⟩ := h
    exact ⟨before, after, (List.append_assoc ..).symm, rfl⟩
  · rintro ⟨before, after, rfl, rfl⟩
    rw [List.append_assoc, drop_size_utf8_append, utf8_isPrefix_iff]
    exact List.prefix_append needle after

theorem indexOf?_eq_some_iff {needle text : Text} (hne : needle ≠ []) {start : Nat} :
    indexOf? needle text = some start ↔
      ∃ before after, Leftmost needle text before after ∧ before.size = start := by
  rw [indexOf?, List.findIdx?_eq_some_iff_getElem]
  simp only [List.getElem_tails, List.isPrefixOf_iff_prefix, utf8_isPrefix_drop_iff hne]
  constructor
  · rintro ⟨-, ⟨before, after, hsplit, rfl⟩, hleast⟩
    refine ⟨before, after, ⟨hne, hsplit, ?_⟩, rfl⟩
    intro before' after' hsplit'
    apply Nat.le_of_not_lt
    intro hlt
    exact hleast before'.size hlt ⟨before', after', hsplit', rfl⟩
  · rintro ⟨before, after, hleftmost, rfl⟩
    have hle : before.size ≤ text.size := by
      rw [hleftmost.split, size_append, size_append]
      omega
    refine ⟨by simpa using Nat.lt_succ_of_le hle, ⟨before, after, hleftmost.split, rfl⟩, ?_⟩
    rintro offset hlt ⟨before', after', hsplit, rfl⟩
    exact Nat.not_le_of_lt hlt (hleftmost.least before' after' hsplit)

/-- **Searching bytes finds characters.** -/
theorem indexOf?_eq_find? {needle : Text} (hne : needle ≠ []) (text : Text) :
    indexOf? needle text = find? needle text := by
  ext start
  rw [indexOf?_eq_some_iff hne, find?_eq_some_iff]

end Highlighter.Text
