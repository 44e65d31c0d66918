import Highlighter.Text.Encoding
import Highlighter.Toml.Number

/-!
# Reading quoted texts

Every escape tells by itself where it ends, so a quoted text is read one character after another,
and nothing of the text that was quoted is lost (`unquoted?_quoted`). A quoted text shows neither
tabs nor line breaks, which are free to separate it from other things.
-/

namespace Highlighter

/-! ### Digits -/

theorem Toml.ofDigits_append_digit (base : Nat) (digits : Text) {digit : Nat} (h : digit < 16) :
    ofDigits base (digits ++ [Nat.digitChar digit]) = base * ofDigits base digits + digit := by
  have hvalue : ∀ digit < 16, (Nat.digitChar digit).toLower.toNat
      - (if isDigit (Nat.digitChar digit) then '0'.toNat else 'a'.toNat - 10) = digit := by
    decide
  rw [ofDigits, List.foldl_append, List.foldl_cons, List.foldl_nil, hvalue digit h, ofDigits]

/-- Digits are read as the number that they write. -/
theorem Toml.ofDigits_toDigits {base : Nat} (hbase : 1 < base) (hle : base ≤ 16) (number : Nat) :
    ofDigits base (Nat.toDigits base number) = number := by
  induction number using Nat.strongRecOn with
  | _ number ih =>
      rw [Nat.toDigits_eq_if hbase]
      split
      · next hlt =>
        have hdigit := ofDigits_append_digit base [] (Nat.lt_of_lt_of_le hlt hle)
        simpa [ofDigits] using hdigit
      · next hge =>
        have hmod : number % base < 16 :=
          Nat.lt_of_lt_of_le (Nat.mod_lt number (by omega)) hle
        have hdiv : number / base < number := Nat.div_lt_self (by omega) hbase
        rw [ofDigits_append_digit base _ hmod, ih _ hdiv, Nat.div_add_mod]

theorem exists_digitChar_of_mem_toDigits {base number : Nat} {char : Char} (hbase : 1 < base)
    (h : char ∈ Nat.toDigits base number) : ∃ digit < base, char = Nat.digitChar digit := by
  induction number using Nat.strongRecOn with
  | _ number ih =>
      rw [Nat.toDigits_eq_if hbase] at h
      split at h
      · next hlt => exact ⟨number, hlt, by simpa using h⟩
      · next hge =>
        obtain h | h := List.mem_append.mp h
        · exact ih _ (Nat.div_lt_self (by omega) hbase) h
        · exact ⟨number % base, Nat.mod_lt number (by omega), by simpa using h⟩

/-- A character that is no digit of any base does not stand among digits. -/
theorem not_mem_toDigits {base : Nat} {char : Char} (hbase : 1 < base) (hle : base ≤ 16)
    (h : ∀ digit < 16, char ≠ Nat.digitChar digit) (number : Nat) :
    char ∉ Nat.toDigits base number := by
  intro hmem
  obtain ⟨digit, hlt, heq⟩ := exists_digitChar_of_mem_toDigits hbase hmem
  exact h digit (Nat.lt_of_lt_of_le hlt hle) heq

namespace Text

/-! ### One character -/

/-- The letters of short escapes and what they stand for. -/
def shortEscapes : List (Char × Char) :=
  [('0', '\x00'), ('t', '\t'), ('r', '\r'), ('n', '\n'), ('"', '"'), ('\\', '\\')]

/-- An escape is a short one, one by the code point, or the character itself. -/
theorem escape_cases (char : Char) :
    (∃ letter, (letter, char) ∈ shortEscapes ∧ escape char = ['\\', letter]) ∨
      escape char = codeEscape char ∨
        (∀ escaped ∈ shortEscapes, char ≠ escaped.2) ∧ escape char = [char] := by
  unfold escape
  split
  · next h => exact .inl ⟨'0', by simp [shortEscapes, h]⟩
  split
  · next h => exact .inl ⟨'t', by simp [shortEscapes, h]⟩
  split
  · next h => exact .inl ⟨'r', by simp [shortEscapes, h]⟩
  split
  · next h => exact .inl ⟨'n', by simp [shortEscapes, h]⟩
  split
  · next h => exact .inl ⟨'"', by simp [shortEscapes, h]⟩
  split
  · next h => exact .inl ⟨'\\', by simp [shortEscapes, h]⟩
  split
  · exact .inr (.inl rfl)
  · refine .inr (.inr ⟨?_, rfl⟩)
    simp_all [shortEscapes]

/-- The character whose code point stands between braces, and what follows them. -/
def unbraced? : Text → Option (Char × Text)
  | '\x7b' :: rest =>
    let digits := rest.takeWhile (· ≠ '\x7d')
    some (Char.ofNat (Toml.ofDigits 16 digits), (rest.dropWhile (· ≠ '\x7d')).tail)
  | _ => none

/-- The character that stands first between quotes, and what follows it. A quote that is not escaped
stands for no character. -/
def unescape? : Text → Option (Char × Text)
  | '\\' :: letter :: rest =>
    match shortEscapes.lookup letter with
    | some char => some (char, rest)
    | none => if letter = 'u' then unbraced? rest else none
  | char :: rest => if char = '\\' ∨ char = '"' then none else some (char, rest)
  | [] => none

theorem length_of_unbraced? {text rest : Text} {char : Char}
    (h : unbraced? text = some (char, rest)) : rest.length < text.length := by
  unfold unbraced? at h
  split at h
  · next inside =>
    obtain ⟨-, rfl⟩ := Prod.mk.inj (Option.some.inj h)
    have hdrop := (List.dropWhile_sublist (· ≠ '\x7d') (l := inside)).length_le
    rw [List.length_tail, List.length_cons]
    omega
  · cases h

theorem length_of_unescape? {text rest : Text} {char : Char}
    (h : unescape? text = some (char, rest)) : rest.length < text.length := by
  unfold unescape? at h
  split at h
  · next letter inside =>
    rw [List.length_cons, List.length_cons]
    split at h
    · obtain ⟨-, rfl⟩ := Prod.mk.inj (Option.some.inj h)
      omega
    · split at h
      · have hlt := length_of_unbraced? h
        omega
      · cases h
  · split at h
    · cases h
    · obtain ⟨-, rfl⟩ := Prod.mk.inj (Option.some.inj h)
      exact Nat.lt_succ_self _
  · cases h

theorem unbraced?_append (char : Char) (rest : Text) :
    unbraced? ('\x7b' :: (Nat.toDigits 16 char.toNat ++ '\x7d' :: rest)) = some (char, rest) := by
  have hdigits : ∀ digit ∈ Nat.toDigits 16 char.toNat, decide (digit ≠ '\x7d') = true := by
    intro digit hdigit
    rw [decide_eq_true_eq]
    rintro rfl
    exact not_mem_toDigits (by decide) (by decide) (by decide) char.toNat hdigit
  rw [unbraced?, List.takeWhile_append_of_pos hdigits, List.dropWhile_append_of_pos hdigits]
  simp [Toml.ofDigits_toDigits]

/-- **An escaped character is read back**, whatever follows it. -/
theorem unescape?_escape (char : Char) (rest : Text) :
    unescape? (escape char ++ rest) = some (char, rest) := by
  obtain ⟨letter, hmem, hescape⟩ | hescape | ⟨hplain, hescape⟩ := escape_cases char
  · have hlookup : ∀ escaped ∈ shortEscapes, shortEscapes.lookup escaped.1 = some escaped.2 := by
      decide
    rw [hescape, List.cons_append, List.cons_append, unescape?, hlookup _ hmem]
    rfl
  · have htext : codeEscape char ++ rest
        = '\\' :: 'u' :: '\x7b' :: (Nat.toDigits 16 char.toNat ++ '\x7d' :: rest) := by
      simp [codeEscape]
    have hlookup : shortEscapes.lookup 'u' = none := by decide
    rw [hescape, htext, unescape?, hlookup]
    exact unbraced?_append char rest
  · have hbackslash : char ≠ '\\' := hplain ('\\', '\\') (by decide)
    have hquote : char ≠ '"' := hplain ('"', '"') (by decide)
    rw [hescape, List.cons_append, List.nil_append]
    unfold unescape?
    split <;> simp_all

theorem not_mem_escape {mark : Char} (hmark : mark = '\t' ∨ mark = '\n') (char : Char) :
    mark ∉ escape char := by
  obtain ⟨letter, hmem, hescape⟩ | hescape | ⟨hplain, hescape⟩ := escape_cases char
  · have hletters : ∀ escaped ∈ shortEscapes,
        '\t' ∉ ['\\', escaped.1] ∧ '\n' ∉ ['\\', escaped.1] := by
      decide
    rw [hescape]
    obtain rfl | rfl := hmark
    · exact (hletters _ hmem).1
    · exact (hletters _ hmem).2
  · have hdigits : mark ∉ Nat.toDigits 16 char.toNat := by
      apply not_mem_toDigits (by decide) (by decide)
      obtain rfl | rfl := hmark <;> decide
    rw [hescape, codeEscape]
    obtain rfl | rfl := hmark <;> simp [hdigits]
  · rw [hescape, List.mem_singleton]
    rintro rfl
    obtain rfl | rfl := hmark
    · exact hplain ('t', '\t') (by decide) rfl
    · exact hplain ('n', '\n') (by decide) rfl

/-! ### All characters -/

/-- The text that stands before a closing quote, with which all must end. -/
def beforeQuote? (text : Text) : Option Text :=
  if text = ['"'] then some []
  else
    match _ : unescape? text with
    | some (char, rest) => (beforeQuote? rest).map (char :: ·)
    | none => none
termination_by text.length
decreasing_by exact length_of_unescape? ‹unescape? text = some (char, rest)›

/-- The text that a quoted text is for. -/
def unquoted? : Text → Option Text
  | '"' :: inside => beforeQuote? inside
  | _ => none

theorem beforeQuote?_of_unescape? {text rest : Text} {char : Char}
    (h : unescape? text = some (char, rest)) :
    beforeQuote? text = (beforeQuote? rest).map (char :: ·) := by
  have hne : text ≠ ['"'] := by
    rintro rfl
    cases h
  rw [beforeQuote?, if_neg hne]
  split
  · next hsome =>
    obtain ⟨rfl, rfl⟩ := Prod.mk.inj (Option.some.inj (hsome.symm.trans h))
    rfl
  · next hnone => simp [h] at hnone

/-- **A quoted text is read back.** -/
theorem unquoted?_quoted (text : Text) : unquoted? text.quoted = some text := by
  rw [quoted, List.cons_append, unquoted?]
  induction text with
  | nil => simp [beforeQuote?]
  | cons char rest ih =>
      rw [List.flatMap_cons, List.append_assoc, beforeQuote?_of_unescape? (unescape?_escape char _),
        ih, Option.map_some]

theorem not_mem_quoted {mark : Char} (hmark : mark = '\t' ∨ mark = '\n') (text : Text) :
    mark ∉ text.quoted := by
  have hquote : mark ≠ '"' := by
    obtain rfl | rfl := hmark <;> decide
  simp [quoted, hquote, not_mem_escape hmark]

end Text

end Highlighter
