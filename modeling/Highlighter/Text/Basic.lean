/-!
# Text and byte offsets

A text is a list of characters. Positions in it are byte offsets of its UTF-8 form, so the unit of
length is `Text.size`, which adds up over parts (`size_append`).
-/

namespace Highlighter

abbrev Text := List Char

namespace Text

def size : Text → Nat
  | [] => 0
  | char :: rest => char.utf8Size + size rest

@[simp]
theorem size_nil : size [] = 0 := rfl

@[simp]
theorem size_cons (char : Char) (rest : Text) :
    size (char :: rest) = char.utf8Size + size rest := rfl

@[simp]
theorem size_append (left right : Text) : size (left ++ right) = size left + size right := by
  induction left with
  | nil => simp
  | cons char rest ih => simp [ih, Nat.add_assoc]

theorem size_eq_zero_iff (text : Text) : size text = 0 ↔ text = [] := by
  cases text with
  | nil => simp
  | cons char rest =>
    have hpos := char.utf8Size_pos
    simp
    omega

/-! ### Blanks

The blanks are the characters with Unicode's `White_Space` property. `trim` takes them away from
both ends of a text and `words` gives the stretches between them. -/

/-- Whether a character has the `White_Space` property. -/
def isBlank (char : Char) : Bool :=
  let code := char.toNat
  (0x09 ≤ code && code ≤ 0x0D) || code == 0x20 || code == 0x85 || code == 0xA0 || code == 0x1680 ||
    (0x2000 ≤ code && code ≤ 0x200A) || code == 0x2028 || code == 0x2029 || code == 0x202F ||
    code == 0x205F || code == 0x3000

/-- The text from its first character on that is no blank. -/
def trimStart (text : Text) : Text :=
  text.dropWhile isBlank

/-- The text up to its last character that is no blank. -/
def trimEnd (text : Text) : Text :=
  (text.reverse.dropWhile isBlank).reverse

def trim (text : Text) : Text :=
  trimEnd (trimStart text)

/-- The stretch before the first blank, and the words after it. -/
def leadingAndWords : Text → Text × List Text
  | [] => ([], [])
  | char :: rest =>
    let (leading, others) := leadingAndWords rest
    if isBlank char then ([], if leading = [] then others else leading :: others)
    else (char :: leading, others)

def words (text : Text) : List Text :=
  let (leading, others) := leadingAndWords text
  if leading = [] then others else leading :: others

theorem leadingAndWords_no_blank (text : Text) :
    (∀ char ∈ (leadingAndWords text).1, isBlank char = false) ∧
      ∀ word ∈ (leadingAndWords text).2, word ≠ [] ∧ ∀ char ∈ word, isBlank char = false := by
  induction text with
  | nil => simp [leadingAndWords]
  | cons char rest ih =>
    rw [leadingAndWords]
    grind

/-- A word is not empty and holds no blank. -/
theorem words_no_blank {text word : Text} (h : word ∈ words text) :
    word ≠ [] ∧ ∀ char ∈ word, isBlank char = false := by
  have hparts := leadingAndWords_no_blank text
  rw [words] at h
  grind

end Text

end Highlighter
