import Highlighter.Toml.Scan

/-!
# TOML strings

A string between single marks stays on its line, one between triple marks may cross lines. Double
quotes admit escapes, apostrophes do not.
-/

namespace Highlighter.Toml

def hexDigit? (char : Char) : Option Nat :=
  if '0' ≤ char && char ≤ '9' then some (char.toNat - '0'.toNat)
  else if 'a' ≤ char && char ≤ 'f' then some (char.toNat - 'a'.toNat + 10)
  else if 'A' ≤ char && char ≤ 'F' then some (char.toNat - 'A'.toNat + 10)
  else none

/-- The character whose code point some hexadecimal digits give. -/
def scalar? (digits : Text) : Option Char := do
  let values ← digits.mapM hexDigit?
  let code := values.foldl (fun code digit => 16 * code + digit) 0
  if code.isValidChar then return Char.ofNat code else failure

/-- The character for which a letter after a backslash stands. -/
def shortEscape? : Char → Option Char
  | 'b' => some '\x08'
  | 't' => some '\t'
  | 'n' => some '\n'
  | 'f' => some '\x0c'
  | 'r' => some '\r'
  | '"' => some '"'
  | '\\' => some '\\'
  | _ => none

/-- Reads a character given by a number of hexadecimal digits. -/
def codeEscape? (count : Nat) (text : Text) : Option (Char × Text) :=
  if count ≤ text.length then (scalar? (text.take count)).map (·, text.drop count) else none

def escape? : Text → Option (Char × Text)
  | [] => none
  | 'u' :: rest => codeEscape? 4 rest
  | 'U' :: rest => codeEscape? 8 rest
  | letter :: rest => (shortEscape? letter).map (·, rest)

theorem length_of_codeEscape? {count : Nat} {text rest : Text} {char : Char}
    (h : codeEscape? count text = some (char, rest)) : rest.length ≤ text.length := by
  unfold codeEscape? at h
  split at h
  · obtain ⟨found, -, hpair⟩ := Option.map_eq_some_iff.1 h
    simp only [Prod.mk.injEq] at hpair
    simp [← hpair.2]
  · simp at h

theorem length_of_escape? {text rest : Text} {char : Char} (h : escape? text = some (char, rest)) :
    rest.length < text.length := by
  unfold escape? at h
  split at h
  · simp at h
  · have := length_of_codeEscape? h
    simp
    omega
  · have := length_of_codeEscape? h
    simp
    omega
  · obtain ⟨found, -, hpair⟩ := Option.map_eq_some_iff.1 h
    simp only [Prod.mk.injEq] at hpair
    simp [← hpair.2]

/-- Reads the rest of a string on one line, up to the closing mark. -/
def lineString (mark : Char) (text : Text) : Option (Text × Text) :=
  match text with
  | [] => none
  | char :: rest =>
    if char = mark then some ([], rest)
    else if char = '\\' && mark = '"' then
      match _ : escape? rest with
      | some (escaped, after) =>
        (lineString mark after).map fun (content, after) => (escaped :: content, after)
      | none => none
    else if isText char then
      (lineString mark rest).map fun (content, after) => (char :: content, after)
    else none
termination_by text.length
decreasing_by
  · have := length_of_escape? ‹escape? rest = some (escaped, after)›
    simp
    omega
  · simp

/-- The marks that belong to the content, and the text after the string, where a string between
triple marks ends. Up to two marks may stand before the closing ones. -/
def closing? (mark : Char) (text : Text) : Option (Text × Text) :=
  let marks := (text.takeWhile (· = mark)).take 5
  if 3 ≤ marks.length then some (marks.drop 3, text.drop marks.length) else none

/-- The text from its first character on that is no space and no part of a line end. -/
def dropGaps : Text → Text
  | [] => []
  | '\r' :: '\n' :: rest => dropGaps rest
  | char :: rest => if isSpace char || char = '\n' then dropGaps rest else char :: rest

/-- The text that goes on after a backslash at the end of a line. -/
def continued? (text : Text) : Option Text :=
  (afterNewline? (text.dropWhile isSpace)).map dropGaps

theorem length_of_afterNewline? {text rest : Text} (h : afterNewline? text = some rest) :
    rest.length < text.length := by
  unfold afterNewline? at h
  split at h
  · cases h
    simp
  · cases h
    simp only [List.length_cons]
    omega
  · simp at h

theorem length_dropGaps_le (text : Text) : (dropGaps text).length ≤ text.length := by
  fun_induction dropGaps text with
  | case1 => simp
  | case2 rest ih =>
    simp
    omega
  | case3 char rest _ _ ih =>
    simp
    omega
  | case4 => simp

theorem length_of_continued? {text rest : Text} (h : continued? text = some rest) :
    rest.length < text.length := by
  obtain ⟨after, hafter, rfl⟩ := Option.map_eq_some_iff.1 h
  have hspaces := (List.dropWhile_sublist isSpace (l := text)).length_le
  have hnewline := length_of_afterNewline? hafter
  have hgaps := length_dropGaps_le after
  omega

/-- Reads the rest of a string between triple marks. -/
def blockString (mark : Char) (text : Text) : Option (Text × Text) :=
  match text with
  | [] => none
  | char :: rest =>
    if char = mark then
      match closing? mark (char :: rest) with
      | some closed => some closed
      | none => (blockString mark rest).map fun (content, after) => (char :: content, after)
    else if char = '\\' && mark = '"' then
      match _ : continued? rest with
      | some after => blockString mark after
      | none =>
        match _ : escape? rest with
        | some (escaped, after) =>
          (blockString mark after).map fun (content, after) => (escaped :: content, after)
        | none => none
    else
      match _ : afterNewline? (char :: rest) with
      | some after =>
        (blockString mark after).map fun (content, after) => ('\n' :: content, after)
      | none =>
        if isText char then
          (blockString mark rest).map fun (content, after) => (char :: content, after)
        else none
termination_by text.length
decreasing_by
  · simp
  · have := length_of_continued? ‹continued? rest = some after›
    simp
    omega
  · have := length_of_escape? ‹escape? rest = some (escaped, after)›
    simp
    omega
  · exact length_of_afterNewline? ‹afterNewline? (char :: rest) = some after›
  · simp

def lineQuotation (mark : Char) : Scan Text := do
  Scan.exactly [mark]
  Scan.ofFunction (lineString mark)

/-- Reads a string on one line or, between triple marks, on several. A line end right after the
opening marks is no content. -/
def quotation (mark : Char) : Scan Text :=
  (do
    Scan.exactly [mark, mark, mark]
    newline <|> pure ()
    Scan.ofFunction (blockString mark)) <|> lineQuotation mark

end Highlighter.Toml
