import Highlighter.Text.Basic
import Highlighter.Unicode.Printable

/-!
# Texts as they are written

`utf8` gives the bytes of a text and `ofUtf8?` reads them back (`ofUtf8?_utf8`). `quoted` gives a
form of a text that is easy to read on one line.
-/

namespace Highlighter.Text

def utf8 (text : Text) : List UInt8 :=
  text.flatMap String.utf8EncodeChar

/-- The text whose UTF-8 form the bytes are. -/
def ofUtf8? (bytes : ByteArray) : Option Text :=
  (String.fromUTF8? bytes).map String.toList

@[simp]
theorem length_utf8 (text : Text) : text.utf8.length = text.size := by
  induction text with
  | nil => rfl
  | cons char rest ih =>
    simp only [utf8, List.flatMap_cons, List.length_append] at ih ⊢
    simp [ih]

@[simp]
theorem utf8_append (left right : Text) : utf8 (left ++ right) = left.utf8 ++ right.utf8 := by
  simp [utf8]

theorem ofUtf8?_utf8 (text : Text) : ofUtf8? text.utf8.toByteArray = some text := by
  have hvalid : (text.utf8.toByteArray).IsValidUTF8 := .intro text rfl
  rw [ofUtf8?, String.fromUTF8?, dif_pos hvalid, Option.map_some]
  have hstring : String.fromUTF8 text.utf8.toByteArray hvalid = String.ofList text := by
    apply String.toByteArray_inj.mp
    rw [String.toByteArray_ofList]
    rfl
  rw [hstring, String.toList_ofList]

/-! ### Quoted texts

A quoted text stands between double quotes on one line. Quotes, backslashes and the usual control
characters have short escapes; any other character that would not show by itself is written by the
hexadecimal digits of its code point. -/

def codeEscape (char : Char) : Text :=
  ['\\', 'u', '\x7b'] ++ Nat.toDigits 16 char.toNat ++ ['\x7d']

def escape (char : Char) : Text :=
  if char = '\x00' then ['\\', '0']
  else if char = '\t' then ['\\', 't']
  else if char = '\r' then ['\\', 'r']
  else if char = '\n' then ['\\', 'n']
  else if char = '"' then ['\\', '"']
  else if char = '\\' then ['\\', '\\']
  else if Unicode.isGraphemeExtend char || !Unicode.isPrintable char then codeEscape char
  else [char]

def quoted (text : Text) : Text :=
  '"' :: text.flatMap escape ++ ['"']

end Highlighter.Text
