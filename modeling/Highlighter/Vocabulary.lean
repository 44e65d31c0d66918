import Highlighter.Span
import Highlighter.Text.Basic
import Highlighter.Unicode.CaseFold
import Highlighter.Unicode.WordChar

/-!
# Whole words

A vocabulary is a list of words of one category. A word is found, in any case, where no word
character comes before it and none that continues it comes after it; of the words that fit at a
position the longest one is found. Entries need not be made of word characters themselves.
-/

namespace Highlighter

/-- Words of one category, the longest first, each character case-folded. -/
structure Vocabulary where
  category : Category
  entries : List Text

namespace Vocabulary

/-- The vocabulary of the entries given; of two of one size the one given first is tried first. The
limit on the size of all entries together, past which a search by one compiled pattern would pass the
vocabulary over with a warning, is left out here: any entries make a vocabulary. -/
def ofEntries (category : Category) (entries : List Text) : Vocabulary where
  category
  entries := (entries.mergeSort fun left right => right.size ≤ left.size).map
    (·.map Unicode.fold)

/-- The text that follows an entry, if `text` starts with the entry in any case. -/
def afterEntry? : (entry text : Text) → Option Text
  | [], text => some text
  | _ :: _, [] => none
  | folded :: entry, char :: text =>
    if folded = Unicode.fold char then afterEntry? entry text else none

/-- Whether a word that `text` follows ends there. -/
def endsWord (text : Text) : Bool :=
  !text.head?.any Unicode.continuesWord

/-- The size of the text that an entry takes at the start of `text`, if it fits as a whole word. -/
def fit? (text entry : Text) : Option Nat :=
  match afterEntry? entry text with
  | some after => if endsWord after then some (text.size - after.size) else none
  | none => none

/-- The words of a text that starts at byte `offset`; `afterWordChar` tells whether a word
character comes before it. -/
def findFrom (vocabulary : Vocabulary) (afterWordChar : Bool) (offset : Nat) :
    Text → List Span
  | [] => []
  | char :: rest =>
    let later := vocabulary.findFrom (Unicode.isWordChar char) (offset + char.utf8Size) rest
    if afterWordChar then later
    else
      match vocabulary.entries.findSome? (fit? (char :: rest)) with
      | some size => ⟨offset, offset + size, vocabulary.category⟩ :: later
      | none => later

/-- The words of a line, by the place where they start. -/
def find (vocabulary : Vocabulary) (line : Text) : List Span :=
  vocabulary.findFrom false 0 line

end Vocabulary

end Highlighter
