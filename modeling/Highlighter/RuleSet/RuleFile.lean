import Highlighter.Error
import Highlighter.FileTree
import Highlighter.RuleSet
import Highlighter.Toml.Document

/-!
# Rule files

A rule file is a TOML document with an array of strings for each list of a rule set. Only a text
that is no such document at all is an error: a field that is missing or no array reads as empty, and
items that are no strings are passed over.
-/

namespace Highlighter.RuleSet

/-- The list that a field of a rule file gives. -/
def field (fields : Toml.Fields) (name : String) : List Text × List Warning :=
  match fields.get? name.toList with
  | none => ([], [])
  | some value =>
    match value.items? with
    | some items => (nonempty (items.filterMap Toml.Value.string?), [])
    | none => ([], [.notAnArray name value.kind])

def ofFields (fields : Toml.Fields) : RuleSet × List Warning :=
  let keywords := field fields "keywords"
  let types := field fields "types"
  let modifiers := field fields "modifiers"
  let comments := field fields "comments"
  let strings := field fields "strings"
  (⟨keywords.1, types.1, modifiers.1, comments.1, strings.1⟩,
    keywords.2 ++ types.2 ++ modifiers.2 ++ comments.2 ++ strings.2)

def ofToml (text : Text) : Except Error (RuleSet × List Warning) :=
  match Toml.parse? text with
  | some fields => .ok (ofFields fields)
  | none => .error .malformedRules

/-- The rule set that the bytes of a file describe. -/
def ofFile (path : Path) (content : Except AccessError ByteArray) :
    Except Error (RuleSet × List Warning) :=
  textOfFile path content >>= ofToml

def load {m : Type → Type} [Monad m] (files : Files m) (path : Path) :
    m (Except Error (RuleSet × List Warning)) := do
  return ofFile path (← files.read path)

end Highlighter.RuleSet
