import Highlighter.Language
import Highlighter.Path
import Std.Data.ExtTreeMap

/-!
# The registry of languages

The registry finds the rules for a file by its extension. Every extension belongs to one language
at most: a new language takes its extensions from their owners, and an owner that loses its last
extension goes.
-/

namespace Highlighter

/-- The languages by name, the owner of each extension, and the rules for all other files. -/
structure Registry where
  languages : Std.ExtTreeMap Text Language
  owners : Std.ExtTreeMap Text Text
  fallback : RuleSet

namespace Registry

def empty : Registry :=
  ⟨∅, ∅, Builtin.fallbackRules⟩

/-- Takes away an extension from its owner, unless it is in `kept` or has another owner. -/
def disown (name : Text) (kept : List Text) (registry : Registry) (extension : Text) : Registry :=
  if !kept.contains extension && registry.owners[extension]? = some name then
    { registry with owners := registry.owners.erase extension }
  else registry

/-- Removes a language. The extensions in `kept` stay with its name. -/
def remove (registry : Registry) (name : Text) (kept : List Text) : Registry :=
  match registry.languages[name]? with
  | none => registry
  | some old =>
    old.extensions.foldl (disown name kept)
      { registry with languages := registry.languages.erase name }

/-- Takes an extension off a language's list. A language with an empty list goes. -/
def release (registry : Registry) (name extension : Text) : Registry :=
  match registry.languages[name]? with
  | none => registry
  | some language =>
    let extensions := language.extensions.filter (· ≠ extension)
    if extensions = [] then { registry with languages := registry.languages.erase name }
    else
      let language := { language with extensions }
      { registry with languages := registry.languages.insert name language }

/-- Makes a language the owner of an extension. -/
def assign (name : Text) (registry : Registry) (extension : Text) : Registry :=
  let assigned := { registry with owners := registry.owners.insert extension name }
  match registry.owners[extension]? with
  | none => assigned
  | some owner => if owner = name then assigned else assigned.release owner extension

/-- Adds a language in place of any of the same name. -/
def add (registry : Registry) (language : Language) : Registry :=
  let cleared := registry.remove language.name language.extensions
  let assigned := language.extensions.foldl (assign language.name) cleared
  { assigned with languages := assigned.languages.insert language.name language }

def builtin : Registry :=
  Builtin.languages.foldl add empty

/-- The language for a path, by the extension in small letters. -/
def detect? (registry : Registry) (path : Path) : Option Text := do
  let extension ← path.extension?
  registry.owners[Unicode.lowercase extension]?

def rulesFor (registry : Registry) (path : Path) : RuleSet :=
  match registry.detect? path >>= (registry.languages[·]?) with
  | some language => language.rules
  | none => registry.fallback

/-- The names of the languages, in the order of their code points. -/
def names (registry : Registry) : List Text :=
  registry.languages.keys

end Registry

end Highlighter
