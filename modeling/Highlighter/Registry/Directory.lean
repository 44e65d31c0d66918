import Highlighter.Registry
import Highlighter.RuleSet.RuleFile

/-!
# Rules from a directory

A file `NAME.toml` in a directory of rules gives the rules for files with the extension `NAME`; the
file `default.toml` gives those for all other files. A file that cannot be read is left aside. If
the directory cannot be listed to its end, the files listed so far count, and there is an error.
-/

namespace Highlighter

/-- A registry with rule files applied: how many, and what was left aside on the way. -/
structure Loaded where
  registry : Registry
  count : Nat
  warnings : List Warning

namespace Registry

/-- The name of a rule file that stands for all files without rules of their own. -/
def fallbackStem : Text :=
  "default".toList

/-- The stem of a rule file in small letters; `none` for a file that is no rule file. -/
def ruleStem? (name : Text) : Option Text := do
  let extension ← Path.extension? name
  if extension ≠ "toml".toList then failure
  let stem ← Path.stem? name
  return Unicode.lowercase stem

def applyRules (registry : Registry) (stem : Text) (rules : RuleSet) : Registry :=
  if stem = fallbackStem then { registry with fallback := rules }
  else registry.add (.ofRules stem rules [stem])

end Registry

/-- A rule file of a directory: its path, its stem, and what reading it gave. -/
structure RuleFile where
  path : Path
  stem : Text
  content : Except AccessError ByteArray

namespace Loaded

/-- Applies one more rule file. -/
def apply (loaded : Loaded) (file : RuleFile) : Loaded :=
  match RuleSet.ofFile file.path file.content with
  | .error cause =>
    { loaded with warnings := loaded.warnings ++ [.fileIgnored file.path cause] }
  | .ok (rules, warnings) =>
    { registry := loaded.registry.applyRules file.stem rules
      count := loaded.count + 1
      warnings :=
        loaded.warnings ++ warnings ++ if rules.isEmpty then [.noRules file.path] else [] }

end Loaded

namespace Registry

/-- The registry after all rule files of a directory, in the order in which they are listed. -/
def applyFiles (registry : Registry) (files : List RuleFile) : Loaded :=
  files.foldl Loaded.apply ⟨registry, 0, []⟩

/-- Reads and applies the rule files of a directory. Where the listing breaks off, those listed
before stay applied, and the cause is the error. -/
def applyDirectory {m : Type → Type} [Monad m] (files : Files m) (registry : Registry)
    (directory : Path) : m (Loaded × Option Error) := do
  let (names, cause) ← files.names directory
  let found := names.filterMap fun name =>
    (ruleStem? name).map fun stem => (directory.join name, stem)
  let ruleFiles ← found.mapM fun (path, stem) => do
    return RuleFile.mk path stem (← files.read path)
  return (registry.applyFiles ruleFiles, cause.map .access)

/-- What loading a directory gives: the error if there is one, and else what is loaded. -/
def loadDirectory {m : Type → Type} [Monad m] (files : Files m) (registry : Registry)
    (directory : Path) : m (Except Error Loaded) := do
  match ← registry.applyDirectory files directory with
  | (loaded, none) => return .ok loaded
  | (_, some error) => return .error error

end Registry

end Highlighter
