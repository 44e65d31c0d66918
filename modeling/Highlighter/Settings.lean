import Highlighter.Category
import Highlighter.Error
import Highlighter.FileTree
import Highlighter.Text.Occurrence
import Highlighter.Unicode.Lowercase

/-!
# Settings

The settings file has a `key = value` on each line; lines that start with `#` are comments. Of two
lines with one key the later one counts.
-/

namespace Highlighter

/-- The palette to use and the directory of further rule files. -/
structure Settings where
  mode : Mode
  rulesDirectory : Option Path
deriving DecidableEq, Repr

namespace Settings

/-- The settings where there is no settings file. -/
def default : Settings :=
  ⟨.light, none⟩

/-- The key, in small letters, and the value on a line. -/
def assignment? (line : Text) : Option (Text × Text) :=
  let line := line.trim
  if line.head? = some '#' then none
  else (Text.cut? ['='] line).map fun (key, value) => (Unicode.lowercase key.trim, value.trim)

/-- The keys and values of a settings file, line by line. -/
def assignments (text : Text) : List (Text × Text) :=
  (Text.pieces '\n' text).filterMap assignment?

/-- The value that counts for a key. -/
def value? (text : Text) (key : String) : Option Text :=
  (assignments text).reverse.lookup key.toList

def isOn (value : Text) : Bool :=
  let plain := Unicode.lowercase value
  plain = "true".toList || plain = "yes".toList || plain = "on".toList || plain = "1".toList

/-- The settings that a text gives. The name of a mode counts more than the switch for the dark
palette; a name that is none changes nothing. -/
def ofText (text : Text) : Settings × List Warning :=
  let switched := ((value? text "dark-mode").map fun value => Mode.ofDark (isOn value)).getD .light
  let named := value? text "display-mode"
  let mode := ((named.bind Mode.ofName?)).getD switched
  let rulesDirectory := (value? text "rules-dir").filter (· ≠ [])
  let warnings := (named.filter fun name => (Mode.ofName? name).isNone).toList.map .unknownMode
  (⟨mode, rulesDirectory⟩, warnings)

/-- The path of the settings file in a home directory. -/
def path (home : Path) : Path :=
  home.join ".hilite.conf".toList

/-- Reads the settings. A file that cannot be read as text counts as missing. -/
def load {m : Type → Type} [Monad m] (files : Files m) (home : Option Path) :
    m (Settings × List Warning) := do
  match home with
  | none => return (default, [])
  | some home =>
    match ← files.readText (path home) with
    | .ok text => return ofText text
    | .error _ => return (default, [])

end Settings

end Highlighter
