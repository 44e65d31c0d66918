import Highlighter.Category
import Highlighter.Error
import Highlighter.Highlight
import Highlighter.Output
import Highlighter.Registry.Directory
import Highlighter.Settings

/-!
# The command

The command reads its arguments, highlights one file, and reports what it left aside on the way.
-/

namespace Highlighter

/-! ### Arguments of the command line

Arguments are read from left to right. Help and version end the reading, and so does the first
argument that is wrong; of repeated options the last one counts. -/

/-- What to highlight, and how. -/
structure Options where
  mode : Option Mode := none
  rules : Option Path := none
  listing : Bool := false
  file : Option Path := none
deriving DecidableEq, Repr

/-- What the command line asks for. -/
inductive Invocation where
  | help
  | version
  | highlight (options : Options)
deriving DecidableEq, Repr

namespace Invocation

def read (options : Options) : List Text → Except Error Invocation
  | [] => .ok (highlight options)
  | argument :: rest =>
    if argument = "--help".toList || argument = "-h".toList then .ok help
    else if argument = "--version".toList || argument = "-V".toList then .ok version
    else if argument = "--dark".toList then read { options with mode := some .dark } rest
    else if argument = "--light".toList then read { options with mode := some .light } rest
    else if argument = "--segments".toList then read { options with listing := true } rest
    else if argument = "--rules".toList then
      match rest with
      | [] => .error .rulesWithoutFile
      | path :: rest => read { options with rules := some path } rest
    else if argument.head? = some '-' then .error (.unknownOption argument)
    else read { options with file := some argument } rest

def ofArguments (arguments : List Text) : Except Error Invocation :=
  read {} arguments

end Invocation

/-! ### The run

The command highlights one file. Its rules come from a rule file if one is named, and otherwise from
the registry, to which the directory of the settings adds. Nothing is written unless all goes well. -/

/-- What a run of the command writes and reports. -/
structure Outcome where
  output : List Text
  error : Option Error
  warnings : List Warning
deriving DecidableEq

namespace Outcome

def code (outcome : Outcome) : Nat :=
  if outcome.error.isSome then 1 else 0

def success (output : List Text) (warnings : List Warning) : Outcome :=
  ⟨output, none, warnings⟩

def failure (error : Error) (warnings : List Warning) : Outcome :=
  ⟨[], some error, warnings⟩

end Outcome

namespace Command

def versionText : Text :=
  "hilite 0.1.0\n".toList

def helpLines : List String := [
  "hilite 0.1.0 - marker-based syntax highlighting",
  "",
  "Usage: hilite [OPTIONS] FILE",
  "",
  "Options:",
  "  --dark           Use the dark palette",
  "  --light          Use the light palette",
  "  --rules FILE     Use rules from a TOML file instead of the extension",
  "  --segments       Print segments instead of colored text",
  "  -h, --help       Show this help message",
  "  -V, --version    Show version information",
  "",
  "Rules are picked by extension: .kt/.kts Kotlin, .java Java,",
  ".py/.pyw/.pyi Python, anything else the default rules.",
  "Settings are read from ~/.hilite.conf (dark-mode, rules-dir)."]

def helpText : Text :=
  helpLines.flatMap fun line => line.toList ++ ['\n']

/-- The rules that the registry has for a file, with those of the settings' directory. -/
def registeredRules {m : Type → Type} [Monad m] (files : Files m) (settings : Settings)
    (file : Path) : m (RuleSet × List Warning) := do
  match settings.rulesDirectory with
  | none => return (Registry.builtin.rulesFor file, [])
  | some directory =>
    let (loaded, failure) ← Registry.builtin.applyDirectory files directory
    let ignored := failure.toList.map (.directoryIgnored directory)
    return (loaded.registry.rulesFor file, loaded.warnings ++ ignored)

/-- The rules for a file: those of the rule file named, or those of the registry. -/
def chooseRules {m : Type → Type} [Monad m] (files : Files m) (settings : Settings)
    (ruleFile : Option Path) (file : Path) : m (Except Error (RuleSet × List Warning)) := do
  match ruleFile with
  | some path => RuleSet.load files path
  | none => return .ok (← registeredRules files settings file)

/-- The pieces that show a text. -/
def shown (options : Options) (settings : Settings) (rules : RuleSet) (text : Text) : List Text :=
  let segments := highlight text rules (options.mode.getD settings.mode)
  if options.listing then Listing.render segments else Terminal.render segments

def highlightFile {m : Type → Type} [Monad m] (files : Files m)
    (settings : m (Settings × List Warning)) (options : Options) : m Outcome := do
  match options.file with
  | none => return .failure .noInput []
  | some file =>
    let (settings, warnings) ← settings
    match ← files.readText file with
    | .error error => return .failure error warnings
    | .ok text =>
      match ← chooseRules files settings options.rules file with
      | .error error => return .failure error warnings
      | .ok (rules, others) =>
        return .success (shown options settings rules text) (warnings ++ others)

/-- Runs the command. The settings are read only when there is a file to highlight. -/
def run {m : Type → Type} [Monad m] (files : Files m) (settings : m (Settings × List Warning))
    (arguments : List Text) : m Outcome := do
  match Invocation.ofArguments arguments with
  | .error error => return .failure error []
  | .ok .help => return .success [helpText] []
  | .ok .version => return .success [versionText] []
  | .ok (.highlight options) => highlightFile files settings options

end Command

end Highlighter
