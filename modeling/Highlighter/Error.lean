import Highlighter.Path
import Highlighter.Text.Encoding

/-!
# Errors and warnings

An error ends what was asked for. A warning tells what was left aside; work goes on.
-/

namespace Highlighter

/-! ### Errors -/

/-- Why a file, a directory or an output could not be used. -/
inductive AccessError where
  | notFound
  | notDirectory
  | isDirectory
  | notUtf8
  | sinkFull
  | other (reason : Text)
deriving DecidableEq, Repr

namespace AccessError

def message : AccessError → Text
  | notFound => "No such file or directory (os error 2)".toList
  | notDirectory => "Not a directory (os error 20)".toList
  | isDirectory => "Is a directory (os error 21)".toList
  | notUtf8 => "stream did not contain valid UTF-8".toList
  | sinkFull => "sink is full".toList
  | other reason => reason

end AccessError

/-- Why something asked for could not be done. -/
inductive Error where
  | access (cause : AccessError)
  | fileNotFound (path : Path)
  | malformedRules
  | noInput
  | rulesWithoutFile
  | unknownOption (argument : Text)
deriving DecidableEq, Repr

namespace Error

def message : Error → Text
  | access cause => "I/O error: ".toList ++ cause.message
  | fileNotFound path => "File not found: ".toList ++ path
  | malformedRules => "Malformed rule file".toList
  | noInput => "no input file (try --help)".toList
  | rulesWithoutFile => "--rules needs a file".toList
  | unknownOption argument => "unknown option: ".toList ++ argument

end Error

/-! ### Warnings -/

/-- What was left aside, and why. -/
inductive Warning where
  /-- A field of a rule file that is no array, with the kind of its value. -/
  | notAnArray (field kind : String)
  | fileIgnored (path : Path) (cause : Error)
  | noRules (path : Path)
  | directoryIgnored (path : Path) (cause : Error)
  | unknownMode (name : Text)
deriving DecidableEq, Repr

namespace Warning

def message : Warning → Text
  | notAnArray field kind =>
    '\x60' :: field.toList ++ "\x60 must be an array of strings, found ".toList ++ kind.toList ++
      "; treating it as empty".toList
  | fileIgnored path cause => "ignoring rule file ".toList ++ path ++ ": ".toList ++ cause.message
  | noRules path => "rule file ".toList ++ path ++ " defines no rules".toList
  | directoryIgnored path cause =>
    "could not read rules dir ".toList ++ path ++ ": ".toList ++ cause.message
  | unknownMode name => "unknown display-mode ".toList ++ name.quoted ++ " in config".toList

end Warning

end Highlighter
