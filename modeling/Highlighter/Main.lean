import Highlighter.Command

/-!
# The program

Everything outside the program is met here: the arguments, the home directory, files, and the two
outputs.
-/

namespace Highlighter

/-- The access error for an error of the system. -/
def AccessError.ofSystem (error : IO.Error) : AccessError :=
  match error with
  | .noFileOrDirectory .. => .notFound
  | .inappropriateType _ code _ =>
    let number := min code (-code)
    if number = 20 then .notDirectory
    else if number = 21 then .isDirectory
    else .other (toString error).toList
  | _ => .other (toString error).toList

/-- Runs an action and takes an error of the system as a value. -/
def attempt {α : Type} (action : IO α) : IO (Except AccessError α) := do
  try
    return .ok (← action)
  catch error =>
    return .error (.ofSystem error)

def systemFiles : Files IO where
  read path := attempt (IO.FS.readBinFile (String.ofList path))
  names path := do
    let listed ← attempt do
      let directory ← IO.FS.realPath (String.ofList path)
      return (← directory.readDir).toList.map (·.fileName.toList)
    match listed with
    | .ok names => return (names, none)
    | .error cause => return ([], some cause)

end Highlighter

open Highlighter

def main (arguments : List String) : IO UInt32 := do
  let home := (← IO.getEnv "HOME").map String.toList
  let outcome ← Command.run systemFiles (Settings.load systemFiles home)
    (arguments.map String.toList)
  for warning in outcome.warnings do
    IO.eprintln ("warning: " ++ String.ofList warning.message)
  for piece in outcome.output do
    IO.print (String.ofList piece)
  (← IO.getStdout).flush
  if let some error := outcome.error then
    IO.eprintln ("Error: " ++ String.ofList error.message)
  return outcome.code.toUInt32
