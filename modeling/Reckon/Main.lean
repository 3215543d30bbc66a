/-
The program.

Everything a run does is decided by `Reckon.Command.run`.  What is left for here is to find
out what stands under the one path that the run may ask for, and to print what the run gives
back.  Its console is the screen.
-/
import Reckon.Command.Run
import Reckon.Command.Screen

namespace Reckon.Command

/-- A fault of the arguments in words. -/
def UsageFault.message : UsageFault → Text
  | noSuchOption => "No such option".toList
  | badOptionUsage => "An option is used in a wrong way".toList
  | missingParameter => "Missing argument: the equation".toList
  | usage => "Expected one of the commands eval, tokens and render, and one equation".toList
  | badParameter message => message.getD "The settings file cannot be used".toList
  | impossiblePath => "The path of the settings file has a null character in it".toList

/-- What stands under a path of the file system. -/
def placeOf (path : Text) : IO Place := do
  try
    return .file (← IO.FS.readFile (String.ofList path)).toList
  catch
    | .noFileOrDirectory .. => return .missing
    | .inappropriateType .. => return .folder
    | _ => return .unreachable

/-- Prints how a run ended, and gives its exit code. -/
def conclude (ending : Ending) : IO UInt32 := do
  match ending with
  | .finished _ out log =>
    IO.eprint (String.ofList log)
    IO.print (String.ofList out)
  | .uncaught fault => IO.eprintln (String.ofList fault.report)
  | .misused fault => IO.eprintln (String.ofList ("Error: ".toList ++ fault.message))
  | .broken fault =>
    IO.eprintln (String.ofList (fault.message?.getD "The settings file cannot be used".toList))
  return ending.exitCode.toUInt32

end Reckon.Command

/-- Runs the program on the arguments of the command line. -/
def main (args : List String) : IO UInt32 := do
  let args := args.map String.toList
  let place ← match Reckon.Command.configPath? args with
    | some path => Reckon.Command.placeOf path
    | none => pure .missing
  Reckon.Command.conclude (Reckon.Command.run Reckon.Command.Screen.console (fun _ => place) args)
