/-
The arguments of the command line.

There are two levels.  The options of the first level come before the name of a command,
those of a command anywhere behind it, until two dashes end them.  A long option takes its
value from behind an equals sign or from the next argument, a short one from the rest of
its argument or from the next one.  Nothing here knows what the commands do.
-/
import Reckon.Text

namespace Reckon.Command

/-- The options there are. -/
inductive Flag
  | version | verbose | variable | pattern | config | raiseErrors
deriving DecidableEq

/-- The commands there are. -/
inductive Verb
  | eval | tokens | render
deriving DecidableEq

/-- Why arguments cannot be used. -/
inductive UsageFault
  | noSuchOption
  | badOptionUsage
  | missingParameter
  | usage
  | badParameter (message : Option Text)
  /-- A path with a null character in it, which cannot be the path of anything. -/
  | impossiblePath
deriving DecidableEq

/-! ### Options -/

/-- Whether an option has a value. -/
def Flag.takesValue : Flag → Bool
  | .variable | .pattern | .config => true
  | version | verbose | raiseErrors => false

/-- How an option is written: its long name, and the letter of its short one if it has any. -/
def Flag.spelling : Flag → Text × Option Char
  | version => ("version".toList, none)
  | verbose => ("verbose".toList, none)
  | .variable => ("var".toList, some 'v')
  | pattern => ("pattern".toList, some 'p')
  | config => ("config".toList, some 'c')
  | raiseErrors => ("raise-errors".toList, none)

/-- The options before the command. -/
def generalFlags : List Flag := [.version, .verbose]

namespace Verb

def name : Verb → Text
  | eval => "eval".toList
  | tokens => "tokens".toList
  | render => "render".toList

def named? (name : Text) : Option Verb := [eval, tokens, render].find? fun v => v.name == name

/-- The options behind a command. -/
def flags : Verb → List Flag
  | eval => [.variable, .pattern, .config, .raiseErrors]
  | tokens | render => [.pattern, .config]

end Verb

/-- An option that was given, with its value if it has one. -/
abbrev Given := Flag × Text

/-- Finds the option that an argument names, and the value that is attached to it. -/
def flagOf (flags : List Flag) (arg : Text) : Except UsageFault (Flag × Option Text) :=
  match arg with
  | '-' :: '-' :: long =>
    let name := long.takeWhile (· != '=')
    match flags.find? (fun f => f.spelling.1 == name), long.dropWhile (· != '=') with
    | none, _ => .error .noSuchOption
    | some f, '=' :: value => if f.takesValue then .ok (f, some value) else .error .badOptionUsage
    | some f, _ => .ok (f, none)
  | '-' :: letter :: attached =>
    match flags.find? fun f => f.spelling.2 == some letter with
    | none => .error .noSuchOption
    | some f => .ok (f, if attached.isEmpty then none else some attached)
  | _ => .error .noSuchOption

/-- Whether an argument is written like an option. -/
def looksLikeFlag (arg : Text) : Bool := arg.head? == some '-' && 1 < arg.length

/-- Separates the options from the other arguments.  If `mixed` does not hold, the first other
argument ends the options. -/
def separate (flags : List Flag) (mixed : Bool) :
    List Text → Except UsageFault (List Given × List Text)
  | [] => .ok ([], [])
  | arg :: rest =>
    if arg == ['-', '-'] then .ok ([], rest)
    else if looksLikeFlag arg then do
      match ← flagOf flags arg, rest with
      | (f, some value), rest =>
        let (given, others) ← separate flags mixed rest
        pure ((f, value) :: given, others)
      | (f, none), rest =>
        if !f.takesValue then
          let (given, others) ← separate flags mixed rest
          pure ((f, []) :: given, others)
        else match rest with
          | [] => throw .badOptionUsage
          | value :: rest =>
            let (given, others) ← separate flags mixed rest
            pure ((f, value) :: given, others)
    else if mixed then do
      let (given, others) ← separate flags mixed rest
      pure (given, arg :: others)
    else .ok ([], arg :: rest)

/-! ### Requests -/

/-- What a command is asked to do. -/
structure Request where
  verb : Verb
  equation : Text
  bindings : List Text
  pattern : Option Text
  config : Option Text
  raiseErrors : Bool
deriving DecidableEq

/-- What the program is asked to do. -/
inductive Invocation
  | version
  | command (verbose : Bool) (request : Request)
deriving DecidableEq

/-- The value of an option that was given last. -/
def lastOf (flag : Flag) (given : List Given) : Option Text :=
  (given.reverse.find? fun (f, _) => f == flag).map (·.2)

/-- The request of a command; options are looked at before the equation is. -/
def Request.read (verb : Verb) (args : List Text) : Except UsageFault Request := do
  let (given, others) ← separate verb.flags true args
  if (lastOf .config given).any (·.contains '\x00') then throw .impossiblePath
  match others with
  | [] => throw .missingParameter
  | [equation] =>
    pure {
      verb := verb
      equation := equation
      bindings := (given.filter fun (f, _) => f == .variable).map (·.2)
      pattern := lastOf .pattern given
      config := lastOf .config given
      raiseErrors := (lastOf .raiseErrors given).isSome }
  | _ => throw .usage

/-- What all arguments together ask for.  Behind two dashes an option can stand in the place of the
command; it is none, but it is read once more for what may be wrong with it, or for the
version. -/
def Invocation.read (args : List Text) : Except UsageFault Invocation := do
  let (given, others) ← separate generalFlags false args
  if (lastOf .version given).isSome then pure .version
  else match others with
    | [] => throw .usage
    | name :: rest => match Verb.named? name with
      | some verb =>
        pure (.command (lastOf .verbose given).isSome (← Request.read verb rest))
      | none =>
        let (given, _) ← separate generalFlags false others
        if (lastOf .version given).isSome then pure .version else throw .usage

end Reckon.Command
