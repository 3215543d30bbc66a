/-
What the commands do.

A run takes the arguments and what stands under each path, and gives all that an observer
can see: the exit code and both outputs, or the way in which it broke off.  Files are given
by a function from paths, so that a run has no other contact with the world; only the path
that `configPath?` finds is ever looked up.  What is printed goes through a console.
-/
import Reckon.Command.Arguments
import Reckon.Command.Console
import Reckon.Outcome
import Reckon.Settings

namespace Reckon.Command

/-- What stands under a path.  A path can also be unfit to be looked up, such as one that is too
long. -/
inductive Place
  | missing
  | folder
  | file (text : Text)
  | unreachable

/-- How a run ends. -/
inductive Ending
  /-- It printed what it had to say. -/
  | finished (exitCode : Nat) (out : Text) (log : Text)
  /-- No command reported the fault of the equation. -/
  | uncaught (fault : Fault)
  /-- The arguments cannot be used. -/
  | misused (fault : UsageFault)
  /-- The settings file is of a kind, or holds a value of a kind, that cannot be used. -/
  | broken (fault : SettingFault)

/-- The exit code of a run. -/
def Ending.exitCode : Ending → Nat
  | .finished code _ _ => code
  | .misused _ => 2
  | .uncaught _ | .broken _ => 1

/-- The line that names the program and its version. -/
def versionLine : Text := "eqparse 0.3.0\n".toList

/-! ### Variables -/

/-- A variable and its value from an argument of the form `name=value`. -/
def assignment (arg : Text) : Except UsageFault (Text × Value) :=
  let name := Text.trim (arg.takeWhile (· != '='))
  match arg.dropWhile (· != '='), name with
  | [], _ | _, [] =>
    .error (.badParameter (some ("Expected name=value, got ".toList ++ arg.quoted)))
  | _ :: rest, name =>
    let raw := Text.trim rest
    match Numeral.readInt? raw, Numeral.readFloat? raw with
    | some n, _ => .ok (name, .number (.int n))
    | none, some x => .ok (name, .number (.float x))
    | none, none => .error (.badParameter (some ("Not a number: ".toList ++ raw.quoted)))

/-! ### Options -/

/-- What a run writes to the log, line by line and newest first, if it keeps one. -/
abbrev Log := List Text

/-- A line of the log, from the part of the program that it comes from. -/
def logLine (part : String) (message : Text) : Text :=
  "eqparse.core.".toList ++ part.toList ++ ": ".toList ++ message

/-- A path in its plain form, without empty parts and references to the same place.  Two slashes at
the front are something else than one, and more than two are the same as one. -/
def plainPath (path : Text) : Text :=
  let root := match path with
    | '/' :: '/' :: '/' :: _ => ['/']
    | '/' :: '/' :: _ => ['/', '/']
    | '/' :: _ => ['/']
    | _ => []
  let parts := (path.splitOn '/').filter fun p => p != [] && p != ['.']
  let plain := root ++ Text.join ['/'] parts
  if plain.isEmpty then ['.'] else plain

/-- How a fault in the settings ends a run: most are put down to the arguments. -/
def endingOf (fault : SettingFault) : Ending :=
  match fault with
  | .patternNotText | .wrongKind | .folder | .unreachable => .broken fault
  | _ => .misused (.badParameter fault.message?)

/-- The options that a settings file makes of the standard ones, and what is logged about it. -/
def configured (places : Text → Place) (config : Option Text) :
    Except SettingFault (Options × Log) :=
  match config.map plainPath with
  | none => .ok (.standard, [])
  | some path => match places path with
    | .missing => .ok (.standard, [logLine "options"
        ("No options file at ".toList ++ path ++ ", using defaults".toList)])
    | .folder => .error .folder
    | .unreachable => .error .unreachable
    | .file file => do
      let settings ← Settings.read file
      let o ← settings.applyTo .standard
      pure (o, [logLine "options" ("Loaded equation options from ".toList ++ path ++ ": ".toList ++
        (Value.list (settings.names.map Value.text)).display)])

/-- The options of a request. -/
def optionsOf (places : Text → Place) (request : Request) :
    Except SettingFault (Options × Log) := do
  let (o, log) ← configured places request.config
  let o ← match request.pattern with
    | none => pure o
    | some name => (o.withPattern (← Pattern.named? name)).mapError .issues
  let o ← if request.raiseErrors then (o.withErrorBehavior .raise).mapError .issues else pure o
  pure (o, log)

/-! ### Reports -/

/-- A run that failed because of the equation. -/
def failed (console : Console) (kind : String) (fault : Fault) (log : Log) : Ending × Log :=
  (.finished 1 (console.print ("[red]".toList ++ kind.toList ++ " error:[/red] ".toList ++
    console.escape fault.report)) [], log)

/-- A run that met a raised fault and catches those that the library raises. -/
def caught (console : Console) (kind : String) (fault : Fault) (log : Log) : Ending × Log :=
  if fault.isOwn then failed console kind fault log else (.uncaught fault, log)

/-- A run that printed a line. -/
def printed (console : Console) (line : Text) (log : Log) : Ending × Log :=
  (.finished 0 (console.print (console.escape line)) [], log)

/-- The log after an equation was read. -/
def logParsed (e : Equation) (log : Log) : Log :=
  logLine "equation_lang.parser" ("Parsed ".toList ++ e.source.quoted ++ " into ".toList ++ e.render)
    :: log

/-- The log after a failure was kept as a result. -/
def logCaptured (phase : String) (fault : Fault) (log : Log) : Log :=
  logLine "result" ("Captured ".toList ++ phase.toList ++ " failure: ".toList ++ fault.message) :: log

/-! ### The commands -/

/-- Evaluates an equation. -/
def runEval (console : Console) (o : Options) (equation : Text) (store : Store) (log : Log) :
    Ending × Log :=
  match Equation.deliverParse o equation with
  | .raised fault => caught console "Equation" fault log
  | .returned (.error fault) => failed console "Parse" fault (logCaptured "parse" fault log)
  | .returned (.ok e) =>
    let log := logLine "equation_lang.evaluator" ("Evaluating ".toList ++ e.source.quoted) ::
      logParsed e log
    match e.deliverValue store.get? with
    | .raised fault => caught console "Equation" fault log
    | .returned (.error fault) =>
      failed console "Evaluation" fault (logCaptured "evaluation" fault log)
    | .returned (.ok q) => printed console (Value.number q).display log

/-- The table of tokens. -/
def tokenTable (console : Console) (tokens : List Token) : Table where
  title := "Tokens".toList
  columns :=
    [⟨['#'], true⟩, ⟨"Kind".toList, false⟩, ⟨"Text".toList, false⟩, ⟨"Span".toList, false⟩]
  rows := tokens.zipIdx.map fun (t, i) => [Text.ofNat i, t.kind.name, console.escape t.text,
    Text.ofInt t.start ++ ':' :: Text.ofInt t.stop]

/-- Shows the tokens of an equation. -/
def runTokens (console : Console) (o : Options) (equation : Text) (log : Log) : Ending × Log :=
  match tokenize o equation with
  | .error fault => failed console "Tokenize" (.scan fault) log
  | .ok tokens => (.finished 0 (console.table (tokenTable console tokens)) [], log)

/-- Writes an equation anew. -/
def runRender (console : Console) (o : Options) (equation : Text) (log : Log) : Ending × Log :=
  match Equation.deliverParse o equation with
  | .raised fault => (.uncaught fault, log)
  | .returned (.error fault) => failed console "Parse" fault (logCaptured "parse" fault log)
  | .returned (.ok e) => printed console e.render (logParsed e log)

/-- Carries out a request; options and variables are settled before the equation is looked at. -/
def runRequest (console : Console) (places : Text → Place) (request : Request) : Ending × Log :=
  match optionsOf places request with
  | .error fault => (endingOf fault, [])
  | .ok (o, log) =>
    match request.verb with
    | .eval => match request.bindings.mapM assignment with
      | .error fault => (.misused fault, log)
      | .ok entries => runEval console o request.equation (.ofList entries) log
    | .tokens => runTokens console o request.equation log
    | .render => runRender console o request.equation log

/-- The path of the settings file that a run looks up, if it looks up any. -/
def configPath? (args : List Text) : Option Text :=
  match Invocation.read args with
  | .ok (.command _ request) => request.config.map plainPath
  | _ => none

/-- Runs the program. -/
def run (console : Console) (places : Text → Place) (args : List Text) : Ending :=
  match Invocation.read args with
  | .error fault => .misused fault
  | .ok .version => .finished 0 versionLine []
  | .ok (.command verbose request) =>
    match runRequest console places request with
    | (.finished code out _, log) =>
      .finished code out (if verbose then log.reverse.flatMap (· ++ ['\n']) else [])
    | (ending, _) => ending

end Reckon.Command
