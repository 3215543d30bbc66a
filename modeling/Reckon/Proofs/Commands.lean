/-
How commands end.

A failure can reach a command in two ways, kept as an outcome or raised, and reading and evaluating can
each fail.  Which of the ways it is depends on the options alone, and what an equation comes to does not
depend on that.  So the answer of a command can be told beforehand, from the equation and the
variables: `Verb.answer`.

A run prints the answer, or it reports the fault and exits with one.  Evaluation expects failures in
either way, and splitting into tokens never asks how they are to be handed over.  Rendering is
different: it is not prepared for a fault that is raised, and a settings file can ask for that.

What is printed is told up to the console.  A command hands over markup, with all text escaped that it
has not written itself, and the same markup is asked of any console here.

Evaluation catches the faults that the library raises.  There are no others, for a settings file can
select from the standard operators and functions, and their rules throw nothing.
-/
import Reckon.Command.Run
import Reckon.Proofs.Safety
import Reckon.Proofs.Screen
import Reckon.Proofs.Tokens.Order

namespace Reckon

variable {o : Options} {behavior : ErrorBehavior} {source : Text}

/-! ### What becomes of failures has no part in an equation -/

/-- Options with another error behavior read the same, and remember the behavior with it. -/
theorem Equation.parse_withBehavior :
    Equation.parse { o with errorBehavior := behavior } source =
      (Equation.parse o source).map fun e =>
        { e with options := { o with errorBehavior := behavior } } := by
  have htokens : tokenize { o with errorBehavior := behavior } source = tokenize o source :=
    tokenize_congr rfl (fun _ => rfl) source
  unfold Equation.parse
  rw [htokens]
  cases tokenize o source with
  | error fault => rfl
  | ok tokens =>
      dsimp only [Except.mapError, bind, Except.bind]
      rw [parseTokens_congr Shape.of_withBehavior rfl]
      cases parseTokens o source tokens <;> rfl

namespace Expr

variable {get : Text → Option Value}

mutual
theorem evalPlain_withBehavior : ∀ e : Expr,
    e.evalPlain { o with errorBehavior := behavior } get = e.evalPlain o get
  | const _ => by rw [evalPlain_const, evalPlain_const]
  | var _ => by rw [evalPlain_var, evalPlain_var]
  | unary _ operand => by
      rw [evalPlain_unary, evalPlain_unary, evalPlain_withBehavior operand]
      rfl
  | binary _ l r => by
      rw [evalPlain_binary, evalPlain_binary, evalPlain_withBehavior l, evalPlain_withBehavior r]
      rfl
  | call _ args => by
      rw [evalPlain_call, evalPlain_call, mapM_evalPlain_withBehavior args]
      rfl

theorem mapM_evalPlain_withBehavior : ∀ es : List Expr,
    es.mapM (evalPlain { o with errorBehavior := behavior } get) = es.mapM (evalPlain o get)
  | [] => by rw [List.mapM_nil, List.mapM_nil]
  | e :: rest => by
      rw [List.mapM_cons, List.mapM_cons, evalPlain_withBehavior e, mapM_evalPlain_withBehavior rest]
end

end Expr

/-- An equation that has been read comes to the same under any error behavior. -/
theorem Equation.evaluate_withBehavior {e : Equation} (h : Equation.parse o source = .ok e)
    (get : Text → Option Value) :
    ({ e with options := { o with errorBehavior := behavior } } : Equation).evaluate get =
      e.evaluate get := by
  obtain ⟨hplain, hoptions⟩ := wellFormed_of_parse h
  have hagain : Equation.parse { o with errorBehavior := behavior } source =
      .ok { e with options := { o with errorBehavior := behavior } } := by
    rw [Equation.parse_withBehavior, h]
    rfl
  unfold Equation.evaluate
  rw [hoptions, Expr.eval_eq_evalPlain _ _ _ hplain.knowsBinaries,
    Expr.eval_eq_evalPlain _ _ _ (wellFormed_of_parse hagain).1.knowsBinaries]
  exact congrArg _ (Expr.evalPlain_withBehavior e.root)

/-! ### Faults that the library raises -/

/-- The operators and functions are standard ones. -/
structure Options.Selected (o : Options) : Prop where
  operators : ∀ op ∈ o.operators, op ∈ Operator.standard
  functions : ∀ f ∈ o.functions, f ∈ MathFunction.standard

namespace Options.Selected

theorem standard : Options.standard.Selected := ⟨fun _ hop => hop, fun _ hf => hf⟩

theorem ofLibrary (h : o.Selected) : o.OfLibrary := by
  intro rule hrule
  refine Options.standard_ofLibrary rule ?_
  rcases List.mem_append.mp hrule with hrule | hrule
  · obtain ⟨op, hop, hrule⟩ := List.mem_flatMap.mp hrule
    exact List.mem_append_left _ (List.mem_flatMap.mpr ⟨op, h.operators op hop, hrule⟩)
  · obtain ⟨f, hf, rfl⟩ := List.mem_map.mp hrule
    exact List.mem_append_right _ (List.mem_map_of_mem (h.functions f hf))

theorem of_build {d : Draft} (h : d.build = .ok o)
    (hoperators : ∀ op ∈ d.operators, op ∈ Operator.standard)
    (hfunctions : ∀ f ∈ d.functions, f ∈ MathFunction.standard) : o.Selected := by
  have hreads := (Draft.build_eq_ok.mp h).1
  exact ⟨by rwa [hreads.operators], by rwa [hreads.functions]⟩

/-- A settings file only selects. -/
theorem applyTo {base : Options} {file : Text} {s : Settings} (h : base.Selected)
    (hread : Settings.read file = .ok s) (happly : s.applyTo base = .ok o) : o.Selected := by
  obtain ⟨d, hbuild, -, hoperators, hfunctions⟩ := Settings.exists_draft happly
  obtain ⟨hops, hfs⟩ := Settings.mem_standard_of_read hread
  refine of_build hbuild ?_ ?_
  · rw [hoperators]
    cases hs : s.operators with
    | none => exact h.operators
    | some operators => exact hops operators hs
  · rw [hfunctions]
    cases hs : s.functions with
    | none => exact h.functions
    | some functions => exact hfs functions hs

end Options.Selected

/-- Reading fails in two ways, and both faults are of the library. -/
theorem Equation.fault_of_parse {fault : Fault} (h : Equation.parse o source = .error fault) :
    (∃ scanFault, fault = .scan scanFault) ∨ ∃ parseFault, fault = .parse parseFault := by
  rcases Failing.bind_eq_error.mp h with h | ⟨tokens, -, h⟩
  · obtain ⟨scanFault, -, rfl⟩ := Failing.mapError_eq_error.mp h
    exact .inl ⟨scanFault, rfl⟩
  · rcases Failing.bind_eq_error.mp h with h | ⟨root, -, h⟩
    · obtain ⟨parseFault, -, rfl⟩ := Failing.mapError_eq_error.mp h
      exact .inr ⟨parseFault, rfl⟩
    · cases h

theorem Equation.isOwn_of_parse {fault : Fault} (h : Equation.parse o source = .error fault) :
    fault.isOwn = true := by
  rcases Equation.fault_of_parse h with ⟨_, rfl⟩ | ⟨_, rfl⟩ <;> rfl

/-- With rules of the library, a fault of an equation that has been read is one of the library. -/
theorem Equation.isOwn_of_evaluate (hrules : o.OfLibrary) {e : Equation}
    (hparse : Equation.parse o source = .ok e) {get : Text → Option Value} {fault : Fault}
    (h : e.evaluate get = .error fault) : ∃ evalFault, fault = .eval evalFault ∧ fault.isOwn = true := by
  obtain ⟨hplain, hoptions⟩ := wellFormed_of_parse hparse
  obtain ⟨evalFault, heval, rfl⟩ := Failing.mapError_eq_error.mp h
  rw [hoptions, Expr.eval_eq_evalPlain _ _ _ hplain.knowsBinaries] at heval
  refine ⟨evalFault, rfl, ?_⟩
  cases hplain.arises hrules heval <;> rfl

namespace Command

variable {console : Console} {places : Text → Place} {args : List Text} {verbose : Bool}
  {request : Request} {equation : Text} {store : Store} {log : Log}

theorem selected_of_configured {config : Option Text} (h : configured places config = .ok (o, log)) :
    o.Selected := by
  unfold configured at h
  split at h
  · cases h
    exact .standard
  · split at h
    · cases h
      exact .standard
    · cases h
    · cases h
    · obtain ⟨settings, hread, h⟩ := Failing.bind_eq_ok.mp h
      obtain ⟨changed, happly, h⟩ := Failing.bind_eq_ok.mp h
      cases h
      exact Options.Selected.standard.applyTo hread happly

/-- Whatever the settings file and the arguments are, the options of a request are selected. -/
theorem selected_of_optionsOf (h : optionsOf places request = .ok (o, log)) : o.Selected := by
  obtain ⟨⟨base, lines⟩, hconfigured, h⟩ := Failing.bind_eq_ok.mp h
  have hbase : base.Selected := selected_of_configured hconfigured
  -- The pattern and the error behavior are set on top of that, with the operators and functions kept.
  obtain ⟨patterned, hpatterned, h⟩ : ∃ patterned : Options, patterned.Selected ∧
      ((if request.raiseErrors then
          (patterned.withErrorBehavior .raise).mapError SettingFault.issues
        else pure patterned) >>= fun final => pure (final, lines)) = .ok (o, log) := by
    dsimp only at h
    cases hpattern : request.pattern with
    | none =>
        rw [hpattern] at h
        refine ⟨base, hbase, ?_⟩
        split <;> rename_i hraise <;> simpa [hraise] using h
    | some name =>
        rw [hpattern] at h
        obtain ⟨pattern, -, h⟩ := Failing.bind_eq_ok.mp h
        obtain ⟨patterned, hbuild, h⟩ := Failing.bind_eq_ok.mp h
        have hbuild := Failing.mapError_eq_ok.mp hbuild
        refine ⟨patterned, .of_build hbuild hbase.operators hbase.functions, ?_⟩
        split <;> rename_i hraise <;> simpa [hraise] using h
  obtain ⟨final, hfinal, h⟩ := Failing.bind_eq_ok.mp h
  cases h
  split at hfinal
  · exact .of_build (Failing.mapError_eq_ok.mp hfinal) hpatterned.operators hpatterned.functions
  · cases hfinal
    exact hpatterned

/-! ### Answers -/

/-- What a command makes of an equation: all that it is to put out, or what is wrong with the
equation. -/
def Verb.answer (verb : Verb) (console : Console) (o : Options) (equation : Text) (store : Store) :
    Except Fault Text :=
  match verb with
  | .eval => do
    let e ← Equation.parse o equation
    let q ← e.evaluate store.get?
    pure (console.print (console.escape (Value.number q).display))
  | .tokens => do
    let tokens ← (tokenize o equation).mapError Fault.scan
    pure (console.table {
      title := "Tokens".toList
      columns :=
        [⟨['#'], true⟩, ⟨"Kind".toList, false⟩, ⟨"Text".toList, false⟩, ⟨"Span".toList, false⟩]
      rows := tokens.zipIdx.map fun (token, i) =>
        [Text.ofNat i, token.kind.name, console.escape token.text,
          Text.ofInt token.start ++ ':' :: Text.ofInt token.stop] })
  | .render => do
    let e ← Equation.parse o equation
    pure (console.print (console.escape e.render))

/-- The answer of a command does not depend on what becomes of failures. -/
theorem Verb.answer_withBehavior (verb : Verb) (equation : Text) (store : Store) :
    verb.answer console { o with errorBehavior := behavior } equation store =
      verb.answer console o equation store := by
  cases verb with
  | tokens => rfl
  | render =>
      unfold answer
      rw [Equation.parse_withBehavior]
      cases hparse : Equation.parse o equation with
      | error fault => rfl
      | ok e =>
          obtain ⟨-, rfl⟩ := wellFormed_of_parse hparse
          rfl
  | eval =>
      unfold answer
      rw [Equation.parse_withBehavior]
      cases hparse : Equation.parse o equation with
      | error fault => rfl
      | ok e =>
          dsimp only [Except.map, bind, Except.bind]
          rw [Equation.evaluate_withBehavior hparse]

/-! ### Endings -/

/-- What the report of a fault begins with. -/
def Verb.heading (verb : Verb) (behavior : ErrorBehavior) (fault : Fault) : String :=
  match verb, behavior, fault with
  | .tokens, _, _ => "Tokenize"
  | .eval, .raise, _ => "Equation"
  | .eval, .result, .eval _ => "Evaluation"
  | .eval, .result, _ | .render, _, _ => "Parse"

theorem Verb.heading_of_parse {fault : Fault} (h : Equation.parse o equation = .error fault) :
    Verb.eval.heading .result fault = "Parse" := by
  rcases Equation.fault_of_parse h with ⟨_, rfl⟩ | ⟨_, rfl⟩ <;> rfl

/-- All that is put out to report a fault: the heading in red, and the fault in words. -/
def Verb.report (verb : Verb) (console : Console) (behavior : ErrorBehavior) (fault : Fault) : Text :=
  console.print ("[red]".toList ++ (verb.heading behavior fault).toList ++ " error:[/red] ".toList ++
    console.escape fault.report)

/-- On the screen a report shows the heading and the fault, if nothing in the fault means something to
the screen but brackets. -/
theorem Verb.report_screen (verb : Verb) {fault : Fault} (h : Screen.isPlain fault.report = true) :
    verb.report Screen.console behavior fault =
      (verb.heading behavior fault).toList ++ " error: ".toList ++ fault.report ++ ['\n'] := by
  have hprint : ∀ heading ∈ ["Tokenize", "Equation", "Evaluation", "Parse"],
      Screen.console.print ("[red]".toList ++ (heading.toList ++ " error:".toList) ++ "[/red] ".toList ++
        Screen.console.escape fault.report) =
      heading.toList ++ " error:".toList ++ ' ' :: fault.report ++ ['\n'] := by
    simp only [List.forall_mem_cons]
    refine ⟨?_, ?_, ?_, ?_, nofun⟩ <;> exact Screen.print_report (by decide) (by decide) h
  have hheading : verb.heading behavior fault ∈ ["Tokenize", "Equation", "Evaluation", "Parse"] := by
    unfold heading
    split <;> decide
  have hsame := hprint _ hheading
  unfold report
  simp only [List.append_assoc] at hsame ⊢
  exact hsame

/-- A fault that is raised goes through a rendering; the other commands are prepared for it. -/
def GoesThrough (verb : Verb) (o : Options) : Prop := verb = .render ∧ o.errorBehavior = .raise

/-- What an ending has to do with the answer: the answer is printed and the exit code is zero, or the
fault is reported and the exit code is one, unless faults go through. -/
inductive Ending.Gives (through : Prop) (report : Fault → Text) : Ending → Except Fault Text → Prop
  | answer (out log : Text) : Gives through report (.finished 0 out log) (.ok out)
  | report (caught : ¬through) (fault : Fault) (log : Text) :
      Gives through report (.finished 1 (report fault) log) (.error fault)
  | uncaught (h : through) (fault : Fault) : Gives through report (.uncaught fault) (.error fault)

theorem failed_gives {through : Prop} (hcaught : ¬through) {verb : Verb} {fault : Fault} {kind : String}
    (hkind : kind = verb.heading behavior fault) :
    (failed console kind fault log).1.Gives through (verb.report console behavior) (.error fault) := by
  subst hkind
  exact .report hcaught fault []

/-- A fault that the library raises is caught. -/
theorem caught_gives {through : Prop} (hcaught : ¬through) {verb : Verb} {fault : Fault} {kind : String}
    (hown : fault.isOwn = true) (hkind : kind = verb.heading behavior fault) :
    (caught console kind fault log).1.Gives through (verb.report console behavior) (.error fault) := by
  rw [caught, if_pos hown]
  exact failed_gives hcaught hkind

theorem runEval_gives (hrules : o.OfLibrary) (log : Log) :
    (runEval console o equation store log).1.Gives (GoesThrough .eval o)
      (Verb.eval.report console o.errorBehavior) (Verb.eval.answer console o equation store) := by
  have hcaught : ¬GoesThrough .eval o := fun h => nomatch h.1
  unfold runEval Verb.answer Equation.deliverParse
  cases hparse : Equation.parse o equation with
  | error fault =>
      have hown : fault.isOwn = true := Equation.isOwn_of_parse hparse
      cases o.errorBehavior with
      | raise => exact caught_gives hcaught hown rfl
      | result =>
          rw [ErrorBehavior.deliver, hown]
          exact failed_gives hcaught (Verb.heading_of_parse hparse).symm
  | ok e =>
      obtain ⟨-, hoptions⟩ := wellFormed_of_parse hparse
      have hdeliver : o.errorBehavior.deliver (.ok e) = .returned (.ok e) := by
        cases o.errorBehavior <;> rfl
      rw [hdeliver]
      dsimp only [bind, Except.bind]
      unfold Equation.deliverValue
      rw [hoptions]
      cases hvalue : e.evaluate store.get? with
      | error fault =>
          obtain ⟨evalFault, rfl, hown⟩ := Equation.isOwn_of_evaluate hrules hparse hvalue
          cases o.errorBehavior with
          | raise => exact caught_gives hcaught hown rfl
          | result =>
              rw [ErrorBehavior.deliver, hown]
              exact failed_gives hcaught rfl
      | ok q => cases o.errorBehavior <;> exact .answer _ _

theorem runTokens_gives (log : Log) :
    (runTokens console o equation log).1.Gives (GoesThrough .tokens o)
      (Verb.tokens.report console o.errorBehavior) (Verb.tokens.answer console o equation store) := by
  have hcaught : ¬GoesThrough .tokens o := fun h => nomatch h.1
  unfold runTokens Verb.answer
  cases tokenize o equation with
  | error fault => exact failed_gives hcaught rfl
  | ok tokens => exact .answer _ _

theorem runRender_gives (log : Log) :
    (runRender console o equation log).1.Gives (GoesThrough .render o)
      (Verb.render.report console o.errorBehavior) (Verb.render.answer console o equation store) := by
  unfold runRender Verb.answer Equation.deliverParse
  cases hparse : Equation.parse o equation with
  | error fault =>
      cases hbehavior : o.errorBehavior with
      | raise => exact .uncaught ⟨rfl, hbehavior⟩ fault
      | result =>
          have hcaught : ¬GoesThrough .render o := fun h => by cases hbehavior.symm.trans h.2
          rw [ErrorBehavior.deliver, Equation.isOwn_of_parse hparse]
          exact failed_gives hcaught rfl
  | ok e => cases o.errorBehavior <;> exact .answer _ _

/-! ### Requests -/

/-- What a request asks for is settled: options that can be used, from the settings file and the
arguments, and for an evaluation also the variables. -/
structure Settled (places : Text → Place) (request : Request) (o : Options) (store : Store)
    (log : Log) : Prop where
  options : optionsOf places request = .ok (o, log)
  bindings : request.verb = .eval →
    ∃ entries, request.bindings.mapM assignment = .ok entries ∧ store = .ofList entries

theorem runRequest_gives (console : Console) (h : Settled places request o store log) :
    (runRequest console places request).1.Gives (GoesThrough request.verb o)
      (request.verb.report console o.errorBehavior)
      (request.verb.answer console o request.equation store) := by
  unfold runRequest
  rw [h.options]
  dsimp only
  cases hverb : request.verb with
  | eval =>
      obtain ⟨entries, hentries, rfl⟩ := h.bindings hverb
      dsimp only
      rw [hentries]
      exact runEval_gives (selected_of_optionsOf h.options).ofLibrary log
  | tokens => exact runTokens_gives log
  | render => exact runRender_gives log

/-- The log is all that a run adds to what comes of its request. -/
theorem run_gives (console : Console) (hread : Invocation.read args = .ok (.command verbose request))
    (h : Settled places request o store log) :
    (run console places args).Gives (GoesThrough request.verb o)
      (request.verb.report console o.errorBehavior)
      (request.verb.answer console o request.equation store) := by
  have hgives := runRequest_gives console h
  unfold run
  rw [hread]
  dsimp only
  generalize request.verb.answer console o request.equation store = answer at hgives ⊢
  generalize runRequest console places request = result at hgives ⊢
  obtain ⟨ending, lines⟩ := result
  cases hgives with
  | answer out => exact .answer out _
  | report caught fault => exact .report caught fault _
  | uncaught hthrough fault => exact .uncaught hthrough fault

/-! ### What an ending tells about the answer -/

section Gives

variable {through : Prop} {report : Fault → Text} {ending : Ending} {answer : Except Fault Text}

theorem Ending.Gives.finished_zero_iff (h : ending.Gives through report answer) (out : Text) :
    answer = .ok out ↔ ∃ written, ending = .finished 0 out written := by
  cases h with
  | answer printed log => simp [eq_comm]
  | report | uncaught => simp

theorem Ending.Gives.of_error {fault : Fault} (h : ending.Gives through report (.error fault)) :
    (through → ending = .uncaught fault) ∧
      (¬through → ∃ written, ending = .finished 1 (report fault) written) := by
  cases h with
  | report caught fault log =>
      exact ⟨fun hthrough => absurd hthrough caught, fun _ => ⟨log, rfl⟩⟩
  | uncaught hthrough => exact ⟨fun _ => rfl, fun caught => absurd hthrough caught⟩

/-- The exit code tells whether there is an answer, even where a fault goes through. -/
theorem Ending.Gives.exitCode_eq (h : ending.Gives through report answer) :
    ending.exitCode = if answer.isOk then 0 else 1 := by
  cases h <;> rfl

end Gives

/--
**A command answers or reports what is wrong, unless it renders and faults are to be raised.**

With options and variables that can be used, a run exits with zero and prints the answer of its
command exactly if there is one.  If the equation is at fault, the run reports the fault and exits with
one; only a rendering under options that ask for faults to be raised does not catch the fault.  The exit
code is the same for all runs of the command whose options differ at most in what becomes of failures.
All this is so whatever the console makes of what is printed.
-/
theorem run_answers_or_reports (console : Console)
    (hread : Invocation.read args = .ok (.command verbose request))
    (h : Settled places request o store log) :
    (∀ out, request.verb.answer console o request.equation store = .ok out ↔
      ∃ written, run console places args = .finished 0 out written) ∧
    (∀ fault, request.verb.answer console o request.equation store = .error fault →
      (request.verb = .render ∧ o.errorBehavior = .raise →
        run console places args = .uncaught fault) ∧
      (¬(request.verb = .render ∧ o.errorBehavior = .raise) → ∃ written,
        run console places args =
          .finished 1 (request.verb.report console o.errorBehavior fault) written)) ∧
    ∀ (places' : Text → Place) (args' : List Text) (verbose' : Bool) (request' : Request)
        (behavior : ErrorBehavior) (log' : Log),
      Invocation.read args' = .ok (.command verbose' request') →
      Settled places' request' { o with errorBehavior := behavior } store log' →
      request'.verb = request.verb → request'.equation = request.equation →
      (run console places' args').exitCode = (run console places args).exitCode := by
  have hgives := run_gives console hread h
  refine ⟨hgives.finished_zero_iff, fun fault hanswer => ?_, ?_⟩
  · rw [hanswer] at hgives
    exact hgives.of_error
  · intro places' args' verbose' request' behavior log' hread' h' hverb hequation
    rw [hgives.exitCode_eq, (run_gives console hread' h').exitCode_eq, hverb, hequation,
      Verb.answer_withBehavior]

/-- What is printed on the screen where faults are to be raised: a quotient, and the report of a
division by zero. -/
theorem run_answers_or_reports_quotient :
    let args (binding : String) : List Text :=
      ["eval".toList, "6/[x]".toList, "--var".toList, binding.toList, "--raise-errors".toList]
    (∃ written, run Screen.console (fun _ => .missing) (args "x=2") = .finished 0 "3\n".toList written) ∧
      ∃ written, run Screen.console (fun _ => .missing) (args "x=0") =
        .finished 1 "Equation error: Division by zero in '/'\n".toList written := by
  intro args
  let o : Options := { Options.standard with errorBehavior := .raise }
  let request (binding : String) : Request :=
    ⟨.eval, "6/[x]".toList, [binding.toList], none, none, true⟩
  let store (n : Int) : Store := .ofList [(['x'], .number (.int n))]
  let fault : Fault := .eval (.failed (.operator ['/']) .divisionByZero)
  have hread : ∀ binding ∈ ["x=2", "x=0"],
      Invocation.read (args binding) = .ok (.command false (request binding)) := by
    simp only [List.forall_mem_cons]
    refine ⟨?_, ?_, nofun⟩ <;> exact Failing.toOption_eq_some.mp (by decide +kernel)
  have hsettled : ∀ binding n, assignment binding.toList = .ok (['x'], .number (.int n)) →
      Settled (fun _ => .missing) (request binding) o (store n) [] := fun binding n hbinding =>
    ⟨rfl, fun _ => ⟨[(['x'], .number (.int n))], by simp [request, hbinding], rfl⟩⟩
  have hanswer : ∀ binding n, (request binding).verb.answer Screen.console o "6/[x]".toList (store n) =
      ((Expr.binary ['/'] (.const (.int 6)) (.var ['x'])).evalPlain o (store n).get?).mapError Fault.eval
        >>= fun q => .ok (Screen.console.print (Screen.console.escape (Value.number q).display)) := by
    intro binding n
    have hparse : Equation.parse o "6/[x]".toList =
        .ok ⟨.binary ['/'] (.const (.int 6)) (.var ['x']), "6/[x]".toList, o⟩ := rfl
    show (Equation.parse o _ >>= _) = _
    rw [hparse, ← Expr.eval_eq_evalPlain _ _ _ (by decide)]
    rfl
  constructor
  · obtain ⟨hprints, -⟩ :=
      run_answers_or_reports Screen.console (hread "x=2" (by simp)) (hsettled "x=2" 2 rfl)
    have hshown : Screen.console.print (Screen.console.escape ['3']) = "3\n".toList :=
      Screen.print_escape rfl
    exact (hprints _).mp ((hanswer _ 2).trans (congrArg Except.ok hshown))
  · obtain ⟨-, hreports, -⟩ :=
      run_answers_or_reports Screen.console (hread "x=0" (by simp)) (hsettled "x=0" 0 rfl)
    obtain ⟨written, hrun⟩ := (hreports fault ((hanswer _ 0).trans rfl)).2 fun h => nomatch h.1
    have hplain : Screen.isPlain fault.report = true := by decide
    have hshown : Verb.eval.report Screen.console .raise fault =
        "Equation error: Division by zero in '/'\n".toList :=
      (Verb.report_screen .eval hplain).trans (by decide)
    exact ⟨written, hrun.trans (congrArg (Ending.finished 1 · written) hshown)⟩

/-- A settings file that asks for faults to be raised: an equation that breaks off after its operator is
not reported when it is rendered, whatever the console. -/
theorem not_reported_render :
    let places : Text → Place := fun _ => .file "[equation]\nerror_behavior = 'raise'".toList
    let args := ["render".toList, "1+".toList, "-c".toList, "c.toml".toList]
    let fault : Fault := .parse ⟨.missingRightOperand ['+'], ⟨"1+".toList, 1, 2⟩⟩
    ∃ request o log, Invocation.read args = .ok (.command false request) ∧
      Settled places request o .empty log ∧
      ∀ console, request.verb.answer console o request.equation .empty = .error fault ∧
        run console places args = .uncaught fault ∧
        ∀ out written, run console places args ≠ .finished 1 out written := by
  intro places args fault
  let request : Request := ⟨.render, "1+".toList, [], none, some "c.toml".toList, false⟩
  have hread : Invocation.read args = .ok (.command false request) :=
    Failing.toOption_eq_some.mp (by decide +kernel)
  have hfile : ((optionsOf places request).toOption.map fun settled =>
      (settled.1.errorBehavior, (Equation.parse settled.1 "1+".toList).map fun _ => ())) =
      some (.raise, .error fault) := by decide +kernel
  obtain ⟨⟨o, log⟩, hoptions, hsame⟩ := Option.map_eq_some_iff.mp hfile
  obtain ⟨hraise, hparse⟩ := Prod.mk.inj hsame
  have hsettled : Settled places request o .empty log :=
    ⟨Failing.toOption_eq_some.mp hoptions, fun heval => by cases heval⟩
  refine ⟨request, o, log, hread, hsettled, fun console => ?_⟩
  have hanswer : request.verb.answer console o request.equation .empty = .error fault :=
    Failing.bind_eq_error.mpr (.inl (Failing.map_eq_error.mp hparse))
  have hgives := run_gives console hread hsettled
  rw [hanswer] at hgives
  have hrun : run console places args = .uncaught fault := hgives.of_error.1 ⟨rfl, hraise⟩
  refine ⟨hanswer, hrun, fun out written hfinished => ?_⟩
  rw [hrun] at hfinished
  cases hfinished

end Command
end Reckon
