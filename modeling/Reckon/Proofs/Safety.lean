/-
What can still go wrong in an equation that has been read.

Evaluation looks every operator and function up again, and it could fail to find one, or
find an operator without the prefix form that a tree asks for.  In a parsed tree that does
not happen: whatever the parser builds is well formed for its options, on each of the paths
on which it builds something.  What is left are faults that data bring about, a variable
without a value, a stored value that is no number within the limits, and rules that have no
answer for their numbers.  `EvalFault.Arises` lists them, with what has to hold for each.

That the rules are those of the library matters for the last point alone.  They fail in no other
way, while a rule of another origin can throw whatever it likes.
-/
import Reckon.Proofs.Evaluation
import Reckon.Proofs.Literals

namespace Reckon

/-- A literal as equations hold it: within the limits, and not below zero. -/
def Literal.IsUnsigned (l : Literal) : Prop := l.isBounded = true ∧ l.isNegative = false

/-- A fault that data bring about, in a tree whose operators and functions are those of the options. -/
inductive EvalFault.Arises (o : Options) (get : Text → Option Value) : EvalFault → Prop
  | unresolved {name : Text} (h : get name = none ∨ get name = some .nothing) :
      Arises o get (.unresolved name)
  /-- A stored value is no number, or a number beyond the limits. -/
  | stored {name : Text} {v : Value} {failure : Failure} (known : get name = some v)
      (h : v.check = .error failure) : Arises o get (.failed (.variable name) failure)
  | prefixed {symbol : Text} {op : Operator} {rule : Rule} {a : Quantity} {failure : Failure}
      (known : o.operator? symbol = some op) (hunary : op.unary = some rule)
      (h : rule.applyAt (.operator symbol) [a] = .error (.failed (.operator symbol) failure)) :
      Arises o get (.failed (.operator symbol) failure)
  | binary {symbol : Text} {op : Operator} {a b : Quantity} {failure : Failure}
      (known : o.operator? symbol = some op)
      (h : op.binary.applyAt (.operator symbol) [a, b] =
        .error (.failed (.operator symbol) failure)) :
      Arises o get (.failed (.operator symbol) failure)
  /-- A function has no answer for as many arguments as it accepts. -/
  | call {name : Text} {f : MathFunction} {args : List Quantity} {failure : Failure}
      (known : o.function? name = some f) (haccepts : f.accepts args.length = true)
      (h : f.rule.applyAt (.call name) args = .error (.failed (.call name) failure)) :
      Arises o get (.failed (.call name) failure)

variable {o : Options} {get : Text → Option Value}

/-! ### Rules of the library -/

/-- The rules of all operators and functions. -/
def Options.rules (o : Options) : List Rule :=
  o.operators.flatMap (fun op => op.binary :: op.unary.toList) ++ o.functions.map (·.rule)

/-- All operators and functions use rules of the library, under whatever symbols and names. -/
def Options.OfLibrary (o : Options) : Prop := ∀ rule ∈ o.rules, rule.isStandard = true

theorem Options.standard_ofLibrary : Options.standard.OfLibrary := by
  unfold OfLibrary
  decide

namespace Options

variable {symbol name : Text} {op : Operator} {f : MathFunction} {rule : Rule}

theorem mem_of_operator? (known : o.operator? symbol = some op) : op ∈ o.operators :=
  List.mem_reverse.mp (List.mem_of_find?_eq_some known)

theorem mem_of_function? (known : o.function? name = some f) : f ∈ o.functions :=
  List.mem_reverse.mp (List.mem_of_find?_eq_some known)

theorem binary_mem_rules (known : o.operator? symbol = some op) : op.binary ∈ o.rules :=
  List.mem_append_left _ (List.mem_flatMap.mpr ⟨op, mem_of_operator? known, List.mem_cons_self⟩)

theorem unary_mem_rules (known : o.operator? symbol = some op) (hunary : op.unary = some rule) :
    rule ∈ o.rules := by
  refine List.mem_append_left _ (List.mem_flatMap.mpr ⟨op, mem_of_operator? known, ?_⟩)
  rw [hunary]
  exact List.mem_cons_of_mem _ List.mem_cons_self

theorem function_mem_rules (known : o.function? name = some f) : f.rule ∈ o.rules :=
  List.mem_append_right _ (List.mem_map_of_mem (mem_of_function? known))

end Options

namespace Rule

variable {site : Site} {rule : Rule} {args : List Quantity}

/-- Rules of the library only raise exceptions by which a computation fails. -/
theorem call_ne_threw (hrule : rule.isStandard = true) (thrown : Thrown) :
    rule.call args ≠ .threw thrown := by
  have hof : ∀ outcome, Response.of outcome ≠ .threw thrown := by
    intro outcome
    cases outcome <;> exact Response.noConfusion
  unfold call
  split
  · exact hof _
  · exact Response.noConfusion
  · exact hof _
  · cases hrule
  · exact Response.noConfusion
  · exact Response.noConfusion

/-- A rule that has no answer fails at its site, or has thrown an exception that passes. -/
theorem applyAt_eq_error {fault : EvalFault} (h : rule.applyAt site args = .error fault) :
    (∃ failure, fault = .failed site failure) ∨
      ∃ thrown, rule.call args = .threw thrown ∧ fault = .passed thrown := by
  unfold applyAt at h
  cases hcall : rule.call args with
  | returned v =>
      rw [hcall] at h
      obtain ⟨failure, -, hfailure⟩ := Failing.mapError_eq_error.mp h
      exact .inl ⟨failure, hfailure.symm⟩
  | raised e =>
      rw [hcall] at h
      cases h
      exact .inl ⟨e.failure, rfl⟩
  | threw thrown =>
      rw [hcall] at h
      cases h
      exact .inr ⟨thrown, rfl, rfl⟩

end Rule

/-! ### Evaluating with what is known -/

namespace Expr

theorem evalPlain_unary_of_known {symbol : Text} {op : Operator} {rule : Rule}
    (known : o.operator? symbol = some op) (hunary : op.unary = some rule) (e : Expr) :
    (unary symbol e).evalPlain o get =
      e.evalPlain o get >>= fun a => rule.applyAt (.operator symbol) [a] := by
  have hnamed : o.operatorNamed symbol = .ok op := by rw [Options.operatorNamed, known]
  rw [evalPlain_unary, hnamed]
  dsimp only [bind, Except.bind]
  rw [hunary]

theorem evalPlain_binary_of_known {symbol : Text} {op : Operator}
    (known : o.operator? symbol = some op) (l r : Expr) :
    (binary symbol l r).evalPlain o get =
      l.evalPlain o get >>= fun a => r.evalPlain o get >>= fun b =>
        op.binary.applyAt (.operator symbol) [a, b] := by
  have hnamed : o.operatorNamed symbol = .ok op := by rw [Options.operatorNamed, known]
  rw [evalPlain_binary, hnamed]
  rfl

theorem evalPlain_call_of_known {name : Text} {f : MathFunction} (known : o.function? name = some f)
    (args : List Expr) :
    (call name args).evalPlain o get =
      args.mapM (evalPlain o get) >>= fun values => f.rule.applyAt (.call name) values := by
  have hnamed : o.functionNamed name = .ok f := by rw [Options.functionNamed, known]
  rw [evalPlain_call, hnamed]
  rfl

end Expr

/-! ### Faults of well formed trees -/

theorem arises_of_variableValue {name : Text} {fault : EvalFault}
    (h : variableValue get name = .error fault) : fault.Arises o get := by
  unfold variableValue answered at h
  split at h
  · rename_i hnone
    cases h
    exact .unresolved (.inl hnone)
  · rename_i hnothing
    cases h
    exact .unresolved (.inr hnothing)
  · rename_i v _ hknown
    obtain ⟨failure, hcheck, rfl⟩ := Failing.mapError_eq_error.mp h
    exact .stored hknown hcheck

namespace Expr

/-- A fault of a rule that was called for. -/
theorem arises_or_thrown {rule : Rule} {site : Site} {args : List Quantity} {fault : EvalFault}
    (hrule : rule ∈ o.rules) (h : rule.applyAt site args = .error fault)
    (harises : ∀ failure, rule.applyAt site args = .error (.failed site failure) →
      (EvalFault.failed site failure).Arises o get) :
    fault.Arises o get ∨ ∃ rule ∈ o.rules, ∃ args thrown,
      rule.call args = .threw thrown ∧ fault = .passed thrown := by
  rcases Rule.applyAt_eq_error h with ⟨failure, rfl⟩ | ⟨thrown, hcall, rfl⟩
  · exact .inl (harises failure h)
  · exact .inr ⟨rule, hrule, args, thrown, hcall, rfl⟩

/-- In a well formed tree only data can bring a fault about, unless a rule has thrown it. -/
theorem WellFormed.arises_or_thrown {P : Literal → Prop} {e : Expr} (hw : e.WellFormed o P) :
    ∀ {fault : EvalFault}, e.evalPlain o get = .error fault →
      fault.Arises o get ∨ ∃ rule ∈ o.rules, ∃ args thrown,
        rule.call args = .threw thrown ∧ fault = .passed thrown := by
  induction hw with
  | const => intro fault h; cases h
  | var =>
      intro fault h
      rw [evalPlain_var] at h
      exact .inl (arises_of_variableValue h)
  | unary known hunary _ ih =>
      intro fault h
      obtain ⟨rule, hrule⟩ := Option.isSome_iff_exists.mp hunary
      rw [evalPlain_unary_of_known known hrule] at h
      rcases Failing.bind_eq_error.mp h with hoperand | ⟨a, -, happly⟩
      · exact ih hoperand
      · exact Expr.arises_or_thrown (Options.unary_mem_rules known hrule) happly
          fun _ => .prefixed known hrule
  | binary known _ _ ihl ihr =>
      intro fault h
      rw [evalPlain_binary_of_known known] at h
      rcases Failing.bind_eq_error.mp h with hleft | ⟨a, -, h⟩
      · exact ihl hleft
      · rcases Failing.bind_eq_error.mp h with hright | ⟨b, -, happly⟩
        · exact ihr hright
        · exact Expr.arises_or_thrown (Options.binary_mem_rules known) happly fun _ => .binary known
  | call _ known haccepts _ ih =>
      intro fault h
      rw [evalPlain_call_of_known known] at h
      rcases Failing.bind_eq_error.mp h with hargs | ⟨values, hvalues, happly⟩
      · obtain ⟨arg, harg, hfail⟩ := Failing.exists_of_mapM_eq_error hargs
        exact ih arg harg hfail
      · rw [(Failing.mapM_eq_ok.mp hvalues).length_eq] at haccepts
        exact Expr.arises_or_thrown (Options.function_mem_rules known) happly
          fun _ => .call known haccepts

/-- With rules of the library nothing is thrown. -/
theorem WellFormed.arises (hrules : o.OfLibrary) {P : Literal → Prop} {e : Expr}
    (hw : e.WellFormed o P) {fault : EvalFault} (h : e.evalPlain o get = .error fault) :
    fault.Arises o get := by
  rcases hw.arises_or_thrown h with harises | ⟨rule, hrule, args, thrown, hcall, -⟩
  · exact harises
  · exact absurd hcall (Rule.call_ne_threw (hrules rule hrule) thrown)

end Expr

/--
**What has been parsed does not go wrong.**

Whatever tokens the parser accepts, its tree is well formed for the options, down to every operator,
function, name and constant in it.  So if the rules are those of the library, then whatever the
variables hold, evaluating the tree under the same options yields a number or a fault that data bring
about; no operator, prefix form or function turns out not to exist.
-/
theorem eval_parseTokens {source : Text} {tokens : List Token} {e : Expr}
    (h : parseTokens o source tokens = .ok e) :
    e.WellFormed o Literal.IsUnsigned ∧
      (o.OfLibrary → ∀ get : Text → Option Value, (∃ q, e.eval o get = .ok q) ∨
        ∃ fault, e.eval o get = .error fault ∧ fault.Arises o get) := by
  have hw := wellFormed_of_parseLevels _ (parseTokens_eq_ok.mp h).2
  refine ⟨hw.imp fun l hl => ⟨hl.spec.1, hl.spec.2.1⟩, fun hrules get => ?_⟩
  rw [Expr.eval_eq_evalPlain o get e hw.knowsBinaries]
  cases hvalue : e.evalPlain o get with
  | ok q => exact .inl ⟨q, rfl⟩
  | error fault => exact .inr ⟨fault, rfl, hw.arises hrules hvalue⟩

/-- The equation `[x]/0`, which has no value whatever `x` is. -/
theorem eval_parseTokens_quotient :
    ∃ e, parseTokens .standard "[x]/0".toList
        [⟨.value, "[x]".toList, 0, 3⟩, ⟨.operator, ['/'], 3, 4⟩, ⟨.value, ['0'], 4, 5⟩] = .ok e ∧
      e.WellFormed .standard Literal.IsUnsigned ∧
      ∀ get : Text → Option Value, (∃ q, e.eval .standard get = .ok q) ∨
        ∃ fault, e.eval .standard get = .error fault ∧ fault.Arises .standard get := by
  have hread : parseTokens .standard "[x]/0".toList
      [⟨.value, "[x]".toList, 0, 3⟩, ⟨.operator, ['/'], 3, 4⟩, ⟨.value, ['0'], 4, 5⟩] =
      .ok (.binary ['/'] (.var ['x']) (.const (.int 0))) := rfl
  obtain ⟨hwell, hvalues⟩ := eval_parseTokens hread
  exact ⟨_, hread, hwell, hvalues Options.standard_ofLibrary⟩

end Reckon
