/-
Arguments in the right number can be used.

How many arguments a function takes is declared in one place and what it does with them is
defined in another, so the two can come apart.  A function blames its operands if it is given
arguments that it cannot work on, and `Blameless` says that an outcome does not.  What a standard
function makes of as many arguments as it accepts is blameless, but for two cases: digits to round
to that are no whole number, and the least or the greatest of one number alone.

The second case is about nothing but the number of arguments.  One argument is accepted, but a
single one would have to be a collection.
-/
import Reckon.Proofs.Exactness.Rules
import Reckon.Proofs.Safety

namespace Reckon

/-! ### Outcomes that do not blame the operands -/

/-- A value, or an exception of the mathematics. -/
def Blameless {α : Type} (outcome : Except Raised α) : Prop :=
  ∀ e, outcome = .error e → e.isOperandFault = false

namespace Blameless

variable {α β : Type}

theorem ok (a : α) : Blameless (.ok a) := fun _ h => nomatch h

theorem error {e : Raised} (h : e.isOperandFault = false) :
    Blameless (.error e : Except Raised α) := by
  rintro _ ⟨⟩
  exact h

theorem bind {outcome : Except Raised α} {f : α → Except Raised β} (h : Blameless outcome)
    (hf : ∀ a, Blameless (f a)) : Blameless (outcome >>= f) := by
  intro e hfail
  rcases Failing.bind_eq_error.mp hfail with hfirst | ⟨a, -, hnext⟩
  · exact h e hfirst
  · exact hf a e hnext

end Blameless

/-! ### Functions of numbers -/

namespace Quantity

theorem blameless_toFloat (a : Quantity) : Blameless a.toFloat := by
  rcases a.toFloat_cases with ⟨x, h⟩ | h
  · rw [h]; exact .ok x
  · rw [h]; exact .error rfl

theorem blameless_viaFloat (f : Float → Float) (grows : Bool) (a : Quantity) :
    Blameless (viaFloat f grows a) := by
  refine .bind a.blameless_toFloat fun x => ?_
  dsimp only [throw, throwThe, MonadExceptOf.throw, pure, Except.pure]
  split
  · exact .error rfl
  · split
    · cases grows <;> exact .error rfl
    · exact .ok _

theorem blameless_viaLog (f : Float → Float) (a : Quantity) : Blameless (viaLog f a) := by
  cases a with
  | int n =>
      unfold viaLog
      dsimp only
      split
      · exact .error rfl
      · split <;> exact .ok _
  | float x => exact blameless_viaFloat f false _
  | ratio r => exact blameless_viaFloat f false _

theorem blameless_divide (a b : Quantity) : Blameless (divide a b) := fun _ h =>
  @BinaryRule.isOperandFault_of_apply .divide a b _ (by decide) (Failing.map_eq_error.mpr h)

theorem blameless_logTo (base a : Quantity) : Blameless (logTo base a) :=
  .bind (blameless_viaLog _ a) fun x =>
    .bind (blameless_viaLog _ base) fun y => blameless_divide x y

theorem blameless_angle (a b : Quantity) : Blameless (angle a b) :=
  .bind a.blameless_toFloat fun _ => .bind b.blameless_toFloat fun _ => .ok _

theorem blameless_exact (ofNaN : DomainReason) (a : Quantity) : Blameless (a.exact ofNaN) := by
  cases a with
  | float x =>
      unfold exact
      dsimp only
      split
      · exact .ok _
      · split <;> exact .error rfl
  | _ => exact .ok _

theorem blameless_floor (a : Quantity) : Blameless a.floor :=
  .bind (blameless_exact _ a) fun _ => .ok _

theorem blameless_ceil (a : Quantity) : Blameless a.ceil :=
  .bind (blameless_exact _ a) fun _ => .ok _

theorem blameless_round (a : Quantity) (d : Int) : Blameless (a.round (int d)) := by
  unfold round
  dsimp only
  split
  · exact .error rfl
  · refine .bind (blameless_exact _ a) fun r => ?_
    split
    · exact .ok _
    · cases a with
      | float x => exact .bind (blameless_toFloat _) fun _ => .ok _
      | _ => exact .ok _

end Quantity

/-! ### As many arguments as are accepted -/

namespace MathFunction

variable {name : Text} {f : Rule} {args : List Quantity}

theorem accepts_between {least most count : Int} :
    accepts ⟨name, f, least, some most⟩ count = true ↔ least ≤ count ∧ count ≤ most := by
  rw [accepts, Bool.and_eq_true, decide_eq_true_eq, decide_eq_true_eq]

theorem accepts_from {least count : Int} :
    accepts ⟨name, f, least, none⟩ count = true ↔ least ≤ count := by
  rw [accepts, Bool.and_true, decide_eq_true_eq]

theorem exists_of_accepts_one (h : accepts ⟨name, f, 1, some 1⟩ args.length = true) :
    ∃ a, args = [a] := by
  have hlength := accepts_between.mp h
  exact List.length_eq_one_iff.mp (by omega)

theorem exists_of_accepts_two (h : accepts ⟨name, f, 2, some 2⟩ args.length = true) :
    ∃ a b, args = [a, b] := by
  have hlength := accepts_between.mp h
  exact List.length_eq_two.mp (by omega)

theorem exists_of_accepts_one_or_two (h : accepts ⟨name, f, 1, some 2⟩ args.length = true) :
    (∃ a, args = [a]) ∨ ∃ a b, args = [a, b] := by
  have hlength := accepts_between.mp h
  rcases Nat.lt_or_ge args.length 2 with hlt | hge
  · exact .inl (List.length_eq_one_iff.mp (by omega))
  · exact .inr (List.length_eq_two.mp (by omega))

theorem exists_of_accepts_any (h : accepts ⟨name, f, 1, none⟩ args.length = true) :
    ∃ a rest, args = a :: rest := by
  have hlength := accepts_from.mp h
  exact List.exists_cons_of_length_pos (by omega)

end MathFunction

namespace Builtin

/-- What a function has against arguments although it accepts their number. -/
def objection? : Builtin → List Quantity → Option MisuseReason
  | round, [_, .int _] => none
  | round, [_, _] => some .roundingDigits
  | min, [a] => some (.notIterable a.typeName)
  | max, [a] => some (.notIterable a.typeName)
  | _, _ => none

theorem apply_of_objection? {f : Builtin} {args : List Quantity} {reason : MisuseReason}
    (h : f.objection? args = some reason) : f.apply args = .error (.misuse reason) := by
  unfold objection? at h
  split at h
  · cases h
  · rename_i a digits hdigits
    cases h
    cases digits with
    | int d => exact absurd rfl (hdigits d)
    | _ => rfl
  · cases h; rfl
  · cases h; rfl
  · cases h

/-- Arguments that a function accepts and has nothing against do not take the blame. -/
theorem blameless_apply {f : Builtin} {args : List Quantity}
    (haccepts : (MathFunction.ofBuiltin f).accepts args.length = true)
    (h : f.objection? args = none) : Blameless (f.apply args) := by
  cases f with
  | abs | sign =>
      obtain ⟨a, rfl⟩ := MathFunction.exists_of_accepts_one haccepts
      exact .ok _
  | sqrt | exp | sin | cos | tan | asin | acos | atan =>
      obtain ⟨a, rfl⟩ := MathFunction.exists_of_accepts_one haccepts
      exact Quantity.blameless_viaFloat _ _ a
  | ln | log10 =>
      obtain ⟨a, rfl⟩ := MathFunction.exists_of_accepts_one haccepts
      exact Quantity.blameless_viaLog _ a
  | log =>
      rcases MathFunction.exists_of_accepts_one_or_two haccepts with ⟨a, rfl⟩ | ⟨a, base, rfl⟩
      · exact Quantity.blameless_viaLog _ a
      · exact Quantity.blameless_logTo base a
  | atan2 =>
      obtain ⟨a, b, rfl⟩ := MathFunction.exists_of_accepts_two haccepts
      exact Quantity.blameless_angle a b
  | floor =>
      obtain ⟨a, rfl⟩ := MathFunction.exists_of_accepts_one haccepts
      exact a.blameless_floor
  | ceil =>
      obtain ⟨a, rfl⟩ := MathFunction.exists_of_accepts_one haccepts
      exact a.blameless_ceil
  | round =>
      rcases MathFunction.exists_of_accepts_one_or_two haccepts with ⟨a, rfl⟩ | ⟨a, digits, rfl⟩
      · exact a.blameless_round 0
      · cases digits with
        | int d => exact a.blameless_round d
        | _ => cases h
  | min | max =>
      obtain ⟨a, rest, rfl⟩ := MathFunction.exists_of_accepts_any haccepts
      cases rest with
      | nil => cases h
      | cons b rest => exact .ok _

end Builtin

theorem MathFunction.rule_ofBuiltin (b : Builtin) : (ofBuiltin b).rule = .function b := by
  cases b <;> rfl

theorem MathFunction.exists_ofBuiltin {f : MathFunction} (hf : f ∈ standard) :
    ∃ b, f = ofBuiltin b := by
  obtain ⟨b, -, rfl⟩ := List.mem_map.mp hf
  exact ⟨b, rfl⟩

/-! ### Calls -/

namespace Rule

/-- What a rule that is a function has against arguments although it accepts their number. -/
def objection? : Rule → List Quantity → Option MisuseReason
  | function b, args => b.objection? args
  | _, _ => none

variable {f : MathFunction} {args : List Quantity}

theorem applyAt_function (b : Builtin) (site : Site) :
    (function b).applyAt site args = match b.apply args with
      | .ok q => q.check.mapError (.failed site)
      | .error e => .error (.failed site e.failure) := by
  show (Response.of ((b.apply args).map .number)).settleAt site = _
  cases b.apply args <;> rfl

/-- Arguments to which a standard function has no objection leave it a number, or a failure of the
mathematics. -/
theorem applyAt_of_accepts (hf : f ∈ MathFunction.standard)
    (haccepts : f.accepts args.length = true) (h : f.rule.objection? args = none) (site : Site) :
    (∃ q, f.rule.applyAt site args = .ok q ∧ q.isBounded = true) ∨
      ∃ failure, f.rule.applyAt site args = .error (.failed site failure) ∧
        failure.isOperandFault = false := by
  obtain ⟨b, rfl⟩ := MathFunction.exists_ofBuiltin hf
  rw [MathFunction.rule_ofBuiltin] at h ⊢
  rw [applyAt_function]
  cases happly : b.apply args with
  | error e => exact .inr ⟨e.failure, rfl, Builtin.blameless_apply haccepts h e happly⟩
  | ok q =>
      cases hcheck : q.check with
      | error failure =>
          exact .inr ⟨failure, by simp [hcheck, Except.mapError],
            Quantity.isOperandFault_of_check hcheck⟩
      | ok r =>
          obtain ⟨rfl, hbounded⟩ := Quantity.check_eq_ok.mp hcheck
          exact .inl ⟨r, by simp [hcheck, Except.mapError], hbounded⟩

theorem applyAt_of_objection? {rule : Rule} {reason : MisuseReason}
    (h : rule.objection? args = some reason) (site : Site) :
    rule.applyAt site args = .error (.failed site (.misuse reason)) := by
  cases rule with
  | function b => rw [applyAt_function, Builtin.apply_of_objection? h]; rfl
  | _ => cases h

/-- If a standard function blames arguments in a number that it accepts, it has an objection. -/
theorem exists_objection? (hf : f ∈ MathFunction.standard)
    (haccepts : f.accepts args.length = true) {site : Site} {failure : Failure}
    (h : f.rule.applyAt site args = .error (.failed site failure))
    (hblame : failure.isOperandFault = true) :
    ∃ reason, f.rule.objection? args = some reason ∧ failure = .misuse reason := by
  cases hobjection : f.rule.objection? args with
  | some reason =>
      rw [applyAt_of_objection? hobjection] at h
      cases h
      exact ⟨reason, rfl, rfl⟩
  | none =>
      rcases applyAt_of_accepts hf haccepts hobjection site with
        ⟨q, hq, -⟩ | ⟨failure', hfail, hblameless⟩
      · rw [hq] at h
        cases h
      · rw [hfail] at h
        cases h
        rw [hblameless] at hblame
        cases hblame

end Rule

/--
**Arguments in an accepted number are usable, unless the function has an objection.**

A standard function that accepts as many arguments as it is given yields a number within the limits
or a failure of the mathematics.  It blames its operands exactly if it has an objection: against
digits to round to that are no whole number, or against one number alone where the least or the
greatest is asked for.  So nothing else makes a call blame its operands in an equation that has been
read.
-/
theorem accepted_usable {o : Options} (hstandard : ∀ f ∈ o.functions, f ∈ MathFunction.standard) :
    (∀ f ∈ o.functions, ∀ args : List Quantity, f.accepts args.length = true → ∀ site,
        (f.rule.objection? args = none →
          (∃ q, f.rule.applyAt site args = .ok q ∧ q.isBounded = true) ∨
            ∃ failure, f.rule.applyAt site args = .error (.failed site failure) ∧
              failure.isOperandFault = false) ∧
        ∀ reason, f.rule.objection? args = some reason →
          f.rule.applyAt site args = .error (.failed site (.misuse reason))) ∧
      ∀ {source : Text} {tokens : List Token} {e : Expr}, parseTokens o source tokens = .ok e →
        ∀ {get : Text → Option Value} {name : Text} {failure : Failure},
          e.eval o get = .error (.failed (.call name) failure) → failure.isOperandFault = true →
          ∃ f args reason, o.function? name = some f ∧ f.accepts args.length = true ∧
            f.rule.objection? args = some reason ∧ failure = .misuse reason := by
  constructor
  · intro f hf args haccepts site
    exact ⟨fun h => Rule.applyAt_of_accepts (hstandard f hf) haccepts h site,
      fun reason h => Rule.applyAt_of_objection? h site⟩
  · intro source tokens e hparsed get name failure heval hblame
    have hw := wellFormed_of_parseLevels _ (parseTokens_eq_ok.mp hparsed).2
    rw [Expr.eval_eq_evalPlain o get e hw.knowsBinaries] at heval
    rcases hw.arises_or_thrown heval with harises | ⟨_, _, _, _, _, hpassed⟩
    swap
    · cases hpassed
    cases harises with
    | call known haccepts happly =>
        have hf := hstandard _ (Options.mem_of_function? known)
        obtain ⟨reason, hreason, rfl⟩ := Rule.exists_objection? hf haccepts happly hblame
        exact ⟨_, _, reason, known, haccepts, hreason, rfl⟩

/-! ### One number alone -/

theorem parse_least_of_one :
    parseTokens .standard "min(3)".toList
        [⟨.value, "min".toList, 0, 3⟩, ⟨.opening, ['('], 3, 4⟩, ⟨.value, ['3'], 4, 5⟩,
          ⟨.closing, [')'], 5, 6⟩] =
      .ok (.call "min".toList [.const (.int 3)]) :=
  rfl

theorem eval_least_of_one (get : Text → Option Value) :
    (Expr.call "min".toList [.const (.int 3)]).eval .standard get =
      .error (.failed (.call "min".toList) (.misuse (.notIterable "int".toList))) := by
  have hrefused : (Rule.function .min).applyAt (.call "min".toList) [.int 3] =
      .error (.failed (.call "min".toList) (.misuse (.notIterable "int".toList))) :=
    Rule.applyAt_of_objection? rfl _
  rw [Expr.eval_eq_evalPlain _ _ _ rfl, Expr.evalPlain_call_of_known (f := .ofBuiltin .min) rfl]
  exact hrefused

/-- The greater of two numbers is one; the least of one number is refused when it is read as an
equation. -/
theorem accepted_usable_extremes :
    (∃ q, (Rule.function .max).applyAt (.call "max".toList) [.int 3, .int 5] = .ok q ∧
        q.isBounded = true) ∧
      ∀ get, ∃ f args reason, Options.standard.function? "min".toList = some f ∧
        f.accepts args.length = true ∧ f.rule.objection? args = some reason ∧
        (Expr.call "min".toList [.const (.int 3)]).eval .standard get =
          .error (.failed (.call "min".toList) (.misuse reason)) := by
  obtain ⟨husable, hequations⟩ := @accepted_usable .standard fun _ hf => hf
  constructor
  · have hmax : MathFunction.ofBuiltin .max ∈ MathFunction.standard :=
      List.mem_map_of_mem (by decide)
    rcases (husable _ hmax [.int 3, .int 5] (by decide) (.call "max".toList)).1 rfl with
      h | ⟨failure, h, -⟩
    · exact h
    · cases h
  · intro get
    have heval := eval_least_of_one get
    obtain ⟨f, args, reason, known, haccepts, hreason, hfailure⟩ :=
      hequations parse_least_of_one heval rfl
    rw [hfailure] at heval
    exact ⟨f, args, reason, known, haccepts, hreason, heval⟩

/-- The least of one number: one argument is accepted and is a number within the limits, and yet the
operand is blamed, in a call on its own as in the equation `min(3)`. -/
theorem not_usable_least_of_one :
    ∃ f ∈ MathFunction.standard, f.rule ≠ .function .round ∧ f.accepts 1 = true ∧
      (Quantity.int 3).isBounded = true ∧ ∃ failure, failure.isOperandFault = true ∧
        f.rule.applyAt (.call f.name) [.int 3] =
          .error (.failed (.call f.name) failure) ∧
        ∃ tokens e, parseTokens .standard "min(3)".toList tokens = .ok e ∧
          ∀ get, e.eval .standard get = .error (.failed (.call f.name) failure) :=
  ⟨.ofBuiltin .min, List.mem_map_of_mem (by decide), nofun, rfl, by decide,
    .misuse (.notIterable "int".toList), rfl, Rule.applyAt_of_objection? rfl _,
    _, _, parse_least_of_one, eval_least_of_one⟩

end Reckon
