/-
Only the order of the precedences matters.

A run is cut at its weakest operators, and to find these their precedences are compared, never reckoned
with.  So two options read every text alike if their operators differ in nothing but the order in which
they are listed, the rules that they stand for and precedences that are numbered anew, the weaker below the
stronger.  Operators that were equally strong stay so, or a chain of both would be cut elsewhere.

Both readings go side by side: what one of them marks in a run the other one marks as well, with an
operator that corresponds to it, and where one of them fails the other one fails in the same way.
Correspondence is kept by the search for the weakest mark, and the operator found is known from then on by
its precedence and its side alone.
-/
import Reckon.Proofs.Composition
import Reckon.Proofs.Tokens.Order

namespace Reckon

/-! ### Options that read alike -/

/-- Operators that differ in what they compute, and in their precedence as `f` says. -/
@[mk_iff] structure Operator.Regraded (f : Int → Int) (a b : Operator) : Prop where
  symbol : b.symbol = a.symbol
  associativity : b.associativity = a.associativity
  unary : b.unary.isSome = a.unary.isSome
  precedence : b.precedence = f a.precedence

instance (f : Int → Int) (a b : Operator) : Decidable (a.Regraded f b) :=
  decidable_of_iff _ (Operator.regraded_iff f a b).symm

/-- Functions that differ in what they compute. -/
structure MathFunction.SameArity (a b : MathFunction) : Prop where
  minArgs : b.minArgs = a.minArgs
  maxArgs : b.maxArgs = a.maxArgs

/--
Options with the same choices and limit, with corresponding operators in any order, and with corresponding
functions by each name.  Of functions with one name only the last counts.
-/
structure Options.Regraded (f : Int → Int) (o o' : Options) : Prop where
  pattern : o'.pattern = o.pattern
  tokenizers : o'.tokenizers = o.tokenizers
  parsers : o'.parsers = o.parsers
  maxDepth : o'.maxDepth = o.maxDepth
  increasing : StrictMonoOn f {p | ∃ op ∈ o.operators, op.precedence = p}
  forth : ∀ a ∈ o.operators, ∃ b ∈ o'.operators, a.Regraded f b
  back : ∀ b ∈ o'.operators, ∃ a ∈ o.operators, a.Regraded f b
  functions : ∀ name, Option.Rel MathFunction.SameArity (o.function? name) (o'.function? name)

namespace MathFunction.SameArity

variable {a b : MathFunction}

theorem accepts (h : a.SameArity b) (count : Int) : b.accepts count = a.accepts count := by
  rw [MathFunction.accepts, MathFunction.accepts, h.minArgs, h.maxArgs]

theorem arityText (h : a.SameArity b) : b.arityText = a.arityText := by
  rw [MathFunction.arityText, MathFunction.arityText, h.minArgs, h.maxArgs]

end MathFunction.SameArity

/-! ### Marks side by side -/

namespace Shape

/-- Corresponding operators are in the same order by their precedences. -/
def KeepsOrder (R : Operator → Operator → Prop) : Prop :=
  ∀ a b c d, R a b → R c d → (b.precedence < d.precedence ↔ a.precedence < c.precedence)

/-- The same run with corresponding marks. -/
abbrev Marked.Rel (R : Operator → Operator → Prop) : Marked → Marked → Prop :=
  List.Forall₂ fun x y => y.1 = x.1 ∧ Option.Rel R x.2 y.2

variable {R : Operator → Operator → Prop} {m m' : Marked} {a b c d : Operator}

theorem KeepsOrder.eq_iff (hR : KeepsOrder R) (hab : R a b) (hcd : R c d) :
    b.precedence = d.precedence ↔ a.precedence = c.precedence := by
  have hlt := hR a b c d hab hcd
  have hgt := hR c d a b hcd hab
  omega

theorem weakest?_rel (hR : KeepsOrder R) (h : Marked.Rel R m m') :
    Option.Rel R (weakest? m) (weakest? m') := by
  unfold weakest?
  -- What is the weakest so far corresponds, from the empty run on.
  suffices hfrom : ∀ best best' : Option Operator, Option.Rel R best best' →
      Option.Rel R (m.foldl _ best) (m'.foldl _ best') from hfrom none none .none
  induction h with
  | nil => exact fun _ _ hbest => hbest
  | @cons x y _ _ hxy _ ih =>
      intro best best' hbest
      refine ih _ _ ?_
      obtain ⟨t, mark⟩ := x
      obtain ⟨t', mark'⟩ := y
      obtain ⟨-, hmark⟩ := hxy
      cases hbest with
      | none => exact hmark
      | some hbest =>
          cases hmark with
          | none => exact .some hbest
          | some hop =>
              dsimp only
              simp only [hR _ _ _ _ hop hbest]
              split
              · exact .some hop
              · exact .some hbest

/-- Equally strong operators stay so, and the cut is made in the same places. -/
theorem cut_rel (hR : KeepsOrder R) (hab : R a b) (h : Marked.Rel R m m') :
    cut b.precedence m' = cut a.precedence m := by
  induction h with
  | nil => rfl
  | @cons x y _ _ hxy _ ih =>
      obtain ⟨t, mark⟩ := x
      obtain ⟨t', mark'⟩ := y
      obtain ⟨rfl, hmark⟩ := hxy
      have hlevel : (mark'.map Operator.precedence == some b.precedence) =
          (mark.map Operator.precedence == some a.precedence) := by
        cases hmark with
        | none => rfl
        | some hop => simpa using hR.eq_iff hop hab
      rw [cut, cut, ih, hlevel]

end Shape

/-! ### What the options are asked -/

namespace Options.Regraded

variable {f : Int → Int} {o o' : Options} {source : Text} {ts : List Token}

/-- An operator of the first options, and one that corresponds to it. -/
def Pair (f : Int → Int) (o : Options) (a b : Operator) : Prop := a ∈ o.operators ∧ a.Regraded f b

theorem keepsOrder (h : Regraded f o o') : Shape.KeepsOrder (Pair f o) := by
  rintro a b c d ⟨ha, hab⟩ ⟨hc, hcd⟩
  rw [hab.precedence, hcd.precedence]
  exact h.increasing.lt_iff_lt ⟨a, ha, rfl⟩ ⟨c, hc, rfl⟩

theorem tokenizer?_eq (h : Regraded f o o') (c : Char) : o'.tokenizer? c = o.tokenizer? c := by
  have hsymbols : c ∈ o'.operators.map (·.symbol) ↔ c ∈ o.operators.map (·.symbol) := by
    simp only [List.mem_map]
    constructor
    · rintro ⟨b, hb, rfl⟩
      obtain ⟨a, ha, hab⟩ := h.back b hb
      exact ⟨a, ha, hab.symbol.symm⟩
    · rintro ⟨a, ha, rfl⟩
      obtain ⟨b, hb, hab⟩ := h.forth a ha
      exact ⟨b, hb, hab.symbol⟩
  have hclaimed : ∀ kind, (o'.claimed kind).contains c = (o.claimed kind).contains c := by
    intro kind
    cases kind with
    | «variable» => rw [claimed, claimed, h.pattern]
    | parenthesis => rfl
    | operator =>
        rw [Bool.eq_iff_iff, List.contains_iff_mem, List.contains_iff_mem]
        exact hsymbols
  unfold tokenizer?
  rw [h.tokenizers]
  simp only [hclaimed]

theorem operator?_rel (hv : o.Valid) (h : Regraded f o o') (text : Text) :
    Option.Rel (Pair f o) (o.operator? text) (o'.operator? text) := by
  cases hb : o'.operator? text with
  | some b =>
      obtain ⟨a, ha, hab⟩ := h.back b (operator?_mem hb)
      have hfound := hv.operator?_of_mem ha
      rw [← hab.symbol, operator?_text hb] at hfound
      rw [hfound]
      exact .some ⟨ha, hab⟩
  | none =>
      cases ha : o.operator? text with
      | none => exact .none
      | some a =>
          obtain ⟨b, hmem, hab⟩ := h.forth a (operator?_mem ha)
          have hother := List.find?_eq_none.mp hb b (List.mem_reverse.mpr hmem)
          rw [hab.symbol, operator?_text ha] at hother
          exact absurd (beq_self_eq_true text) hother

/-! ### One run -/

theorem operatorOf_rel (hv : o.Valid) (h : Regraded f o o') (t : Token) :
    Failing.Rel (Pair f o) (Shape.operatorOf o source t) (Shape.operatorOf o' source t) := by
  unfold Shape.operatorOf
  have hrel := h.operator?_rel hv t.text
  generalize o.operator? t.text = found at hrel ⊢
  generalize o'.operator? t.text = found' at hrel ⊢
  cases hrel with
  | none => exact .error _
  | some hab => exact .ok hab

theorem markBinary_rel (hv : o.Valid) (h : Regraded f o o') (ts : List Token) :
    ∀ (depth : Int) (after : Bool), Failing.Rel (Shape.Marked.Rel (Pair f o))
      (Shape.markBinary o source depth after ts) (Shape.markBinary o' source depth after ts) := by
  induction ts with
  | nil => exact fun _ _ => .ok .nil
  | cons t rest ih =>
      intro depth after
      rw [Shape.markBinary_cons, Shape.markBinary_cons]
      refine Failing.Rel.bind (R := Option.Rel (Pair f o)) ?_ fun mark mark' hmark =>
        (ih _ _).map fun more more' hmore => .cons ⟨rfl, hmark⟩ hmore
      split
      · exact (h.operatorOf_rel hv t).map fun _ _ hab => .some hab
      · exact .ok .none

theorem prefixed?_eq (hv : o.Valid) (h : Regraded f o o') :
    Shape.prefixed? o' source ts = Shape.prefixed? o source ts := by
  cases ts with
  | nil => rfl
  | cons t rest =>
      rw [Shape.prefixed?, Shape.prefixed?]
      split
      · rfl
      · refine (h.operatorOf_rel hv t).bind_eq fun a b hpair => ?_
        have hnone : b.unary.isNone = a.unary.isNone := by
          rw [← Option.not_isSome, ← Option.not_isSome, hpair.2.unary]
        rw [hnone]

theorem operation?_eq (hv : o.Valid) (h : Regraded f o o') :
    Shape.operation? o' source ts = Shape.operation? o source ts := by
  refine (h.markBinary_rel hv ts 0 false).bind_eq fun m m' hm => ?_
  have hweakest := Shape.weakest?_rel h.keepsOrder hm
  generalize Shape.weakest? m = best at hweakest ⊢
  generalize Shape.weakest? m' = best' at hweakest ⊢
  cases hweakest with
  | none => exact h.prefixed?_eq hv
  | some hop =>
      dsimp only
      rw [Shape.cut_rel h.keepsOrder hop hm, hop.2.associativity]

/-- A call names the function by which it was looked up, and asks for its arity only. -/
theorem callOf_eq (h : Regraded f o o') (name : Token) (interior : List Token) :
    Shape.callOf o' source name ts interior = Shape.callOf o source name ts interior := by
  have hrel := h.functions name.text
  have hname : ∀ g, o.function? name.text = some g → g.name = name.text := fun _ => function?_name
  have hname' : ∀ g, o'.function? name.text = some g → g.name = name.text := fun _ => function?_name
  unfold Shape.callOf
  generalize o.function? name.text = found at hrel hname ⊢
  generalize o'.function? name.text = found' at hrel hname' ⊢
  cases hrel with
  | none => rfl
  | some hab =>
      dsimp only
      rw [hname _ rfl, hname' _ rfl, hab.accepts, hab.arityText]

theorem parenthesis?_eq (h : Regraded f o o') :
    Shape.parenthesis? o' source ts = Shape.parenthesis? o source ts := by
  unfold Shape.parenthesis?
  simp only [h.callOf_eq]

theorem shape_eq (hv : o.Valid) (h : Regraded f o o') (ts : List Token) :
    Shape.of o' source ts = Shape.of o source ts := by
  have hkind : ∀ kind, Shape.ofKind o' source ts kind = Shape.ofKind o source ts kind := by
    intro kind
    cases kind with
    | constant => rfl
    | «variable» => rw [Shape.ofKind, Shape.ofKind, h.pattern]
    | parenthesis => exact h.parenthesis?_eq
    | operation => exact h.operation?_eq hv
  rw [Shape.of, Shape.of, h.parsers, Shape.first?_congr hkind]

end Options.Regraded

variable {f : Int → Int} {o o' : Options}

/-! ### A whole text -/

/-- The tree of an equation is that of the tokens of its source. -/
theorem Equation.parse_map_root (o : Options) (source : Text) :
    (Equation.parse o source).map Equation.root =
      (tokenize o source).mapError Fault.scan >>= fun tokens =>
        (parseTokens o source tokens).mapError Fault.parse := by
  unfold Equation.parse
  cases (tokenize o source).mapError Fault.scan with
  | error e => rfl
  | ok tokens =>
      show ((parseTokens o source tokens).mapError Fault.parse >>= _).map _ =
        (parseTokens o source tokens).mapError Fault.parse
      cases (parseTokens o source tokens).mapError Fault.parse <;> rfl

/--
**Only the order of the precedences matters.**

Take options, and others of the same pattern, tokenizers, parsers and limit.  If the operators have the
same symbols, sides and prefix forms, listed in any order, and precedences that are numbered anew by a map
that is strictly increasing on those in use, and if the functions by each name accept the same numbers of
arguments, then every text is read as the same tree, or fails with the same fault: the same cause, and so
the same words, at the same place.  What the operators and functions compute plays no part.
-/
theorem Equation.parse_regraded (hv : o.Valid) (h : o.Regraded f o') (source : Text) :
    (Equation.parse o' source).map Equation.root = (Equation.parse o source).map Equation.root := by
  have htokens : tokenize o' source = tokenize o source :=
    tokenize_congr h.pattern h.tokenizer?_eq source
  have hroot : parseTokens o' source = parseTokens o source :=
    funext (parseTokens_congr (h.shape_eq hv) h.maxDepth)
  rw [parse_map_root, parse_map_root, htokens, hroot]

/-- The standard operators in another order with other rules, in grades from one to three, and the standard
functions behind others of their names. -/
theorem Equation.parse_regraded_standard :
    let o' : Options := { Options.standard with
      operators := [⟨'^', 3, .right, .binary .add, none⟩, ⟨'/', 2, .left, .binary .power, none⟩,
        ⟨'-', 1, .left, .binary .modulo, some (.unary .identity)⟩,
        ⟨'%', 2, .left, .binary .add, none⟩,
        ⟨'+', 1, .left, .binary .divide, some (.unary .negate)⟩,
        ⟨'*', 2, .left, .binary .subtract, none⟩]
      functions := (MathFunction.standard.map fun g => { g with minArgs := 0 }) ++
        MathFunction.standard.map fun g => { g with rule := .function .abs }
      errorBehavior := .raise }
    let source := "2 * (min() + 1)".toList
    Options.standard.Valid ∧ Options.standard.Regraded (· / 10) o' ∧
      (Equation.parse o' "-2 ^ 3 ^ [x] - min(4, 5) % 6 / 7".toList).map Equation.root =
        .ok (.binary ['-']
          (.binary ['^'] (.unary ['-'] (.const (.int 2)))
            (.binary ['^'] (.const (.int 3)) (.var ['x'])))
          (.binary ['/']
            (.binary ['%'] (.call "min".toList [.const (.int 4), .const (.int 5)]) (.const (.int 6)))
            (.const (.int 7)))) ∧
      (Equation.parse o' source).map Equation.root =
        .error (.parse ⟨.argumentCount "min".toList "at least 1".toList 0, ⟨source, 5, 10⟩⟩) := by
  intro o' source
  have hv : Options.standard.Valid := Options.standard_readable.valid
  have hincreasing : StrictMonoOn (· / 10)
      {p : Int | ∃ op ∈ Options.standard.operators, op.precedence = p} := by
    have hprecedences : ∀ op ∈ Options.standard.operators,
        op.precedence = 10 ∨ op.precedence = 20 ∨ op.precedence = 30 := by decide
    rintro _ ⟨a, ha, rfl⟩ _ ⟨b, hb, rfl⟩ hlt
    have hpa := hprecedences a ha
    have hpb := hprecedences b hb
    dsimp only
    omega
  have hfunctions : ∀ name, Option.Rel MathFunction.SameArity
      (Options.standard.function? name) (o'.function? name) := by
    intro name
    have hother : o'.function? name =
        ((Options.standard.function? name).map fun g => { g with rule := .function .abs }).or
          ((Options.standard.function? name).map fun g => { g with minArgs := 0 }) := by
      show ((MathFunction.standard.map _) ++ MathFunction.standard.map _).reverse.find? _ = _
      rw [List.reverse_append, List.find?_append, ← List.map_reverse, ← List.map_reverse,
        List.find?_map, List.find?_map]
      rfl
    rw [hother]
    cases Options.standard.function? name with
    | none => exact .none
    | some g => exact .some ⟨rfl, rfl⟩
  have h : Options.standard.Regraded (· / 10) o' :=
    ⟨rfl, rfl, rfl, rfl, hincreasing, by decide, by decide, hfunctions⟩
  refine ⟨hv, h, ?_, ?_⟩
  · exact (Equation.parse_regraded hv h _).trans rfl
  · exact (Equation.parse_regraded hv h _).trans rfl

end Reckon
