/-
Arithmetic on whole numbers and ratios is exact, or it shows.

A tree of sums, differences, products, quotients and remainders has an exact value, computed in the
rationals, unless something is divided by zero.  Evaluation follows it as long as no double comes
up, and a double comes up in one place only, where one whole number is divided by another and leaves
a remainder.  From there on up there are only doubles.  So what comes out at the root as a whole
number or as a ratio is the exact value, and every part of the tree has come out exactly as well.

Both directions are inductions on the tree.  The first one goes from the value of an operation to
those of its operands, which the kind of the value allows; the second one builds the value from
theirs, and needs the first to know what they are.
-/
import Reckon.Proofs.Safety
import Reckon.Proofs.Exactness.Rules

namespace Reckon.Expr

/-! ### Exact values -/

/-- The exact value of a tree, computed in the rationals. -/
def exactValue? (o : Options) (get : Text → Option Value) : Expr → Option Rat
  | const value => value.quantity.exactValue?
  | var name => match get name with
    | some (.number q) => q.exactValue?
    | _ => none
  | unary symbol operand => do
    let op ← o.operator? symbol
    let rule ← op.unary
    let r ← exactValue? o get operand
    rule.exactValue? [r]
  | binary symbol l r => do
    let op ← o.operator? symbol
    let a ← exactValue? o get l
    let b ← exactValue? o get r
    op.binary.exactValue? [a, b]
  | call _ _ => none

/-- Whether the tree is a variable that holds a ratio. -/
def isRatio (get : Text → Option Value) : Expr → Bool
  | var name => match get name with
    | some (.number (.ratio _)) => true
    | _ => false
  | _ => false

/-- Whether a leaf of the tree is a ratio. -/
def usesRatio (get : Text → Option Value) (e : Expr) : Bool := e.nodes.any (isRatio get)

/-- A tree of operations other than powers, whose leaves are whole numbers and ratios within the
limits. -/
inductive IsArithmetic (o : Options) (get : Text → Option Value) : Expr → Prop
  | const {n : Int} (h : (Quantity.int n).isBounded = true) : IsArithmetic o get (const (.int n))
  | var {name : Text} {q : Quantity} {v : Rat} (stored : get name = some (.number q))
      (hexact : q.exactValue? = some v) (h : q.isBounded = true) : IsArithmetic o get (var name)
  | unary {symbol : Text} {op : Operator} {rule : UnaryRule} {e : Expr}
      (known : o.operator? symbol = some op) (hunary : op.unary = some (.unary rule))
      (h : IsArithmetic o get e) : IsArithmetic o get (unary symbol e)
  | binary {symbol : Text} {op : Operator} {rule : BinaryRule} {l r : Expr}
      (known : o.operator? symbol = some op) (hbinary : op.binary = .binary rule)
      (hrule : rule ≠ .power) (hl : IsArithmetic o get l) (hr : IsArithmetic o get r) :
      IsArithmetic o get (binary symbol l r)

/-- What one part of a tree has to satisfy for the tree to keep its exact value. -/
structure KeepsExact (o : Options) (get : Text → Option Value) (n : Expr) : Prop where
  /-- No divisor is zero. -/
  divisor : ∀ {symbol op l r}, n = binary symbol l r → o.operator? symbol = some op →
    op.binary.divides = true → r.exactValue? o get ≠ some 0
  /-- No division of whole numbers leaves a remainder. -/
  evenly : ∀ {symbol op l r}, n = binary symbol l r → o.operator? symbol = some op →
    op.binary = .binary .divide → l.usesRatio get = false → r.usesRatio get = false →
    ∀ a b : Int, l.exactValue? o get = some (a : Rat) → r.exactValue? o get = some (b : Rat) →
      a % b = 0
  /-- The value is within the limits. -/
  limits : ∀ v, n.exactValue? o get = some v → (Quantity.ratio v).isBounded = true

/-! ### Operations and leaves -/

variable {o : Options} {get : Text → Option Value} {symbol : Text} {op : Operator}
  {rule : UnaryRule} {l r e : Expr}

theorem exactValue?_unary (known : o.operator? symbol = some op)
    (hunary : op.unary = some (.unary rule)) :
    (unary symbol e).exactValue? o get = (e.exactValue? o get).map rule.exactValue := by
  rw [exactValue?, known]
  dsimp only [bind, Option.bind]
  rw [hunary]
  cases e.exactValue? o get <;> rfl

theorem exactValue?_binary (known : o.operator? symbol = some op) :
    (binary symbol l r).exactValue? o get =
      (l.exactValue? o get).bind fun a =>
        (r.exactValue? o get).bind fun b => op.binary.exactValue? [a, b] := by
  rw [exactValue?, known]
  rfl

theorem usesRatio_unary : (unary symbol e).usesRatio get = e.usesRatio get := by
  rw [usesRatio, nodes_unary, List.any_cons]
  rfl

theorem usesRatio_binary :
    (binary symbol l r).usesRatio get = (l.usesRatio get || r.usesRatio get) := by
  rw [usesRatio, nodes_binary, List.any_cons, List.any_append]
  rfl

theorem usesRatio_of_leaf (hleaf : e.children = []) : e.usesRatio get = e.isRatio get := by
  rw [usesRatio, nodes_eq, hleaf]
  exact Bool.or_false _

/-- A part that is no operation on two operands only has to be within the limits. -/
theorem KeepsExact.of_limits (hne : ∀ symbol l r, e ≠ binary symbol l r)
    (h : ∀ v, e.exactValue? o get = some v → (Quantity.ratio v).isBounded = true) :
    e.KeepsExact o get where
  divisor he := absurd he (hne _ _ _)
  evenly he := absurd he (hne _ _ _)
  limits := h

theorem KeepsExact.of_operands {v w : Rat} (known : o.operator? symbol = some op)
    (hl : l.exactValue? o get = some v) (hr : r.exactValue? o get = some w)
    (divisor : op.binary.divides = true → w ≠ 0)
    (evenly : op.binary = .binary .divide → l.usesRatio get = false → r.usesRatio get = false →
      ∀ m n : Int, v = m → w = n → m % n = 0)
    (limits : ∀ u, (binary symbol l r).exactValue? o get = some u →
      (Quantity.ratio u).isBounded = true) :
    (binary symbol l r).KeepsExact o get where
  divisor := by
    intro symbol' op' l' r' he known' hdivides hzero
    cases he
    cases known.symm.trans known'
    exact divisor hdivides (Option.some.inj (hr.symm.trans hzero))
  evenly := by
    intro symbol' op' l' r' he known' hdivide hleft hright m n hm hn
    cases he
    cases known.symm.trans known'
    exact evenly hdivide hleft hright m n (Option.some.inj (hl.symm.trans hm))
      (Option.some.inj (hr.symm.trans hn))
  limits := limits

/-- A tree whose exact value is that of a number within the limits. -/
theorem limits_of_exactValue? {q : Quantity} {v : Rat} (hq : q.exactValue? = some v)
    (hbounded : q.isBounded = true) (hv : e.exactValue? o get = some v) :
    ∀ w, e.exactValue? o get = some w → (Quantity.ratio w).isBounded = true := by
  intro w hw
  obtain rfl : v = w := Option.some.inj (hv.symm.trans hw)
  rwa [← Quantity.isBounded_of_exactValue? hq]

/-! ### Values that come out exactly -/

/-- The value `q` of a tree is exact, and `v` is its value. -/
structure ComesOut (o : Options) (get : Text → Option Value) (e : Expr) (q : Quantity) (v : Rat) :
    Prop where
  /-- The value is held exactly. -/
  value : q.exactValue? = some v
  /-- It is the exact value of the tree. -/
  exact : e.exactValue? o get = some v
  /-- Its kind tells whether there was a ratio. -/
  kind : q.isInt = !e.usesRatio get
  /-- No part of the tree has lost its exact value. -/
  kept : ∀ n ∈ e.nodes, n.KeepsExact o get

namespace ComesOut

variable {a b q : Quantity} {v w u : Rat}

theorem leaf (hleaf : e.children = []) (hq : q.exactValue? = some v)
    (hbounded : q.isBounded = true) (hv : e.exactValue? o get = some v)
    (hkind : q.isInt = !e.isRatio get) : ComesOut o get e q v where
  value := hq
  exact := hv
  kind := by rw [usesRatio_of_leaf hleaf, hkind]
  kept := by
    rw [nodes_eq, hleaf]
    refine List.forall_mem_singleton.mpr (.of_limits ?_ (limits_of_exactValue? hq hbounded hv))
    rintro symbol l r rfl
    cases hleaf

theorem unary (known : o.operator? symbol = some op) (hunary : op.unary = some (.unary rule))
    (operand : ComesOut o get e a v) (hbounded : (rule.apply a).isBounded = true) :
    ComesOut o get (.unary symbol e) (rule.apply a) (rule.exactValue v) := by
  have hvalue : (rule.apply a).exactValue? = some (rule.exactValue v) := by
    rw [UnaryRule.exactValue?_apply, operand.value]
    rfl
  have hexact : (Expr.unary symbol e).exactValue? o get = some (rule.exactValue v) := by
    rw [exactValue?_unary known hunary, operand.exact]
    rfl
  refine ⟨hvalue, hexact, ?_, ?_⟩
  · rw [UnaryRule.isInt_apply, usesRatio_unary, operand.kind]
  · rw [nodes_unary]
    refine List.forall_mem_cons.mpr ⟨.of_limits (by simp) ?_, operand.kept⟩
    exact limits_of_exactValue? hvalue hbounded hexact

theorem binary {rule : BinaryRule} (known : o.operator? symbol = some op)
    (hbinary : op.binary = .binary rule) (hrule : rule ≠ .power)
    (left : ComesOut o get l a v) (right : ComesOut o get r b w)
    (happly : rule.apply a b = .ok (.number q)) (hq : q.exactValue? = some u)
    (hbounded : q.isBounded = true) : ComesOut o get (.binary symbol l r) q u := by
  have hyields := BinaryRule.yields_of_exactValue? hrule left.value right.value
  rw [happly] at hyields
  cases hyields with
  | rounded _ _ _ _ _ h =>
      -- What has been rounded is a double and holds no exact value.
      cases h
      cases hq
  | @exact _ u' h hz hwhole evenly =>
      obtain rfl : u' = u := Option.some.inj (hz.symm.trans hq)
      have hexact : (Expr.binary symbol l r).exactValue? o get = some u' := by
        rw [exactValue?_binary known, left.exact, right.exact, hbinary]
        exact h
      refine ⟨hq, hexact, ?_, ?_⟩
      · rw [hwhole, left.kind, right.kind, usesRatio_binary, Bool.not_or]
      · rw [nodes_binary]
        refine List.forall_mem_cons.mpr ⟨?_, List.forall_mem_append.mpr ⟨left.kept, right.kept⟩⟩
        refine .of_operands known left.exact right.exact
          (fun hdivides => BinaryRule.ne_zero_of_exactValue? h (by rwa [hbinary] at hdivides))
          (fun hdivide hl hr => evenly (Rule.binary.inj (hbinary.symm.trans hdivide)) ?_)
          (limits_of_exactValue? hq hbounded hexact)
        rw [left.kind, right.kind, hl, hr]
        rfl

/-- An operation that may keep its exact value does so. -/
theorem exists_result {rule : BinaryRule} (left : ComesOut o get l a v)
    (right : ComesOut o get r b w) (known : o.operator? symbol = some op)
    (hbinary : op.binary = .binary rule) (hrule : rule ≠ .power)
    (here : (Expr.binary symbol l r).KeepsExact o get) :
    ∃ z u, rule.apply a b = .ok (.number z) ∧ z.exactValue? = some u ∧
      (Expr.binary symbol l r).exactValue? o get = some u := by
  have hyields := BinaryRule.yields_of_exactValue? hrule left.value right.value
  generalize happly : rule.apply a b = outcome at hyields
  cases hyields with
  | undefined hdivides hzero =>
      rw [hzero] at right
      exact absurd right.exact (here.divisor rfl known (by rwa [hbinary]))
  | @rounded m n _ hdivide hwhole hm hn uneven =>
      rw [hm] at left
      rw [hn] at right
      rw [left.kind, right.kind, ← Bool.not_or, Bool.not_eq_true', Bool.or_eq_false_iff] at hwhole
      obtain ⟨hleft, hright⟩ := hwhole
      have heven := here.evenly rfl known (by rw [hbinary, hdivide]) hleft hright m n left.exact right.exact
      exact absurd heven uneven
  | @exact z u h hz _ _ =>
      refine ⟨z, u, rfl, hz, ?_⟩
      rw [exactValue?_binary known, left.exact, right.exact, hbinary]
      exact h

end ComesOut

/-! ### Whole trees -/

namespace IsArithmetic

theorem knowsBinaries (h : e.IsArithmetic o get) : e.knowsBinaries o = true := by
  induction h with
  | const | var => rfl
  | unary _ _ _ ih => exact ih
  | binary known _ _ _ _ ihl ihr => simp [Expr.knowsBinaries, known, ihl, ihr]

/-- The value of a stored number within the limits. -/
theorem variableValue_of_stored {name : Text} {q : Quantity} (stored : get name = some (.number q))
    (h : q.isBounded = true) : variableValue get name = .ok q := by
  rw [variableValue, stored]
  exact Failing.mapError_eq_ok.mpr (Quantity.check_eq_ok.mpr ⟨rfl, h⟩)

/-- What comes out as a whole number or as a ratio is the exact value, and no part has lost it. -/
theorem comesOut (h : e.IsArithmetic o get) : ∀ {q : Quantity} {v : Rat},
    e.evalPlain o get = .ok q → q.exactValue? = some v → ComesOut o get e q v := by
  induction h with
  | const hbounded =>
      intro q v hq hv
      cases hq
      exact .leaf rfl hv hbounded hv rfl
  | @var name p u stored hexact hbounded =>
      intro q v hq hv
      rw [evalPlain_var, variableValue_of_stored stored hbounded] at hq
      cases hq
      refine .leaf rfl hv hbounded (by rw [exactValue?, stored]; exact hv) ?_
      rw [isRatio, stored]
      cases p with
      | float x => cases hv
      | _ => rfl
  | unary known hunary _ ih =>
      intro q v hq hv
      rw [evalPlain_unary_of_known known hunary] at hq
      obtain ⟨a, ha, happly⟩ := Failing.bind_eq_ok.mp hq
      obtain ⟨rfl, hbounded⟩ := Rule.applyAt_unary_eq_ok.mp happly
      rw [UnaryRule.exactValue?_apply] at hv
      obtain ⟨r, hr, rfl⟩ := Option.map_eq_some_iff.mp hv
      exact .unary known hunary (ih ha hr) hbounded
  | binary known hbinary hrule _ _ ihl ihr =>
      intro q v hq hv
      rw [evalPlain_binary_of_known known, hbinary] at hq
      obtain ⟨a, ha, hq⟩ := Failing.bind_eq_ok.mp hq
      obtain ⟨b, hb, happly⟩ := Failing.bind_eq_ok.mp hq
      obtain ⟨happly, hbounded⟩ := (Rule.applyAt_binary_eq_ok hrule).mp happly
      obtain ⟨r, s, hr, hs⟩ := BinaryRule.exists_exactValue? hrule happly hv
      exact .binary known hbinary hrule (ihl ha hr) (ihr hb hs) happly hv hbounded

/-- A tree none of whose parts loses its exact value has one. -/
theorem exists_of_kept (h : e.IsArithmetic o get) : (∀ n ∈ e.nodes, n.KeepsExact o get) →
    ∃ q v, e.evalPlain o get = .ok q ∧ q.exactValue? = some v := by
  induction h with
  | const hbounded => intro _; exact ⟨_, _, rfl, rfl⟩
  | var stored hexact hbounded =>
      intro _
      exact ⟨_, _, (evalPlain_var _).trans (variableValue_of_stored stored hbounded), hexact⟩
  | @unary symbol op rule e known hunary h ih =>
      intro kept
      rw [nodes_unary, List.forall_mem_cons] at kept
      obtain ⟨a, r, ha, hr⟩ := ih kept.2
      have hvalue : (rule.apply a).exactValue? = some (rule.exactValue r) := by
        rw [UnaryRule.exactValue?_apply, hr]
        rfl
      refine ⟨rule.apply a, rule.exactValue r, ?_, hvalue⟩
      rw [evalPlain_unary_of_known known hunary, ha]
      refine Rule.applyAt_unary_eq_ok.mpr ⟨rfl, ?_⟩
      rw [Quantity.isBounded_of_exactValue? hvalue]
      refine kept.1.limits _ ?_
      rw [exactValue?_unary known hunary, (h.comesOut ha hr).exact]
      rfl
  | @binary symbol op rule l r known hbinary hrule hl hr ihl ihr =>
      intro kept
      rw [nodes_binary, List.forall_mem_cons, List.forall_mem_append] at kept
      obtain ⟨here, keptLeft, keptRight⟩ := kept
      obtain ⟨a, v, ha, hv⟩ := ihl keptLeft
      obtain ⟨b, w, hb, hw⟩ := ihr keptRight
      -- The values of the operands are the exact ones, so the conditions speak about them.
      have left := hl.comesOut ha hv
      have right := hr.comesOut hb hw
      obtain ⟨z, u, happly, hz, hexact⟩ := left.exists_result right known hbinary hrule here
      refine ⟨z, u, ?_, hz⟩
      rw [evalPlain_binary_of_known known, ha, hb, hbinary]
      refine (Rule.applyAt_binary_eq_ok hrule).mpr ⟨happly, ?_⟩
      rw [Quantity.isBounded_of_exactValue? hz]
      exact here.limits u hexact

/-- Only the mathematics can fail. -/
theorem isNumeric_of_evalPlain (h : e.IsArithmetic o get) : ∀ {fault : EvalFault},
    e.evalPlain o get = .error fault → fault.isNumeric = true := by
  induction h with
  | const => intro fault h; cases h
  | var stored _ hbounded =>
      intro fault h
      rw [evalPlain_var, variableValue_of_stored stored hbounded] at h
      cases h
  | unary known hunary _ ih =>
      intro fault h
      rw [evalPlain_unary_of_known known hunary] at h
      rcases Failing.bind_eq_error.mp h with h | ⟨a, -, h⟩
      · exact ih h
      · exact Rule.isNumeric_of_unary h
  | binary known hbinary hrule _ _ ihl ihr =>
      intro fault h
      rw [evalPlain_binary_of_known known, hbinary] at h
      rcases Failing.bind_eq_error.mp h with h | ⟨a, -, h⟩
      · exact ihl h
      rcases Failing.bind_eq_error.mp h with h | ⟨b, -, h⟩
      · exact ihr h
      · exact Rule.isNumeric_of_binary hrule h

end IsArithmetic

/--
**Arithmetic on whole numbers and ratios is exact.**

Take a tree of sums, differences, products, quotients, remainders and signs over whole numbers and
ratios within the limits.  If it comes out as a whole number or as a ratio, then that is its exact
value, and it is a whole number just if no leaf is a ratio.  It comes out so if and only if every
part keeps its exact value: no divisor is zero, no division of whole numbers leaves a remainder, and
no value is beyond the limits.  If one part does not, the tree ends with a double, or the
mathematics fails.  An exact remainder lies between zero and the divisor, whatever the sign of that.
-/
theorem eval_exact (h : e.IsArithmetic o get) :
    (∀ q v, e.eval o get = .ok q → q.exactValue? = some v →
        e.exactValue? o get = some v ∧ q.isInt = !e.usesRatio get) ∧
      ((∃ q v, e.eval o get = .ok q ∧ q.exactValue? = some v) ↔ ∀ n ∈ e.nodes, n.KeepsExact o get) ∧
      ((¬∀ n ∈ e.nodes, n.KeepsExact o get) →
        (∃ x, e.eval o get = .ok (.float x)) ∨
          ∃ fault, e.eval o get = .error fault ∧ fault.isNumeric = true) ∧
      ∀ r s u, BinaryRule.modulo.exactValue? r s = some u → 0 ≤ u ∧ u < s ∨ s < u ∧ u ≤ 0 := by
  rw [eval_eq_evalPlain o get e h.knowsBinaries]
  have hiff : (∃ q v, e.evalPlain o get = .ok q ∧ q.exactValue? = some v) ↔
      ∀ n ∈ e.nodes, n.KeepsExact o get :=
    ⟨fun ⟨_, _, hq, hv⟩ => (h.comesOut hq hv).kept, h.exists_of_kept⟩
  refine ⟨fun q v hq hv => ⟨(h.comesOut hq hv).exact, (h.comesOut hq hv).kind⟩, hiff,
    fun hlost => ?_, fun r s u => BinaryRule.exactValue?_modulo⟩
  cases hvalue : e.evalPlain o get with
  | error fault => exact .inr ⟨fault, rfl, h.isNumeric_of_evalPlain hvalue⟩
  | ok q =>
      cases q with
      | float x => exact .inl ⟨x, rfl⟩
      | int n => exact absurd (hiff.mp ⟨_, _, hvalue, rfl⟩) hlost
      | ratio r => exact absurd (hiff.mp ⟨_, _, hvalue, rfl⟩) hlost

/-- The tree `-7 % [x]`, where `x` is three quarters: the remainder has the sign of the divisor. -/
theorem eval_exact_remainder :
    let get : Text → Option Value := fun _ => some (.number (.ratio (3 / 4)))
    let e := binary ['%'] (unary ['-'] (const (.int 7))) (var ['x'])
    e.IsArithmetic .standard get ∧ e.eval .standard get = .ok (.ratio (1 / 2)) ∧
      e.exactValue? .standard get = some (1 / 2) ∧ e.usesRatio get = true ∧
      ∀ n ∈ e.nodes, n.KeepsExact .standard get := by
  intro get e
  have harithmetic : e.IsArithmetic .standard get :=
    .binary rfl rfl (by decide) (.unary rfl rfl (.const (by decide))) (.var rfl rfl (by decide +kernel))
  have hvalue : e.eval .standard get = .ok (.ratio (1 / 2)) :=
    eval_eq_ok.mpr (by with_unfolding_all rfl)
  obtain ⟨hexact, hiff, -⟩ := eval_exact harithmetic
  obtain ⟨hsame, hkind⟩ := hexact _ (1 / 2) hvalue rfl
  have hratio : e.usesRatio get = true := Bool.not_eq_eq_eq_not.mp hkind.symm
  exact ⟨harithmetic, hvalue, hsame, hratio, hiff.mp ⟨_, _, hvalue, rfl⟩⟩

end Reckon.Expr
