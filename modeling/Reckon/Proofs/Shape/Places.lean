/-
Where tokens stand does not matter to the tree, nor how numbers are spelled.

Tokens carry their places for the sake of faults.  Everything that decides about the form of a run
looks at the kinds and the texts of its tokens only, so moving the tokens moves the parts of the
form and changes nothing else.  Hence a run at other places, in another source, is read as the same
tree, or fails there as well.  What the fault then shows is another matter, and left out here.

The text of a literal is looked at by no one but the reader of numbers, provided that it is neither
a name nor begins as a variable does.  So it may be another text of the same number as well.
-/
import Reckon.Proofs.Levels
import Reckon.Proofs.Shape.Forms

namespace Reckon

/-- Takes tokens to other places. -/
structure Token.Moves (f : Token → Token) : Prop where
  kind : ∀ t, (f t).kind = t.kind
  text : ∀ t, (f t).text = t.text

/-! ### Spelling -/

/-- The text is no name and does not begin as a variable does. -/
structure Pattern.Skips (p : Pattern) (s : Text) : Prop where
  name : Text.isName s = false
  unopened : ∀ c, s.head? = some c → p.delimits c = false

/-- Two texts for a number: both are read as the same number, or none of them is. -/
structure Pattern.Respelled (p : Pattern) (s s' : Text) : Prop where
  skips : p.Skips s
  skips' : p.Skips s'
  reading : (Numeral.read? false s').map Shape.literal? = (Numeral.read? false s).map Shape.literal?

/-- Takes tokens to other places and spells numbers in other ways. -/
structure Token.Respells (p : Pattern) (f : Token → Token) : Prop where
  kind : ∀ t, (f t).kind = t.kind
  text : ∀ t, (f t).text = t.text ∨ t.kind = .value ∧ p.Respelled t.text (f t).text

theorem Token.Moves.respells {f : Token → Token} (hf : Moves f) (p : Pattern) : Respells p f :=
  ⟨hf.kind, fun t => .inl (hf.text t)⟩

namespace Token.Respells

variable {p : Pattern} {f : Token → Token} (hf : Respells p f) {t : Token}
include hf

theorem text_of_operator (h : t.kind = .operator) : (f t).text = t.text := by
  rcases hf.text t with htext | ⟨hvalue, -⟩
  · exact htext
  · rw [h] at hvalue
    cases hvalue

theorem text_of_isName (h : Text.isName t.text = true) : (f t).text = t.text := by
  rcases hf.text t with htext | ⟨-, hspelled⟩
  · exact htext
  · rw [hspelled.skips.name] at h
    cases h

theorem isName : Text.isName (f t).text = Text.isName t.text := by
  rcases hf.text t with htext | ⟨-, hspelled⟩
  · rw [htext]
  · rw [hspelled.skips.name, hspelled.skips'.name]

end Token.Respells

namespace Shape

/-- The form of a run that has been moved. -/
def map (f : Token → Token) : Shape → Shape
  | leaf e => leaf e
  | group interior => group (interior.map f)
  | call name args => call name (args.map (List.map f))
  | chain side first rest => chain side (first.map f) (rest.map (Prod.map f (List.map f)))
  | prefixed symbol operand => prefixed symbol (operand.map f)

theorem parts_map (f : Token → Token) (shape : Shape) :
    (shape.map f).parts = shape.parts.map (List.map f) := by
  cases shape <;> simp [map, parts, Function.comp_def]

/-- The links of a chain are operators. -/
theorem kind_of_chain {o : Options} {source : Text} {ts first : List Token} {side : Associativity}
    {rest : List (Token × List Token)} (h : of o source ts = .ok (.chain side first rest)) :
    ∀ x ∈ rest, x.1.kind = .operator := by
  obtain ⟨kind, -, hkind⟩ := exists_kind_of_eq_ok h
  cases kind with
  | constant =>
      obtain ⟨_, _, _, -, -, -, -, hshape⟩ := constantLeaf?_eq_some.mp hkind
      cases hshape
  | «variable» =>
      obtain ⟨_, _, -, -, -, -, hshape⟩ := variableLeaf?_eq_some.mp hkind
      cases hshape
  | parenthesis =>
      rcases parenthesis?_eq_some hkind with ⟨_, _, _, -, -, -, -, -, -, hshape⟩ |
        ⟨_, _, _, _, _, -, -, -, -, -, -, -, -, -, hshape⟩
      · cases hshape
      · cases hshape
  | operation =>
      obtain ⟨m, hm, ⟨-, hprefixed⟩ | ⟨op, -, hshape⟩⟩ := operation?_eq_some hkind
      · obtain ⟨_, _, _, -, -, -, -, -, hshape⟩ := prefixed?_eq_some hprefixed
        cases hshape
      · cases hshape
        exact fun x hx => ((cut_pieces op.precedence hm).2.2 x hx).1.1

variable {f : Token → Token} {o : Options} (hf : Token.Respells o.pattern f)
variable {source source' : Text}
include hf

theorem tree_map {shape : Shape} {ts : List Token} (h : of o source ts = .ok shape)
    (es : List Expr) : (shape.map f).tree es = shape.tree es := by
  cases shape with
  | leaf | call => rfl
  | group | prefixed => cases es <;> rfl
  | chain side first rest =>
      cases es with
      | nil => rfl
      | cons e es =>
          have htexts : (rest.map (Prod.map f (List.map f))).map (·.1.text) =
              rest.map (·.1.text) := by
            rw [List.map_map]
            exact List.map_congr_left fun x hx => hf.text_of_operator (kind_of_chain h x hx)
          show (Shape.chain side (first.map f) (rest.map (Prod.map f (List.map f)))).tree (e :: es) = _
          rw [tree_chain, tree_chain, htexts]

/-! ### Parentheses -/

theorem closesLast_map (ts : List Token) : ∀ depth,
    closesLast depth (ts.map f) = closesLast depth ts := by
  induction ts with
  | nil => intro depth; rfl
  | cons t rest ih =>
      intro depth
      simp only [List.map_cons, closesLast, hf.kind, ih, List.isEmpty_map]

theorem depthAfter_map (depth : Int) (t : Token) : depthAfter depth (f t) = depthAfter depth t := by
  simp only [depthAfter, hf.kind]

theorem splitGroups_map (ts : List Token) : ∀ depth,
    splitGroups depth (ts.map f) =
      ((splitGroups depth ts).1.map f, (splitGroups depth ts).2.map (List.map f)) := by
  induction ts with
  | nil => intro depth; rfl
  | cons t rest ih =>
      intro depth
      simp only [List.map_cons, splitGroups, depthAfter_map hf, ih, hf.kind]
      split <;> simp

theorem arguments_map (ts : List Token) :
    arguments (ts.map f) = (arguments ts).map (List.map f) := by
  cases ts with
  | nil => rfl
  | cons t rest =>
      have hsplit := splitGroups_map hf (t :: rest) 0
      simp only [arguments, List.map_cons] at hsplit ⊢
      rw [hsplit]
      rfl

theorem callOf_map {name : Token} (hname : Text.isName name.text = true) (ts xs : List Token) :
    (callOf o source' (f name) (ts.map f) (xs.map f)).toOption =
      (callOf o source name ts xs).toOption.map (map f) := by
  unfold callOf
  rw [hf.text_of_isName hname, arguments_map hf]
  cases o.function? name.text with
  | none => rfl
  | some func =>
      have hempty : ((arguments xs).map (List.map f)).any (·.isEmpty) =
          (arguments xs).any (·.isEmpty) := by
        simp [List.any_map, Function.comp_def]
      dsimp only
      rw [hempty, List.length_map]
      split
      · rfl
      · split <;> rfl

theorem groupOf_map (ts xs : List Token) :
    (groupOf source' (ts.map f) (xs.map f)).toOption =
      (groupOf source ts xs).toOption.map (Option.map (map f)) := by
  unfold groupOf
  rw [List.isEmpty_map, arguments_map hf, List.length_map]
  split
  · rfl
  · split <;> rfl

theorem parenthesis?_map (ts : List Token) :
    (parenthesis? o source' (ts.map f)).toOption =
      (parenthesis? o source ts).toOption.map (Option.map (map f)) := by
  match ts with
  | [] => rfl
  | [_] => rfl
  | first :: second :: rest =>
    have hlast : (f first :: f second :: rest.map f).getLast?.map Token.kind =
        (first :: second :: rest).getLast?.map Token.kind := by
      rw [← List.map_cons, ← List.map_cons, List.getLast?_map, Option.map_map]
      exact congrArg (Option.map · _) (funext hf.kind)
    have hgroup := closesLast_map hf (second :: rest) 1
    have hcall := closesLast_map hf rest 1
    show (parenthesis? o source' (f first :: f second :: rest.map f)).toOption = _
    rw [parenthesis?_cons_cons, parenthesis?_cons_cons, hlast, hf.kind, hf.kind, hf.isName, hcall,
      ← List.map_cons, hgroup, ← List.map_cons, ← List.map_dropLast, ← List.map_dropLast]
    split
    · rfl
    · split
      · split
        · rfl
        · exact groupOf_map hf _ _
      · split
        · rename_i hcalls
          rw [Bool.and_eq_true] at hcalls
          split
          · rfl
          · have hcalled : (callOf o source' (f first) ((first :: second :: rest).map f)
                (rest.dropLast.map f)).toOption =
                (callOf o source first (first :: second :: rest) rest.dropLast).toOption.map
                  (map f) :=
              callOf_map hf hcalls.2 (first :: second :: rest) rest.dropLast
            rw [Failing.toOption_map, hcalled, Failing.toOption_map, Option.map_map, Option.map_map]
            rfl
        · rfl

/-! ### Operators -/

theorem operatorOf_map {t : Token} (h : t.kind = .operator) :
    (operatorOf o source' (f t)).toOption = (operatorOf o source t).toOption := by
  unfold operatorOf
  rw [hf.text_of_operator h]
  cases o.operator? t.text <;> rfl

/-- The marks stay with their tokens. -/
theorem markBinary_map (ts : List Token) : ∀ (depth : Int) (after : Bool),
    (markBinary o source' depth after (ts.map f)).toOption =
      (markBinary o source depth after ts).toOption.map (List.map (Prod.map f id)) := by
  induction ts with
  | nil => intro depth after; rfl
  | cons t rest ih =>
      intro depth after
      have hbetween : isBetween depth after (f t) = isBetween depth after t := by
        simp only [isBetween, hf.kind]
      have hends : endsOperand (f t) = endsOperand t := by simp only [endsOperand, hf.kind]
      have hmark : (if isBetween depth after t = true then some <$> operatorOf o source' (f t)
            else pure none).toOption =
          (if isBetween depth after t = true then some <$> operatorOf o source t
            else pure none).toOption := by
        split
        · rename_i hb
          obtain ⟨⟨hk, -⟩, -⟩ : (t.kind = .operator ∧ depth = 0) ∧ after = true := by
            simpa [isBetween] using hb
          exact Failing.toOption_map.trans
            ((congrArg _ (operatorOf_map hf hk)).trans Failing.toOption_map.symm)
        · rfl
      rw [List.map_cons, markBinary_cons, markBinary_cons, hbetween, hends, depthAfter_map hf,
        Failing.toOption_bind, Failing.toOption_bind, hmark, Option.map_bind]
      refine congrArg _ (funext fun mark => ?_)
      rw [Function.comp_apply, Failing.toOption_map, Failing.toOption_map, ih]
      simp [Function.comp_def]

omit hf in
theorem weakest?_map (m : Marked) : weakest? (m.map (Prod.map f id)) = weakest? m := by
  simp [weakest?, List.foldl_map]

omit hf in
theorem cut_map (level : Int) (m : Marked) :
    cut level (m.map (Prod.map f id)) =
      ((cut level m).1.map f, (cut level m).2.map (Prod.map f (List.map f))) := by
  induction m with
  | nil => rfl
  | cons x rest ih =>
      obtain ⟨t, mark⟩ := x
      simp only [List.map_cons, Prod.map_apply, id_eq, cut, ih]
      split <;> simp

theorem prefixed?_map (ts : List Token) :
    (prefixed? o source' (ts.map f)).toOption =
      (prefixed? o source ts).toOption.map (Option.map (map f)) := by
  cases ts with
  | nil => rfl
  | cons t rest =>
      rw [List.map_cons, prefixed?, prefixed?, hf.kind]
      split
      · rfl
      · rename_i hk
        have hk' : t.kind = .operator := by simpa using hk
        rw [Failing.toOption_bind, Failing.toOption_bind, operatorOf_map hf hk', Option.map_bind]
        refine congrArg _ (funext fun op => ?_)
        rw [hf.text_of_operator hk', List.isEmpty_map, Function.comp_apply]
        split
        · rfl
        · split <;> rfl

theorem operation?_map (ts : List Token) :
    (operation? o source' (ts.map f)).toOption =
      (operation? o source ts).toOption.map (Option.map (map f)) := by
  unfold operation?
  rw [Failing.toOption_bind, Failing.toOption_bind, markBinary_map hf, Option.map_bind,
    Option.bind_map]
  refine congrArg _ (funext fun m => ?_)
  rw [Function.comp_apply, Function.comp_apply, weakest?_map]
  cases weakest? m with
  | none => exact prefixed?_map hf ts
  | some op =>
      dsimp only
      rw [cut_map, List.getLast?_map]
      cases (cut op.precedence m).2.getLast? with
      | none => rfl
      | some link =>
          obtain ⟨t, operand⟩ := link
          cases operand <;> rfl

/-! ### The form of a run -/

omit hf in
theorem toOption_constantLeaf? {t : Token} (hk : t.kind = .value) :
    (constantLeaf? source [t]).toOption =
      match (Numeral.read? false t.text).map literal? with
      | none => some none
      | some found => found.map fun l => some (leaf (.const l)) := by
  simp only [constantLeaf?, hk, bne_self_eq_false, Bool.false_eq_true, if_false]
  cases Numeral.read? false t.text with
  | none => rfl
  | some n =>
      dsimp only [Option.map_some]
      cases literal? n <;> rfl

theorem constantLeaf?_map (ts : List Token) :
    (constantLeaf? source' (ts.map f)).toOption =
      (constantLeaf? source ts).toOption.map (Option.map (map f)) := by
  match ts with
  | [] => rfl
  | _ :: _ :: _ => rfl
  | [t] =>
    rw [List.map_singleton]
    by_cases hk : t.kind = .value
    · have hreading : (Numeral.read? false (f t).text).map literal? =
          (Numeral.read? false t.text).map literal? := by
        rcases hf.text t with htext | ⟨-, hspelled⟩
        · rw [htext]
        · exact hspelled.reading
      rw [toOption_constantLeaf? ((hf.kind t).trans hk), toOption_constantLeaf? hk, hreading]
      cases (Numeral.read? false t.text).map literal? with
      | none => rfl
      | some found => cases found <;> rfl
    · simp only [constantLeaf?, hf.kind, bne_iff_ne.mpr hk, if_true]
      rfl

omit hf in
theorem variableLeaf?_of_skips {p : Pattern} {t : Token} (h : p.Skips t.text) :
    variableLeaf? p source [t] = .ok none := by
  simp only [variableLeaf?]
  split
  · rfl
  · cases p with
    | plain opening closing => simp [h.name]
    | escaped opening closing =>
        have hhead : t.text.head? ≠ some opening := by
          intro hopening
          have hdelimits := h.unopened opening hopening
          simp [Pattern.delimits] at hdelimits
        simp [hhead]

theorem variableLeaf?_map (ts : List Token) :
    (variableLeaf? o.pattern source' (ts.map f)).toOption =
      (variableLeaf? o.pattern source ts).toOption.map (Option.map (map f)) := by
  match ts with
  | [] => rfl
  | _ :: _ :: _ => rfl
  | [t] =>
    rw [List.map_singleton]
    rcases hf.text t with htext | ⟨-, hspelled⟩
    · simp only [variableLeaf?, hf.kind, htext]
      split
      · rfl
      · cases o.pattern with
        | plain opening closing =>
            dsimp only
            split <;> rfl
        | escaped opening closing =>
            dsimp only
            split
            · rfl
            · split <;> rfl
    · rw [variableLeaf?_of_skips hspelled.skips, variableLeaf?_of_skips hspelled.skips']
      rfl

theorem ofKind_map (ts : List Token) (kind : ParserKind) :
    (ofKind o source' (ts.map f) kind).toOption =
      (ofKind o source ts kind).toOption.map (Option.map (map f)) := by
  cases kind with
  | constant => exact constantLeaf?_map hf ts
  | «variable» => exact variableLeaf?_map hf ts
  | parenthesis => exact parenthesis?_map hf ts
  | operation => exact operation?_map hf ts

theorem first?_map (ts : List Token) (kinds : List ParserKind) :
    (first? o source' (ts.map f) kinds).toOption =
      (first? o source ts kinds).toOption.map (Option.map (map f)) := by
  induction kinds with
  | nil => rfl
  | cons kind rest ih =>
      rw [first?, first?, Failing.toOption_bind, Failing.toOption_bind, ofKind_map hf,
        Option.map_bind, Option.bind_map]
      refine congrArg _ (funext fun found => ?_)
      cases found with
      | none => exact ih
      | some shape => rfl

/-- The form of a run moves with it. -/
theorem of_map (ts : List Token) :
    (of o source' (ts.map f)).toOption = (of o source ts).toOption.map (map f) := by
  rw [of, of, Failing.toOption_bind, Failing.toOption_bind, first?_map hf, Option.map_bind,
    Option.bind_map]
  refine congrArg _ (funext fun found => ?_)
  cases found <;> rfl

end Shape

/-! ### The tree -/

variable {f : Token → Token} {o : Options} {source source' : Text}

/-- A run that has been moved, with its numbers respelled, is read as the same tree, or fails as
well. -/
theorem parseLevels_respelled (hf : Token.Respells o.pattern f) (n : Nat) : ∀ ts,
    (parseLevels o source' n (ts.map f)).toOption = (parseLevels o source n ts).toOption := by
  induction n with
  | zero => intro ts; rfl
  | succ n ih =>
      intro ts
      rw [parseLevels_succ, parseLevels_succ, Failing.toOption_bind, Failing.toOption_bind,
        Shape.of_map hf]
      cases hshape : Shape.of o source ts with
      | error fault => rfl
      | ok shape =>
          show (((shape.map f).parts.mapM (parseLevels o source' n)).map _).toOption =
            ((shape.parts.mapM (parseLevels o source n)).map _).toOption
          rw [Failing.toOption_map, Failing.toOption_map, Shape.parts_map,
            Failing.toOption_mapM_map fun part _ => ih part]
          exact congrArg (Option.map · _) (funext (Shape.tree_map hf hshape))

theorem parseTokens_respelled (hf : Token.Respells o.pattern f) (ts : List Token) :
    (parseTokens o source' (ts.map f)).toOption = (parseTokens o source ts).toOption := by
  unfold parseTokens
  rw [List.isEmpty_map]
  split
  · rfl
  · exact parseLevels_respelled hf o.maxDepth ts

theorem parseLevels_map (hf : Token.Moves f) (n : Nat) (ts : List Token) :
    (parseLevels o source' n (ts.map f)).toOption = (parseLevels o source n ts).toOption :=
  parseLevels_respelled (hf.respells o.pattern) n ts

theorem parseTokens_map (hf : Token.Moves f) (ts : List Token) :
    (parseTokens o source' (ts.map f)).toOption = (parseTokens o source ts).toOption :=
  parseTokens_respelled (hf.respells o.pattern) ts

/-! ### Equations -/

/-- The source is accepted, and read as the tree. -/
def ReadsAs (o : Options) (source : Text) (root : Expr) : Prop :=
  ∃ equation, Equation.parse o source = .ok equation ∧ equation.root = root

theorem readsAs_iff {root : Expr} :
    ReadsAs o source root ↔
      ∃ tokens, tokenize o source = .ok tokens ∧ parseTokens o source tokens = .ok root := by
  constructor
  · rintro ⟨equation, h, rfl⟩
    obtain ⟨tokens, htokens, h⟩ := Failing.bind_eq_ok.mp h
    obtain ⟨root, hroot, h⟩ := Failing.bind_eq_ok.mp h
    cases h
    exact ⟨tokens, Failing.mapError_eq_ok.mp htokens, Failing.mapError_eq_ok.mp hroot⟩
  · rintro ⟨tokens, htokens, hroot⟩
    refine ⟨⟨root, source, o⟩, ?_, rfl⟩
    exact Failing.bind_eq_ok.mpr ⟨tokens, Failing.mapError_eq_ok.mpr htokens,
      Failing.bind_eq_ok.mpr ⟨root, Failing.mapError_eq_ok.mpr hroot, rfl⟩⟩

theorem readsAs_of_tokenize {tokens : List Token} {root : Expr}
    (h : tokenize o source = .ok tokens) :
    ReadsAs o source root ↔ parseTokens o source tokens = .ok root := by
  rw [readsAs_iff, h]
  constructor
  · rintro ⟨_, ⟨⟩, hroot⟩
    exact hroot
  · exact fun hroot => ⟨tokens, rfl, hroot⟩

end Reckon
