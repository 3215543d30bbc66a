/-
Which form a run has, kind by kind.

The registered parsers are asked one after the other, and the first that finds a form
decides.  Their order does not matter, because on a run that can stand as an operand only
one of them finds anything: a single token is a literal or a variable and never both, a
run with an operator between operands is never parenthesized as a whole, and a
parenthesized run has no operator between operands.
-/
import Reckon.Proofs.Numerals
import Reckon.Proofs.Shape.Finding
import Reckon.Proofs.Shape.Runs

namespace Reckon

/-! ### Names that a pattern allows -/

namespace Pattern

/-- Whether a variable of that name can be written in the pattern. -/
def allows : Pattern → Text → Bool
  | .plain _ _, name => Text.isName name
  | .escaped opening closing, name =>
    !name.isEmpty && !name.contains opening && !name.contains closing

/-- Whether a variable never begins as a number does. -/
def isUnlikeNumber : Pattern → Bool
  | .plain _ _ => true
  | .escaped opening _ => !Numeral.begins opening

end Pattern

namespace Shape

variable {o : Options} {source : Text} {t : Token} {ts : List Token} {m : Marked}

/-! ### What a kind depends on -/

theorem first?_congr {o' : Options}
    (h : ∀ kind, ofKind o' source ts kind = ofKind o source ts kind) (kinds : List ParserKind) :
    first? o' source ts kinds = first? o source ts kinds := by
  induction kinds with
  | nil => rfl
  | cons kind rest ih => rw [first?, first?, h, ih]

section Reads

variable {parsers : List ParserKind} {behavior : ErrorBehavior} {depth : Nat}

theorem markBinary_with (ts : List Token) : ∀ (level : Int) (after : Bool),
    markBinary { o with parsers := parsers, errorBehavior := behavior, maxDepth := depth }
      source level after ts = markBinary o source level after ts := by
  induction ts with
  | nil => intro level after; rfl
  | cons t rest ih =>
      intro level after
      simp only [markBinary, ih]
      rfl

/-- What one kind makes of a run does not depend on the other kinds, nor on the limit on the levels and
on what becomes of failures. -/
theorem ofKind_with (ts : List Token) (kind : ParserKind) :
    ofKind { o with parsers := parsers, errorBehavior := behavior, maxDepth := depth } source ts kind =
      ofKind o source ts kind := by
  cases kind with
  | constant | «variable» | parenthesis => rfl
  | operation =>
      show operation? _ source ts = operation? o source ts
      unfold operation?
      rw [markBinary_with]
      rfl

theorem of_withDepth (ts : List Token) :
    of { o with maxDepth := depth } source ts = of o source ts := by
  rw [of, of, first?_congr (ofKind_with ts)]

theorem of_withBehavior (ts : List Token) :
    of { o with errorBehavior := behavior } source ts = of o source ts := by
  rw [of, of, first?_congr (ofKind_with ts)]

end Reads

/-! ### The kind that decides -/

/-- All kinds of parsers but one pass the run by. -/
def LeftTo (o : Options) (source : Text) (ts : List Token) (kind : ParserKind) : Prop :=
  ∀ other, other ≠ kind → ofKind o source ts other = .ok none

/-- Of all parsers that are asked only the one counts that the run is left to, if it is asked at all. -/
theorem first?_of_leftTo {kind : ParserKind} (h : LeftTo o source ts kind) (kinds : List ParserKind) :
    first? o source ts kinds = if kind ∈ kinds then ofKind o source ts kind else .ok none :=
  (Kinds.first?_eq_firstBy ts kinds).trans (Kinds.firstBy_of_others h kinds)

/-- If one registered kind finds a form and no other kind finds anything, that form is the form. -/
theorem of_eq_ok_of_kind {shape : Shape} (kind : ParserKind) (hmem : kind ∈ o.parsers)
    (hfound : ofKind o source ts kind = .ok (some shape)) (hothers : LeftTo o source ts kind) :
    of o source ts = .ok shape := by
  rw [Kinds.of_eq_formBy]
  exact (Kinds.formBy_eq_ok_iff hmem hothers).mpr hfound

/-- Some registered kind has found the form of a run. -/
theorem exists_kind_of_eq_ok {shape : Shape} (h : of o source ts = .ok shape) :
    ∃ kind ∈ o.parsers, ofKind o source ts kind = .ok (some shape) := by
  rw [Kinds.of_eq_formBy] at h
  exact Kinds.exists_kind_of_formBy h

/-! ### Runs that a kind passes by -/

theorem constantLeaf?_of_two_le (h : 2 ≤ ts.length) : constantLeaf? source ts = .ok none := by
  match ts, h with
  | _ :: _ :: _, _ => rfl

theorem variableLeaf?_of_two_le (p : Pattern) (h : 2 ≤ ts.length) :
    variableLeaf? p source ts = .ok none := by
  match ts, h with
  | _ :: _ :: _, _ => rfl

/-- What becomes of a parenthesized run, given what stands between its parentheses. -/
def groupOf (source : Text) (tokens interior : List Token) :
    Except (Located ParseCause) (Option Shape) :=
  if interior.isEmpty then fault source tokens .emptyParentheses
  else if 1 < (arguments interior).length then
    fault source tokens (.unexpectedSeparator (covered source tokens))
  else .ok (some (.group interior))

/-- The choice that is made for a run of two tokens or more. -/
theorem parenthesis?_cons_cons (first second : Token) (rest : List Token) :
    parenthesis? o source (first :: second :: rest) =
      if ((first :: second :: rest).getLast?.map Token.kind) != some .closing then .ok none
      else if first.kind == .opening then
        if !closesLast 1 (second :: rest) then .ok none
        else groupOf source (first :: second :: rest) (second :: rest).dropLast
      else if first.kind == .value && second.kind == .opening && Text.isName first.text then
        if !closesLast 1 rest then .ok none
        else (callOf o source first (first :: second :: rest) rest.dropLast).map some
      else .ok none := rfl

theorem parenthesis?_of_operator (hk : t.kind = .operator) :
    parenthesis? o source (t :: ts) = .ok none := by
  cases ts with
  | nil => rfl
  | cons second rest =>
      rw [parenthesis?_cons_cons]
      split
      · rfl
      · simp [hk]

theorem parenthesis?_enclosed {a b : Token} {xs : List Token} (ha : a.kind = .opening)
    (hb : b.kind = .closing) (h : Balanced xs) :
    parenthesis? o source (a :: (xs ++ [b])) = groupOf source (a :: (xs ++ [b])) xs := by
  obtain ⟨second, rest, hrest⟩ : ∃ second rest, xs ++ [b] = second :: rest := by
    cases xs with
    | nil => exact ⟨b, [], rfl⟩
    | cons x more => exact ⟨x, more ++ [b], rfl⟩
  have hlast : ((a :: second :: rest).getLast?.map Token.kind) = some .closing := by
    rw [← hrest, ← List.cons_append, List.getLast?_concat, Option.map_some, hb]
  have hcloses : closesLast 1 (second :: rest) = true := hrest ▸ closesLast_enclosed h hb
  have hdrop : (second :: rest).dropLast = xs := by rw [← hrest, List.dropLast_concat]
  rw [hrest, parenthesis?_cons_cons, hlast, hcloses, hdrop]
  simp [ha]

theorem parenthesis?_called {a b : Token} {xs : List Token} (ht : t.kind = .value)
    (hname : Text.isName t.text = true) (ha : a.kind = .opening) (hb : b.kind = .closing)
    (h : Balanced xs) :
    parenthesis? o source (t :: a :: (xs ++ [b])) =
      (callOf o source t (t :: a :: (xs ++ [b])) xs).map some := by
  have hlast : ((t :: a :: (xs ++ [b])).getLast?.map Token.kind) = some .closing := by
    rw [← List.cons_append, ← List.cons_append, List.getLast?_concat, Option.map_some, hb]
  rw [parenthesis?_cons_cons, hlast, closesLast_enclosed h hb, List.dropLast_concat]
  simp [ht, ha, hname]

/-- A run is passed by, or it is parenthesized as a whole, or it is a call. -/
theorem parenthesis?_cases (o : Options) (source : Text) (ts : List Token) :
    parenthesis? o source ts = .ok none ∨
    (∃ a xs b, ts = a :: (xs ++ [b]) ∧ a.kind = .opening ∧ b.kind = .closing ∧ Balanced xs) ∨
    ∃ t a xs b, ts = t :: a :: (xs ++ [b]) ∧ t.kind = .value ∧ Text.isName t.text = true ∧
      a.kind = .opening ∧ b.kind = .closing ∧ Balanced xs := by
  match ts with
  | [] => exact .inl rfl
  | [_] => exact .inl rfl
  | first :: second :: rest =>
    rw [parenthesis?_cons_cons]
    split
    · exact .inl rfl
    · split
      · rename_i hopen
        split
        · exact .inl rfl
        · rename_i hcloses
          obtain ⟨us, b, hus, hb, hbal⟩ := exists_of_closesLast (by simpa using hcloses)
          exact .inr (.inl ⟨first, us, b, by rw [hus], by simpa using hopen, hb, hbal⟩)
      · split
        · rename_i hcall
          split
          · exact .inl rfl
          · rename_i hcloses
            obtain ⟨us, b, hus, hb, hbal⟩ := exists_of_closesLast (by simpa using hcloses)
            obtain ⟨⟨ht, ha⟩, hname⟩ : (first.kind = .value ∧ second.kind = .opening) ∧
                Text.isName first.text = true := by simpa using hcall
            exact .inr (.inr ⟨first, second, us, b, by rw [hus], ht, hname, ha, hb, hbal⟩)
        · exact .inl rfl

/-- Without an operator between operands only a prefix operator counts. -/
theorem operation?_of_unmarked (hreads : markBinary o source 0 false ts = .ok m)
    (hm : marks m = []) : operation? o source ts = prefixed? o source ts := by
  unfold operation?
  rw [hreads]
  dsimp only [bind, Except.bind]
  rw [weakest?_eq_none.mpr hm]

theorem prefixed?_of_ne_operator (hk : t.kind ≠ .operator) :
    prefixed? o source (t :: ts) = .ok none := by
  simp [prefixed?, hk]

/-- A run that a parser passes by because no operator is between its operands or in front. -/
theorem operation?_eq_none (h : Run o source (t :: ts) m) (hm : marks m = [])
    (hk : t.kind ≠ .operator) : operation? o source (t :: ts) = .ok none := by
  rw [operation?_of_unmarked h.reads hm, prefixed?_of_ne_operator hk]

/-- A run with an operator between operands is not parenthesized as a whole. -/
theorem parenthesis?_of_marked (h : markBinary o source 0 false ts = .ok m)
    (hm : marks m ≠ []) : parenthesis? o source ts = .ok none := by
  rcases parenthesis?_cases o source ts with hnone | ⟨a, xs, b, rfl, ha, hb, hbal⟩ |
    ⟨t, a, xs, b, rfl, ht, -, ha, hb, hbal⟩
  · exact hnone
  · rw [markBinary_enclosed ha hb hbal] at h
    cases h
    exact absurd (marks_unmarked _) hm
  · rw [(Run.called ht ha hb hbal).reads] at h
    cases h
    exact absurd (marks_unmarked _) hm

/-! ### What a kind has found -/

theorem groupOf_eq_ok {xs : List Token} {found : Option Shape} :
    groupOf source ts xs = .ok found ↔
      xs ≠ [] ∧ (arguments xs).length ≤ 1 ∧ found = some (.group xs) := by
  unfold groupOf
  by_cases hempty : xs = []
  · simp [hempty, fault]
  · by_cases hone : 1 < (arguments xs).length
    · simp [hempty, hone, Nat.not_le.mpr hone, fault]
    · simp only [List.isEmpty_iff, hempty, if_false, hone, Except.ok.injEq]
      constructor
      · rintro rfl
        exact ⟨hempty, by omega, rfl⟩
      · rintro ⟨-, -, rfl⟩
        rfl

theorem callOf_eq_ok {xs : List Token} {shape : Shape} :
    callOf o source t ts xs = .ok shape ↔
      ∃ f, o.function? t.text = some f ∧ (∀ arg ∈ arguments xs, arg ≠ []) ∧
        f.accepts (arguments xs).length = true ∧ shape = .call f.name (arguments xs) := by
  unfold callOf
  cases hf : o.function? t.text with
  | none => simp [fault]
  | some f =>
      cases hany : (arguments xs).any (·.isEmpty) with
      | true =>
        obtain ⟨arg, harg, hnil⟩ := List.any_eq_true.mp hany
        simp only [hany, if_true]
        constructor
        · intro h
          cases h
        · rintro ⟨g, -, hall, -⟩
          exact absurd (List.isEmpty_iff.mp hnil) (hall arg harg)
      | false =>
        have hall : ∀ arg ∈ arguments xs, arg ≠ [] := by
          intro arg harg hnil
          exact List.any_eq_false.mp hany arg harg (List.isEmpty_iff.mpr hnil)
        cases haccepts : f.accepts (arguments xs).length with
        | false =>
            simp only [hany, haccepts]
            constructor
            · intro h
              cases h
            · rintro ⟨g, hg, -, hacc, -⟩
              cases hg
              rw [haccepts] at hacc
              cases hacc
        | true =>
            simp only [hany, haccepts]
            constructor
            · intro h
              cases h
              exact ⟨f, rfl, hall, haccepts, rfl⟩
            · rintro ⟨g, hg, -, -, rfl⟩
              cases hg
              rfl

/-- A parenthesized run or a call that has been found. -/
theorem parenthesis?_eq_some {shape : Shape} (h : parenthesis? o source ts = .ok (some shape)) :
    (∃ a xs b, ts = a :: (xs ++ [b]) ∧ a.kind = .opening ∧ b.kind = .closing ∧ Balanced xs ∧
      xs ≠ [] ∧ (arguments xs).length ≤ 1 ∧ shape = .group xs) ∨
    ∃ t a xs b f, ts = t :: a :: (xs ++ [b]) ∧ t.kind = .value ∧ Text.isName t.text = true ∧
      a.kind = .opening ∧ b.kind = .closing ∧ Balanced xs ∧ o.function? t.text = some f ∧
      (∀ arg ∈ arguments xs, arg ≠ []) ∧ f.accepts (arguments xs).length = true ∧
      shape = .call f.name (arguments xs) := by
  rcases parenthesis?_cases o source ts with hnone | ⟨a, xs, b, rfl, ha, hb, hbal⟩ |
    ⟨t, a, xs, b, rfl, ht, hname, ha, hb, hbal⟩
  · rw [hnone] at h
    cases h
  · rw [parenthesis?_enclosed ha hb hbal] at h
    obtain ⟨hne, hone, hshape⟩ := groupOf_eq_ok.mp h
    cases hshape
    exact .inl ⟨a, xs, b, rfl, ha, hb, hbal, hne, hone, rfl⟩
  · rw [parenthesis?_called ht hname ha hb hbal] at h
    obtain ⟨found, hfound, hshape⟩ := Failing.map_eq_ok.mp h
    cases hshape
    obtain ⟨f, hf, hall, haccepts, rfl⟩ := callOf_eq_ok.mp hfound
    exact .inr ⟨t, a, xs, b, f, rfl, ht, hname, ha, hb, hbal, hf, hall, haccepts, rfl⟩

theorem prefixed?_eq_some {shape : Shape} (h : prefixed? o source ts = .ok (some shape)) :
    ∃ t rest op, ts = t :: rest ∧ t.kind = .operator ∧ o.operator? t.text = some op ∧
      op.unary.isSome = true ∧ rest ≠ [] ∧ shape = .prefixed t.text rest := by
  cases ts with
  | nil => cases h
  | cons t rest =>
      unfold prefixed? at h
      by_cases hk : t.kind = .operator
      · simp only [hk, bne_self_eq_false, Bool.false_eq_true, if_false] at h
        obtain ⟨op, hop, h⟩ := Failing.bind_eq_ok.mp h
        cases hunary : op.unary with
        | none =>
            simp only [hunary, Option.isNone_none, if_true] at h
            cases h
        | some rule =>
            simp only [hunary, Option.isNone_some, Bool.false_eq_true, if_false] at h
            cases rest with
            | nil => cases h
            | cons r more =>
                cases h
                exact ⟨t, r :: more, op, rfl, hk, operatorOf_eq_ok.mp hop, by simp [hunary],
                  by simp, rfl⟩
      · simp [hk] at h

/-- A chain or a prefix operator that has been found, with the marks of the run. -/
theorem operation?_eq_some {shape : Shape} (h : operation? o source ts = .ok (some shape)) :
    ∃ m, markBinary o source 0 false ts = .ok m ∧
      ((weakest? m = none ∧ prefixed? o source ts = .ok (some shape)) ∨
        ∃ op, weakest? m = some op ∧
          shape = .chain op.associativity (cut op.precedence m).1 (cut op.precedence m).2) := by
  obtain ⟨m, hm, h⟩ := Failing.bind_eq_ok.mp h
  refine ⟨m, hm, ?_⟩
  cases hweak : weakest? m with
  | none =>
      rw [hweak] at h
      exact .inl ⟨rfl, h⟩
  | some op =>
      rw [hweak] at h
      refine .inr ⟨op, rfl, ?_⟩
      dsimp only at h
      split at h
      · cases h
      · cases h
        rfl

/-- A single token that is a number. -/
theorem constantLeaf?_eq_some {shape : Shape} :
    constantLeaf? source ts = .ok (some shape) ↔
      ∃ t n l, ts = [t] ∧ t.kind = .value ∧ Numeral.read? false t.text = some n ∧
        literal? n = some l ∧ shape = .leaf (.const l) := by
  match ts with
  | [] => simp [constantLeaf?]
  | _ :: _ :: _ => simp [constantLeaf?]
  | [t] =>
    unfold constantLeaf?
    by_cases hk : t.kind = .value
    · simp only [hk, bne_self_eq_false, Bool.false_eq_true, if_false]
      cases hread : Numeral.read? false t.text with
      | none => simp [hread]
      | some n =>
          cases hlit : literal? n with
          | none => simp [hread, hlit, fault]
          | some l => simp [hk, hread, hlit, eq_comm]
    · simp [hk]

/-- Delimiters stand around the text of a token. -/
private theorem delimited_iff {opening closing : Char} {s : Text} :
    (s.length < 2 || s.head? != some opening || s.getLast? != some closing) = false ↔
      s = opening :: s.tail.dropLast ++ [closing] := by
  cases s with
  | nil => simp
  | cons c rest =>
      rcases List.eq_nil_or_concat rest with rfl | ⟨inner, last, rfl⟩
      · simp
      · have hlast : (c :: (inner ++ [last])).getLast? = some last := by
          rw [← List.cons_append, List.getLast?_concat]
        simp [hlast]

theorem variableLeaf?_plain {opening closing : Text} {shape : Shape} (hk : t.kind = .value) :
    variableLeaf? (.plain opening closing) source [t] = .ok (some shape) ↔
      Text.isName t.text = true ∧ shape = .leaf (.var t.text) := by
  unfold variableLeaf?
  simp only [hk, bne_self_eq_false, Bool.false_eq_true, if_false]
  by_cases hname : Text.isName t.text = true
  · simp [hname, eq_comm]
  · simp [hname]

theorem variableLeaf?_escaped {opening closing : Char} {shape : Shape} (hk : t.kind = .value) :
    variableLeaf? (.escaped opening closing) source [t] = .ok (some shape) ↔
      ∃ name, (Pattern.escaped opening closing).allows name = true ∧
        t.text = opening :: name ++ [closing] ∧ shape = .leaf (.var name) := by
  unfold variableLeaf?
  simp only [hk, bne_self_eq_false, Bool.false_eq_true, if_false]
  constructor
  · intro h
    split at h
    · cases h
    · rename_i hdelimited
      have htext := delimited_iff.mp (Bool.eq_false_iff.mpr hdelimited)
      split at h
      · cases h
      · rename_i hlegal
        cases h
        exact ⟨t.text.tail.dropLast, by simpa [Pattern.allows, and_assoc] using hlegal, htext, rfl⟩
  · rintro ⟨name, hname, htext, rfl⟩
    have hinner : t.text.tail.dropLast = name := by
      rw [htext, List.cons_append, List.tail_cons, List.dropLast_concat]
    have hdelimited := delimited_iff.mpr (by rw [hinner]; exact htext :
      t.text = opening :: t.text.tail.dropLast ++ [closing])
    have hlegal : (name.isEmpty || name.contains opening || name.contains closing) = false := by
      simpa [Pattern.allows, and_assoc] using hname
    simp only [Bool.false_eq_true, if_false, hdelimited, hinner, hlegal]

/-- A single token that is a variable. -/
theorem variableLeaf?_eq_some {p : Pattern} {shape : Shape} :
    variableLeaf? p source ts = .ok (some shape) ↔
      ∃ t name, ts = [t] ∧ t.kind = .value ∧ p.allows name = true ∧
        t.text = p.wrap name ∧ shape = .leaf (.var name) := by
  match ts with
  | [] => simp [variableLeaf?]
  | _ :: _ :: _ => simp [variableLeaf?]
  | [t] =>
    by_cases hk : t.kind = .value
    · cases p with
      | plain opening closing =>
          rw [variableLeaf?_plain hk]
          constructor
          · rintro ⟨hname, rfl⟩
            exact ⟨t, t.text, rfl, hk, hname, rfl, rfl⟩
          · rintro ⟨t, name, ht, -, hname, htext, rfl⟩
            cases ht
            have hwrap : t.text = name := htext
            rw [hwrap]
            exact ⟨hname, rfl⟩
      | escaped opening closing =>
          rw [variableLeaf?_escaped hk]
          constructor
          · rintro ⟨name, hname, htext, rfl⟩
            exact ⟨t, name, rfl, hk, hname, htext, rfl⟩
          · rintro ⟨t, name, ht, -, hname, htext, rfl⟩
            cases ht
            exact ⟨name, hname, htext, rfl⟩
    · simp [variableLeaf?, hk]

/-! ### Numbers and variables -/

/-- A variable is not read as a number. -/
theorem read?_wrap {p : Pattern} {name : Text} (hp : p.isUnlikeNumber = true)
    (hname : p.allows name = true) : Numeral.read? false (p.wrap name) = none := by
  cases p with
  | plain opening closing =>
      cases name with
      | nil => cases hname
      | cons c rest =>
          obtain ⟨hstart, -⟩ : Text.isNameStart c = true ∧ _ := by
            simpa [Pattern.allows, Text.isName] using hname
          exact Numeral.read?_cons_of_not_begins (Numeral.begins_of_isNameStart hstart) _ _
  | escaped opening closing =>
      have hopening : Numeral.begins opening = false := by simpa [Pattern.isUnlikeNumber] using hp
      exact Numeral.read?_cons_of_not_begins hopening _ _

theorem constantLeaf?_of_variable {p : Pattern} {name : Text} (hp : p.isUnlikeNumber = true)
    (hname : p.allows name = true) (htext : t.text = p.wrap name) :
    constantLeaf? source [t] = .ok none := by
  by_cases hk : t.kind = .value
  · simp [constantLeaf?, hk, htext, read?_wrap hp hname]
  · simp [constantLeaf?, hk]

/-- A number is not read as a variable. -/
theorem variableLeaf?_of_number {p : Pattern} {n : Numeral} (hp : p.isUnlikeNumber = true)
    (hread : Numeral.read? false t.text = some n) : variableLeaf? p source [t] = .ok none := by
  obtain ⟨c, rest, htext, hbegins⟩ := Numeral.exists_of_read? hread
  by_cases hk : t.kind = .value
  · cases p with
    | plain opening closing =>
        have hname : Text.isName t.text = false := by
          cases hstart : Text.isNameStart c with
          | true => rw [Numeral.begins_of_isNameStart hstart] at hbegins; cases hbegins
          | false => simp [htext, Text.isName, hstart]
        simp [variableLeaf?, hk, hname]
    | escaped opening closing =>
        have hne : c ≠ opening := by
          rintro rfl
          simp [Pattern.isUnlikeNumber, hbegins] at hp
        simp [variableLeaf?, hk, htext, hne]
  · simp [variableLeaf?, hk]

/-- A mark has something on both sides. -/
theorem two_le_of_marked (h : markBinary o source 0 false ts = .ok m) (hm : marks m ≠ []) :
    2 ≤ ts.length := by
  match ts, h with
  | [], h =>
    cases h
    exact absurd rfl hm
  | [t], h =>
    obtain ⟨mark, more, rfl, hmark, hmore⟩ := markBinary_cons_eq_ok.mp h
    cases hmore
    cases hmark with
    | skip => exact absurd rfl hm
    | between hb => simp [isBetween] at hb
  | _ :: _ :: rest, _ =>
    simp only [List.length_cons]
    omega

/-! ### The form of a run -/

theorem leftTo_constant {n : Numeral} (hp : o.pattern.isUnlikeNumber = true) (hk : t.kind = .value)
    (hread : Numeral.read? false t.text = some n) : LeftTo o source [t] .constant := by
  intro other hother
  cases other with
  | constant => exact absurd rfl hother
  | «variable» => exact variableLeaf?_of_number hp hread
  | parenthesis => rfl
  | operation => exact operation?_eq_none (.value hk) (marks_unmarked _) (by simp [hk])

theorem leftTo_variable (hk : t.kind = .value) (hconstant : constantLeaf? source [t] = .ok none) :
    LeftTo o source [t] .variable := by
  intro other hother
  cases other with
  | constant => exact hconstant
  | «variable» => exact absurd rfl hother
  | parenthesis => rfl
  | operation => exact operation?_eq_none (.value hk) (marks_unmarked _) (by simp [hk])

/-- Without parentheses around it a run of two tokens or more is an operation or nothing. -/
theorem leftTo_operation (hlong : 2 ≤ ts.length)
    (hparenthesis : parenthesis? o source ts = .ok none) : LeftTo o source ts .operation := by
  intro other hother
  cases other with
  | constant => exact constantLeaf?_of_two_le hlong
  | «variable» => exact variableLeaf?_of_two_le _ hlong
  | parenthesis => exact hparenthesis
  | operation => exact absurd rfl hother

theorem leftTo_parenthesis (hlong : 2 ≤ ts.length)
    (hoperation : operation? o source ts = .ok none) : LeftTo o source ts .parenthesis := by
  intro other hother
  cases other with
  | constant => exact constantLeaf?_of_two_le hlong
  | «variable» => exact variableLeaf?_of_two_le _ hlong
  | parenthesis => exact absurd rfl hother
  | operation => exact hoperation

/-- What is decided when the leaves and the parentheses find nothing. -/
theorem of_operation {shape : Shape} (hmem : .operation ∈ o.parsers) (hlong : 2 ≤ ts.length)
    (hparenthesis : parenthesis? o source ts = .ok none)
    (hoperation : operation? o source ts = .ok (some shape)) : of o source ts = .ok shape :=
  of_eq_ok_of_kind .operation hmem hoperation (leftTo_operation hlong hparenthesis)

theorem of_parenthesis {shape : Shape} (hmem : .parenthesis ∈ o.parsers) (hlong : 2 ≤ ts.length)
    (hparenthesis : parenthesis? o source ts = .ok (some shape))
    (hoperation : operation? o source ts = .ok none) : of o source ts = .ok shape :=
  of_eq_ok_of_kind .parenthesis hmem hparenthesis (leftTo_parenthesis hlong hoperation)

theorem of_literal {n : Numeral} {l : Literal} (hmem : .constant ∈ o.parsers)
    (hp : o.pattern.isUnlikeNumber = true) (hk : t.kind = .value)
    (hread : Numeral.read? false t.text = some n) (hlit : literal? n = some l) :
    of o source [t] = .ok (.leaf (.const l)) := by
  have hfound : constantLeaf? source [t] = .ok (some (.leaf (.const l))) :=
    constantLeaf?_eq_some.mpr ⟨t, n, l, rfl, hk, hread, hlit, rfl⟩
  exact of_eq_ok_of_kind .constant hmem hfound (leftTo_constant hp hk hread)

theorem of_variable {name : Text} (hmem : .variable ∈ o.parsers)
    (hp : o.pattern.isUnlikeNumber = true) (hk : t.kind = .value)
    (hname : o.pattern.allows name = true) (htext : t.text = o.pattern.wrap name) :
    of o source [t] = .ok (.leaf (.var name)) := by
  have hfound : variableLeaf? o.pattern source [t] = .ok (some (.leaf (.var name))) :=
    variableLeaf?_eq_some.mpr ⟨t, name, rfl, hk, hname, htext, rfl⟩
  have hconstant : constantLeaf? source [t] = .ok none := constantLeaf?_of_variable hp hname htext
  exact of_eq_ok_of_kind .variable hmem hfound (leftTo_variable hk hconstant)

theorem of_group {a b : Token} {xs : List Token} (hmem : .parenthesis ∈ o.parsers)
    (ha : a.kind = .opening) (hb : b.kind = .closing) (h : Run o source xs m) :
    of o source (a :: (xs ++ [b])) = .ok (.group xs) := by
  have hone : (arguments xs).length ≤ 1 := by
    have hxs : ∀ ts ∈ xs :: ([] : List (Token × List Token)).map (·.2), Undivided ts := by
      simpa using h.undivided
    have := arguments_linked h.ne_nil hxs (by simp)
    rw [linked_nil] at this
    simp [this]
  refine of_parenthesis hmem (by simp) ?_ ?_
  · rw [parenthesis?_enclosed ha hb h.balanced]
    exact groupOf_eq_ok.mpr ⟨h.ne_nil, hone, rfl⟩
  · exact operation?_eq_none (.enclosed ha hb h.balanced) (marks_unmarked _) (by simp [ha])

/-- A call, given what its arguments are. -/
theorem of_call {a b : Token} {xs : List Token} {f : MathFunction}
    (hmem : .parenthesis ∈ o.parsers) (hk : t.kind = .value) (hname : Text.isName t.text = true)
    (hf : o.function? t.text = some f) (ha : a.kind = .opening) (hb : b.kind = .closing)
    (hbal : Balanced xs) (hargs : ∀ arg ∈ arguments xs, arg ≠ [])
    (haccepts : f.accepts (arguments xs).length = true) :
    of o source (t :: a :: (xs ++ [b])) = .ok (.call f.name (arguments xs)) := by
  refine of_parenthesis hmem (by simp) ?_ ?_
  · rw [parenthesis?_called hk hname ha hb hbal,
      callOf_eq_ok.mpr ⟨f, hf, hargs, haccepts, rfl⟩]
    rfl
  · exact operation?_eq_none (.called hk ha hb hbal) (marks_unmarked _) (by simp [hk])

theorem of_prefixed {op : Operator} (hmem : .operation ∈ o.parsers) (hk : t.kind = .operator)
    (known : o.operator? t.text = some op) (hunary : op.unary.isSome = true)
    (h : Run o source ts m) (hm : marks m = []) :
    of o source (t :: ts) = .ok (.prefixed t.text ts) := by
  have hlong : 2 ≤ (t :: ts).length := by
    have := List.length_pos_iff.mpr h.ne_nil
    rw [List.length_cons]
    omega
  refine of_operation hmem hlong (parenthesis?_of_operator hk) ?_
  rw [operation?_of_unmarked (h.prefixed hk).reads (by simpa using hm)]
  simp [prefixed?, hk, operatorOf_eq_ok.mpr known, Option.isNone_eq_false_iff.mpr hunary, h.ne_nil,
    bind, Except.bind]
  rfl

/-- A chain, given what the cut at its weakest operator is. -/
theorem of_chain {op : Operator} {first : List Token} {rest : List (Token × List Token)}
    (hmem : .operation ∈ o.parsers) (hreads : markBinary o source 0 false ts = .ok m)
    (hweak : weakest? m = some op) (hcut : cut op.precedence m = (first, rest))
    (hlast : ∀ x ∈ rest, x.2 ≠ []) : of o source ts = .ok (.chain op.associativity first rest) := by
  have hm : marks m ≠ [] := fun hnil => by simp [weakest?_eq_none.mpr hnil] at hweak
  refine of_operation hmem (two_le_of_marked hreads hm) (parenthesis?_of_marked hreads hm) ?_
  unfold operation?
  rw [hreads]
  dsimp only [bind, Except.bind]
  rw [hweak]
  dsimp only
  rw [hcut]
  dsimp only
  split
  · rename_i u hu
    exact absurd rfl (hlast _ (List.mem_of_getLast? hu))
  · rfl

end Shape
end Reckon
