/-
What options can become.

Options are made from a draft or taken as they stand by default, and then changed: one field at a
time, or by a settings file, which may change several at once.  Every one of these steps builds options
again, from a draft that differs in the fields that the step names; a step without a settings file
leaves everything as it is.  `Step.exists_draft` says so once, for all the ways to change options.

From that it follows what a step leaves alone, and that a step keeps options admitted: their parts fit
together, their operators could have been described, and they allow one level at least.  The first of
these is split over several checks, at the operators, at the pattern and at the options as a whole.
They have to add up even if pattern and operators change in different steps, and they do since
building looks at all parts again.
-/
import Reckon.Proofs.Options.Building

namespace Reckon

/-! ### Operators that have been described -/

/-- A description of the operator has been accepted. -/
def Operator.IsBuilt (op : Operator) : Prop :=
  ∃ symbol precedence associativity binary unary,
    build symbol precedence associativity binary unary = .ok op

theorem Operator.IsBuilt.isSymbol {op : Operator} (h : op.IsBuilt) : isSymbol op.symbol = true := by
  obtain ⟨symbol, precedence, associativity, binary, unary, h⟩ := h
  unfold build at h
  dsimp only at h
  split at h
  · rename_i c a hc ha
    cases h
    split at hc
    · split at hc
      · rename_i hsymbol
        cases hc
        exact hsymbol
      · cases hc
    · cases hc
  · cases h

/-- What a settings file can select are standard operators. -/
theorem Operator.mem_standard_of_select {symbols : List Text} {operators : List Operator}
    (h : select symbols = .ok operators) : ∀ op ∈ operators, op ∈ standard := by
  unfold select at h
  split at h
  · cases h
    exact fun op hop => (List.mem_filter.mp hop).1
  · cases h

/-- And standard functions. -/
theorem MathFunction.mem_standard_of_select {names : List Text} {functions : List MathFunction}
    (h : select names = .ok functions) : ∀ f ∈ functions, f ∈ standard := by
  unfold select at h
  split at h
  · cases h
    exact fun f hf => (List.mem_filter.mp hf).1
  · cases h

/-! ### What a settings file changes -/

namespace Settings

variable {s : Settings} {file : Text}

theorem exists_of_readKey {α : Type} {table : Value} {key : String}
    {read : Value → Except SettingFault α} {a : α} (h : readKey table key read = .ok (some a)) :
    ∃ v, read v = .ok a := by
  obtain ⟨found, -, h⟩ := Failing.bind_eq_ok.mp h
  cases found with
  | none => cases h
  | some v =>
      obtain ⟨b, hb, hsome⟩ := Failing.functor_map_eq_ok.mp h
      cases hsome
      exact ⟨v, hb⟩

/-- The operators and functions of a settings file are standard ones. -/
theorem mem_standard_of_read (h : read file = .ok s) :
    (∀ operators, s.operators = some operators → ∀ op ∈ operators, op ∈ Operator.standard) ∧
      ∀ functions, s.functions = some functions → ∀ f ∈ functions, f ∈ MathFunction.standard := by
  unfold read at h
  split at h
  · cases h
  · cases h
  · obtain ⟨pattern, -, h⟩ := Failing.bind_eq_ok.mp h
    obtain ⟨behavior, -, h⟩ := Failing.bind_eq_ok.mp h
    obtain ⟨operators?, hoperators, h⟩ := Failing.bind_eq_ok.mp h
    obtain ⟨functions?, hfunctions, h⟩ := Failing.bind_eq_ok.mp h
    obtain ⟨depth, -, h⟩ := Failing.bind_eq_ok.mp h
    cases h
    constructor
    · rintro operators rfl
      obtain ⟨v, hv⟩ := exists_of_readKey hoperators
      obtain ⟨symbols, -, hselect⟩ := Failing.bind_eq_ok.mp hv
      exact Operator.mem_standard_of_select hselect
    · rintro functions rfl
      obtain ⟨v, hv⟩ := exists_of_readKey hfunctions
      obtain ⟨names, -, hselect⟩ := Failing.bind_eq_ok.mp hv
      exact MathFunction.mem_standard_of_select hselect

theorem getD_of_not_mem {α : Type} {x : Option α} {name : Text} {names : List Text}
    (hmem : x.isSome = true → name ∈ names) (hn : name ∉ names) (a : α) : x.getD a = a := by
  cases x with
  | none => rfl
  | some b => exact absurd (hmem rfl) hn

theorem mem_names {name : Text} :
    name ∈ s.names ↔
      (s.errorBehavior.isSome = true ∧ name = "error_behavior".toList) ∨
      (s.functions.isSome = true ∧ name = "functions".toList) ∨
      (s.maxDepth.isSome = true ∧ name = "max_depth".toList) ∨
      (s.operators.isSome = true ∧ name = "operators".toList) ∨
      (s.pattern.isSome = true ∧ name = "variable_pattern".toList) := by
  unfold names
  simp only [List.mem_append, List.mem_ite_nil_right, List.mem_singleton, or_assoc]

/-- Using settings builds options from a draft that differs in the fields they name. -/
theorem exists_draft {base o : Options} (h : s.applyTo base = .ok o) :
    ∃ d : Draft, d.build = .ok o ∧ base.draft.AgreeExcept s.names d ∧
      d.operators = s.operators.getD base.operators ∧
      d.functions = s.functions.getD base.functions := by
  refine ⟨_, Failing.mapError_eq_ok.mp h, ⟨?_, ?_, ?_, fun _ => rfl, fun _ => rfl, ?_, ?_⟩, rfl, rfl⟩
  · exact fun hn => getD_of_not_mem (x := s.pattern)
      (fun hs => mem_names.mpr (.inr (.inr (.inr (.inr ⟨hs, rfl⟩))))) hn _
  · exact fun hn => getD_of_not_mem (x := s.operators)
      (fun hs => mem_names.mpr (.inr (.inr (.inr (.inl ⟨hs, rfl⟩))))) hn _
  · exact fun hn => getD_of_not_mem (x := s.functions)
      (fun hs => mem_names.mpr (.inr (.inl ⟨hs, rfl⟩))) hn _
  · refine fun hn => getD_of_not_mem (x := s.errorBehavior.map (·.name)) (fun hs => ?_) hn _
    exact mem_names.mpr (.inl ⟨by rwa [Option.isSome_map] at hs, rfl⟩)
  · exact fun hn => getD_of_not_mem (x := s.maxDepth)
      (fun hs => mem_names.mpr (.inr (.inr (.inl ⟨hs, rfl⟩)))) hn _

end Settings

/-! ### Steps -/

namespace Options

/-- Options become others, by a step that names the fields it changes. -/
inductive Step : List Text → Options → Options → Prop
  | operators {o o' : Options} {operators : List Operator} (built : ∀ op ∈ operators, op.IsBuilt)
      (h : o.withOperators operators = .ok o') : Step ["operators".toList] o o'
  | functions {o o' : Options} {functions : List MathFunction}
      (h : o.withFunctions functions = .ok o') : Step ["functions".toList] o o'
  | additionalFunctions {o o' : Options} {functions : List MathFunction}
      (h : o.withAdditionalFunctions functions = .ok o') : Step ["functions".toList] o o'
  | pattern {o o' : Options} {pattern : Pattern} (h : o.withPattern pattern = .ok o') :
      Step ["variable_pattern".toList] o o'
  | errorBehavior {o o' : Options} {behavior : ErrorBehavior}
      (h : o.withErrorBehavior behavior = .ok o') : Step ["error_behavior".toList] o o'
  | tokenizers {o o' : Options} {names : List Text} (h : o.withTokenizers names = .ok o') :
      Step ["tokenizers".toList] o o'
  | parsers {o o' : Options} {names : List Text} (h : o.withParsers names = .ok o') :
      Step ["parsers".toList] o o'
  | noFile {o o' : Options} (h : Settings.load o none = .ok o') : Step [] o o'
  | file {o o' : Options} {file : Text} {s : Settings} (hread : Settings.read file = .ok s)
      (h : Settings.load o (some file) = .ok o') : Step s.names o o'

/-- Options that can be come by: made from a draft with operators that have been described, or the
standard ones, or changed from such. -/
inductive Reachable : Options → Prop
  | built {d : Draft} {o : Options} (operators : ∀ op ∈ d.operators, op.IsBuilt)
      (h : d.build = .ok o) : Reachable o
  | standard : Reachable standard
  | changed {o o' : Options} {names : List Text} (h : Reachable o) (hstep : Step names o o') :
      Reachable o'

variable {o o' : Options} {names : List Text}

/-- A step leaves options as they are, or builds them from a draft that differs in the fields it names,
with operators that were there before or have been described. -/
theorem Step.exists_draft (h : Step names o o') :
    o' = o ∨ ∃ d : Draft, d.build = .ok o' ∧ o.draft.AgreeExcept names d ∧
      ∀ op ∈ d.operators, op ∈ o.operators ∨ Operator.isSymbol op.symbol = true := by
  cases h with
  | operators built h =>
      refine .inr ⟨_, h, ?_, fun op hop => .inr (built op hop).isSymbol⟩
      constructor <;> simp
  | functions h | additionalFunctions h | pattern h | errorBehavior h | tokenizers h | parsers h =>
      refine .inr ⟨_, h, ?_, fun op hop => .inl hop⟩
      constructor <;> simp
  | noFile h =>
      cases h
      exact .inl rfl
  | file hread h =>
      obtain ⟨s, hread', h⟩ := Failing.bind_eq_ok.mp h
      obtain rfl := Except.ok.inj (hread'.symm.trans hread)
      obtain ⟨d, hd, hagree, hoperators, -⟩ := Settings.exists_draft h
      refine .inr ⟨d, hd, hagree, fun op hop => ?_⟩
      rw [hoperators] at hop
      cases hs : s.operators with
      | none =>
          rw [hs] at hop
          exact .inl hop
      | some operators =>
          rw [hs] at hop
          exact .inr (standard_readable.symbols op ((Settings.mem_standard_of_read hread).1 _ hs op hop))

/-! ### What a step keeps -/

/-- Options whose parts fit together and that allow one level at least. -/
structure Admitted (o : Options) : Prop extends o.Valid where
  maxDepth : 1 ≤ o.maxDepth

theorem Admitted.of_build {d : Draft} (symbols : ∀ op ∈ d.operators, Operator.isSymbol op.symbol = true)
    (h : d.build = .ok o) : o.Admitted :=
  ⟨.of_build symbols h, DepthLimit.one_le_of_read (Draft.build_eq_ok.mp h).1.maxDepth⟩

/-- A step changes nothing but the fields it names. -/
theorem Step.agreeExcept (h : Step names o o') (hadmitted : o.Admitted) : o.AgreeExcept names o' := by
  rcases h.exists_draft with rfl | ⟨d, hd, hagree, -⟩
  · constructor <;> exact fun _ => rfl
  · exact (draft_reads hadmitted.maxDepth).agreeExcept (Draft.build_eq_ok.mp hd).1 hagree

theorem Step.admitted (h : Step names o o') (hadmitted : o.Admitted) : o'.Admitted := by
  rcases h.exists_draft with rfl | ⟨d, hd, -, hoperators⟩
  · exact hadmitted
  · refine .of_build (fun op hop => ?_) hd
    rcases hoperators op hop with hop | hsymbol
    · exact hadmitted.symbols op hop
    · exact hsymbol

/-- Whatever options can be come by, they are admitted. -/
theorem Reachable.admitted (h : o.Reachable) : o.Admitted := by
  induction h with
  | built operators h => exact .of_build (fun op hop => (operators op hop).isSymbol) h
  | standard => exact ⟨standard_readable.valid, by decide⟩
  | changed _ hstep ih => exact hstep.admitted ih

/-! ### Nothing is ambiguous -/

/-- Options that leave nothing open: no operator, tokenizer or parser is there twice, no two kinds of
tokenizers claim the same character, and there is a level to read something on. -/
structure Coherent (o : Options) : Prop where
  operators : (o.operators.map (·.symbol)).Nodup
  claimed : ∀ kind other, kind ≠ other → List.Disjoint (o.claimed kind) (o.claimed other)
  tokenizers : o.tokenizers.Nodup
  parsers : o.parsers.Nodup
  maxDepth : 1 ≤ o.maxDepth

theorem Admitted.coherent (h : o.Admitted) : o.Coherent := by
  obtain ⟨hoperators, -, htokenizers, hparsers⟩ := conflict?_eq_none.mp h.fits
  exact ⟨hoperators, fun kind other hne c hc hc' => hne (h.claimed_unique hc hc'), htokenizers, hparsers,
    h.maxDepth⟩

end Options
end Reckon
