/-
What building options comes to.

`Draft.build` reads the fields of a draft one by one and then looks for conflicts between them.  If
it succeeds, each field of the options has been read from the field of the same name, and from no
other; `Draft.Reads` says so.  Options whose limit could have been given are read from their own
draft.  So whoever changes one field of that draft and builds it changes one field of the options, and
the others stay as they are.
-/
import Reckon.Settings
import Reckon.Proofs.Rendering.Readable

namespace Reckon

/-! ### Reading one field -/

theorem TokenizerKind.named?_name (kind : TokenizerKind) : named? kind.name = some kind := by
  cases kind <;> rfl

theorem ParserKind.named?_name (kind : ParserKind) : named? kind.name = some kind := by
  cases kind <;> rfl

theorem ErrorBehavior.named?_name (behavior : ErrorBehavior) : named? behavior.name = some behavior := by
  cases behavior <;> rfl

/-- Choices are read from their names. -/
theorem Draft.choices_map {α : Type} {field : ChoiceField} {named? : Text → Option α}
    {name : α → Text} (h : ∀ a, named? (name a) = some a) (as : List α) :
    choices field named? (as.map name) = .ok as := by
  have hissues : (as.map name).zipIdx.filter (fun x => (named? x.1).isNone) = [] := by
    refine List.filter_eq_nil_iff.mpr fun x hx => ?_
    obtain ⟨a, -, ha⟩ := List.mem_map.mp (List.fst_mem_of_mem_zipIdx hx)
    rw [← ha, h]
    exact Bool.false_ne_true
  have hread : (as.map name).filterMap named? = as := by
    rw [List.filterMap_map, show named? ∘ name = some from funext h, List.filterMap_some]
  unfold choices
  dsimp only
  rw [show List.filter _ _ = [] from hissues, hread]
  rfl

theorem DepthLimit.one_le_of_read {v : Value} {n : Nat} (h : read v = .ok n) : 1 ≤ n := by
  obtain ⟨i, -, h⟩ := Failing.bind_eq_ok.mp h
  by_cases hi : i < 1
  · rw [if_pos hi] at h
    cases h
  · rw [if_neg hi] at h
    cases h
    omega

/-- A limit is read from the number that it is. -/
theorem DepthLimit.read_natCast {n : Nat} (h : 1 ≤ n) : read (.number (.int n)) = .ok n := by
  have hn : ¬(n : Int) < 1 := by omega
  refine Failing.bind_eq_ok.mpr ⟨n, rfl, ?_⟩
  rw [if_neg hn]
  rfl

/-! ### Reading all fields -/

namespace Draft

/-- Every field of the options is what the field of the draft says. -/
structure Reads (d : Draft) (o : Options) : Prop where
  pattern : o.pattern = d.pattern
  operators : o.operators = d.operators
  functions : o.functions = d.functions
  tokenizers : choices .tokenizers TokenizerKind.named? d.tokenizers = .ok o.tokenizers
  parsers : choices .parsers ParserKind.named? d.parsers = .ok o.parsers
  errorBehavior : ErrorBehavior.named? d.errorBehavior = some o.errorBehavior
  maxDepth : DepthLimit.read d.maxDepth = .ok o.maxDepth

variable {d : Draft} {o : Options}

theorem build_eq_ok : d.build = .ok o ↔ d.Reads o ∧ o.conflict? = none := by
  constructor
  · intro h
    unfold build at h
    dsimp only at h
    split at h
    · rename_i tokenizers parsers behavior depth htokenizers hparsers hbehavior hdepth
      have hnamed : ErrorBehavior.named? d.errorBehavior = some behavior := by
        split at hbehavior
        · rename_i hnamed
          cases hbehavior
          exact hnamed
        · cases hbehavior
      have hread : DepthLimit.read d.maxDepth = .ok depth := by
        split at hdepth
        · rename_i hread
          cases hdepth
          exact hread
        · cases hdepth
      split at h
      · rename_i hfits
        cases h
        exact ⟨⟨rfl, rfl, rfl, htokenizers, hparsers, hnamed, hread⟩, hfits⟩
      · cases h
    · cases h
  · rintro ⟨hreads, hfits⟩
    unfold build
    rw [hreads.tokenizers, hreads.parsers, hreads.errorBehavior, hreads.maxDepth, ← hreads.pattern,
      ← hreads.operators, ← hreads.functions]
    dsimp only
    rw [hfits]

/-- A draft makes one set of options at most. -/
theorem Reads.unique {o' : Options} (h : d.Reads o) (h' : d.Reads o') : o = o' := by
  have htokenizers := Except.ok.inj (h.tokenizers.symm.trans h'.tokenizers)
  have hparsers := Except.ok.inj (h.parsers.symm.trans h'.parsers)
  have hbehavior := Option.some.inj (h.errorBehavior.symm.trans h'.errorBehavior)
  have hdepth := Except.ok.inj (h.maxDepth.symm.trans h'.maxDepth)
  have hpattern := h.pattern.trans h'.pattern.symm
  have hoperators := h.operators.trans h'.operators.symm
  have hfunctions := h.functions.trans h'.functions.symm
  cases o
  cases o'
  simp_all

/-- Building yields what is read from the draft, if its parts fit together. -/
theorem Reads.build_eq_ok {o' : Options} (h : d.Reads o) :
    d.build = .ok o' ↔ o' = o ∧ o.conflict? = none := by
  rw [Draft.build_eq_ok]
  constructor
  · rintro ⟨hreads, hfits⟩
    obtain rfl := hreads.unique h
    exact ⟨rfl, hfits⟩
  · rintro ⟨rfl, hfits⟩
    exact ⟨h, hfits⟩

end Draft

/-! ### Changing options -/

namespace Options

variable {o o' : Options}

/-- Options with a limit that could have been given are read from their own draft. -/
theorem draft_reads (hdepth : 1 ≤ o.maxDepth) : o.draft.Reads o where
  pattern := rfl
  operators := rfl
  functions := rfl
  tokenizers := Draft.choices_map TokenizerKind.named?_name o.tokenizers
  parsers := Draft.choices_map ParserKind.named?_name o.parsers
  errorBehavior := ErrorBehavior.named?_name o.errorBehavior
  maxDepth := DepthLimit.read_natCast hdepth

/-- Registering tokenizers does that and nothing else, if the parts still fit together. -/
theorem withTokenizers_eq_ok (hdepth : 1 ≤ o.maxDepth) {tokenizers : List TokenizerKind} :
    o.withTokenizers (tokenizers.map (·.name)) = .ok o' ↔
      o' = { o with tokenizers := tokenizers } ∧
        ({ o with tokenizers := tokenizers } : Options).conflict? = none :=
  Draft.Reads.build_eq_ok
    { draft_reads hdepth with tokenizers := Draft.choices_map TokenizerKind.named?_name tokenizers }

end Options

/-- Drafts that agree, but for the fields with the given names. -/
structure Draft.AgreeExcept (names : List Text) (d d' : Draft) : Prop where
  pattern : "variable_pattern".toList ∉ names → d'.pattern = d.pattern
  operators : "operators".toList ∉ names → d'.operators = d.operators
  functions : "functions".toList ∉ names → d'.functions = d.functions
  tokenizers : "tokenizers".toList ∉ names → d'.tokenizers = d.tokenizers
  parsers : "parsers".toList ∉ names → d'.parsers = d.parsers
  errorBehavior : "error_behavior".toList ∉ names → d'.errorBehavior = d.errorBehavior
  maxDepth : "max_depth".toList ∉ names → d'.maxDepth = d.maxDepth

/-- Options that agree, but for the fields with the given names. -/
structure Options.AgreeExcept (names : List Text) (o o' : Options) : Prop where
  pattern : "variable_pattern".toList ∉ names → o'.pattern = o.pattern
  operators : "operators".toList ∉ names → o'.operators = o.operators
  functions : "functions".toList ∉ names → o'.functions = o.functions
  tokenizers : "tokenizers".toList ∉ names → o'.tokenizers = o.tokenizers
  parsers : "parsers".toList ∉ names → o'.parsers = o.parsers
  errorBehavior : "error_behavior".toList ∉ names → o'.errorBehavior = o.errorBehavior
  maxDepth : "max_depth".toList ∉ names → o'.maxDepth = o.maxDepth

/-- What drafts agree on, the options that are read from them agree on. -/
theorem Draft.Reads.agreeExcept {names : List Text} {d d' : Draft} {o o' : Options} (h : d.Reads o)
    (h' : d'.Reads o') (hagree : d.AgreeExcept names d') : o.AgreeExcept names o' where
  pattern hn := by rw [h'.pattern, h.pattern, hagree.pattern hn]
  operators hn := by rw [h'.operators, h.operators, hagree.operators hn]
  functions hn := by rw [h'.functions, h.functions, hagree.functions hn]
  tokenizers hn := by
    have hread := h'.tokenizers
    rw [hagree.tokenizers hn, h.tokenizers] at hread
    exact (Except.ok.inj hread).symm
  parsers hn := by
    have hread := h'.parsers
    rw [hagree.parsers hn, h.parsers] at hread
    exact (Except.ok.inj hread).symm
  errorBehavior hn := by
    have hread := h'.errorBehavior
    rw [hagree.errorBehavior hn, h.errorBehavior] at hread
    exact (Option.some.inj hread).symm
  maxDepth hn := by
    have hread := h'.maxDepth
    rw [hagree.maxDepth hn, h.maxDepth] at hread
    exact (Except.ok.inj hread).symm

end Reckon
