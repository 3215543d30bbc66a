/-
Options that read what they write.

Every character of a rendered text has to mean one thing.  Operators, delimiters and
parentheses are claimed by one tokenizer each, whatever the order of the tokenizers is, and
the characters of names and numbers by none.  That takes options whose parts fit together
and whose operators and delimiters look neither like a part of a name or a number nor like
white space.
-/
import Reckon.Proofs.Shape.Forms

namespace Reckon

/-! ### What a character means -/

theorem Pattern.mem_delimiters {opening closing c : Char} :
    c ∈ (Pattern.escaped opening closing).delimiters ↔ c = opening ∨ c = closing := by
  show c ∈ (if (opening == closing) = true then [opening]
    else if opening < closing then [opening, closing] else [closing, opening]) ↔ _
  by_cases hsame : opening = closing
  · simp [hsame]
  · by_cases hlt : opening < closing
    · simp [hsame, hlt]
    · simp [hsame, hlt, or_comm]

/-- Options as they can be made: their parts fit together, and every operator could have been
described. -/
structure Options.Valid (o : Options) : Prop where
  fits : o.conflict? = none
  symbols : ∀ op ∈ o.operators, Operator.isSymbol op.symbol = true

/-- A character of names or of numbers. -/
def Text.isPlain (c : Char) : Bool := Text.isNameStart c || Numeral.begins c

/-- Options that read what they write: their parts fit together, everything is registered, and no
operator or delimiter looks like a part of a name or of a number, or like white space. -/
structure Options.Readable (o : Options) : Prop where
  /-- No two parts want the same thing. -/
  fits : o.conflict? = none
  /-- Every operator could have been described. -/
  symbols : ∀ op ∈ o.operators, Operator.isSymbol op.symbol = true
  tokenizers : ∀ kind, kind ∈ o.tokenizers
  parsers : ∀ kind, kind ∈ o.parsers
  /-- An operator ends a name or a number and is not trimmed off. -/
  operatorsApart : ∀ op ∈ o.operators, Text.isPlain op.symbol = false ∧ Text.isBlank op.symbol = false
  /-- The same goes for a delimiter. -/
  delimitersApart : ∀ c ∈ o.pattern.delimiters, Text.isPlain c = false ∧ Text.isBlank c = false

namespace Options

variable {o : Options} {c : Char}

/-- Parts fit together if nothing is there twice and no delimiter is taken by another kind. -/
theorem conflict?_eq_none :
    o.conflict? = none ↔
      (o.operators.map (·.symbol)).Nodup ∧
      (∀ c ∈ o.pattern.delimiters, c ∉ structural ∧ c ∉ o.operators.map (·.symbol)) ∧
      o.tokenizers.Nodup ∧ o.parsers.Nodup := by
  have hclash : (o.pattern.delimiters.filter fun c => structural.contains c ||
      (o.operators.map (·.symbol)).contains c).isEmpty = true ↔
      ∀ c ∈ o.pattern.delimiters, c ∉ structural ∧ c ∉ o.operators.map (·.symbol) := by
    rw [List.isEmpty_iff, List.filter_eq_nil_iff]
    simp only [Bool.or_eq_true, List.contains_iff_mem, not_or]
  rw [← hclash]
  unfold conflict?
  dsimp only
  generalize (o.pattern.delimiters.filter _).isEmpty = isEmpty
  by_cases hoperators : (o.operators.map (·.symbol)).Nodup <;>
    by_cases hempty : isEmpty = true <;>
    by_cases htokenizers : o.tokenizers.Nodup <;>
    by_cases hparsers : o.parsers.Nodup <;>
    simp [hoperators, hempty, htokenizers, hparsers]

/-- Without conflict no delimiter is a parenthesis, a separator or an operator. -/
theorem not_mem_of_delimits (h : o.conflict? = none) (hc : c ∈ o.claimed .variable) :
    c ∉ structural ∧ c ∉ o.claimed .operator :=
  (conflict?_eq_none.mp h).2.1 c hc

theorem not_structural_of_isSymbol (h : Operator.isSymbol c = true) : c ∉ structural := by
  have hne : c ≠ '(' ∧ c ≠ ')' ∧ c ≠ ',' := by
    simp only [Operator.isSymbol, Bool.and_eq_true, bne_iff_ne, ne_eq] at h
    exact ⟨h.1.1.2, h.1.2, h.2⟩
  simp [structural, hne]

/-- Parentheses and separators split a text. -/
def Splits (o : Options) : Prop := ∀ c ∈ structural, o.tokenizer? c = some .parenthesis

theorem mem_claimed_of_tokenizer? {kind : TokenizerKind} (h : o.tokenizer? c = some kind) :
    c ∈ o.claimed kind :=
  List.contains_iff_mem.mp (List.find?_some (p := fun k => (o.claimed k).contains c) h)

namespace Valid

/-- What is built of operators that could have been described is valid. -/
theorem of_build {d : Draft} (symbols : ∀ op ∈ d.operators, Operator.isSymbol op.symbol = true)
    (h : d.build = .ok o) : o.Valid := by
  unfold Draft.build at h
  dsimp only at h
  split at h
  · split at h
    · rename_i hfits
      cases h
      exact ⟨hfits, symbols⟩
    · cases h
  · cases h

variable (h : o.Valid)
include h

theorem operator_not_structural (hc : c ∈ o.claimed .operator) : c ∉ structural := by
  obtain ⟨op, hop, rfl⟩ := List.mem_map.mp hc
  exact not_structural_of_isSymbol (h.symbols op hop)

/-- No two kinds claim the same character. -/
theorem claimed_unique {kind other : TokenizerKind} (hc : c ∈ o.claimed kind)
    (hc' : c ∈ o.claimed other) : kind = other := by
  have hvariable := fun hd : c ∈ o.claimed .variable => not_mem_of_delimits h.fits hd
  have hoperator := fun hd : c ∈ o.claimed .operator => h.operator_not_structural hd
  cases kind <;> cases other
  case «variable».«variable» | parenthesis.parenthesis | operator.operator => rfl
  case «variable».parenthesis => exact absurd hc' (hvariable hc).1
  case «variable».operator => exact absurd hc' (hvariable hc).2
  case parenthesis.«variable» => exact absurd hc (hvariable hc').1
  case parenthesis.operator => exact absurd hc (hoperator hc')
  case operator.«variable» => exact absurd hc (hvariable hc').2
  case operator.parenthesis => exact absurd hc' (hoperator hc)

/-- Whatever the order of the tokenizers is, the one that claims a character gets it. -/
theorem tokenizer?_of_claimed {kind : TokenizerKind} (hkind : kind ∈ o.tokenizers)
    (hc : c ∈ o.claimed kind) : o.tokenizer? c = some kind := by
  have hsome : (o.tokenizer? c).isSome = true :=
    List.find?_isSome.mpr ⟨kind, hkind, List.contains_iff_mem.mpr hc⟩
  obtain ⟨other, hother⟩ := Option.isSome_iff_exists.mp hsome
  rw [hother, h.claimed_unique hc (mem_claimed_of_tokenizer? hother)]

/-- Parentheses and separators split a text if their tokenizer is registered. -/
theorem splits (hmem : .parenthesis ∈ o.tokenizers) : o.Splits :=
  fun _ hc => h.tokenizer?_of_claimed hmem hc

end Valid

namespace Readable

variable (h : o.Readable)
include h

theorem isUnlikeNumber : o.pattern.isUnlikeNumber = true := by
  have hdelimiters := h.delimitersApart
  cases hp : o.pattern with
  | plain _ _ => rfl
  | escaped opening closing =>
      rw [hp] at hdelimiters
      obtain ⟨hplain, -⟩ := hdelimiters opening (Pattern.mem_delimiters.mpr (.inl rfl))
      rw [Text.isPlain, Bool.or_eq_false_iff] at hplain
      show (!Numeral.begins opening) = true
      rw [hplain.2]
      rfl

omit h in
theorem valid (h : o.Readable) : o.Valid := ⟨h.fits, h.symbols⟩

theorem tokenizer?_of_claimed {kind : TokenizerKind} (hc : c ∈ o.claimed kind) :
    o.tokenizer? c = some kind :=
  h.valid.tokenizer?_of_claimed (h.tokenizers kind) hc

theorem splits : o.Splits := h.valid.splits (h.tokenizers .parenthesis)

/-- A character of names or numbers is claimed by none. -/
theorem tokenizer?_of_isPlain (hc : Text.isPlain c = true) : o.tokenizer? c = none := by
  refine List.find?_eq_none.mpr fun kind _ hclaimed => ?_
  have hmem := List.contains_iff_mem.mp hclaimed
  cases kind with
  | «variable» =>
      rw [(h.delimitersApart c hmem).1] at hc
      cases hc
  | parenthesis =>
      have hstructural : c = '(' ∨ c = ')' ∨ c = ',' := by simpa [claimed, structural] using hmem
      rcases hstructural with rfl | rfl | rfl <;> exact absurd hc (by decide)
  | operator =>
      obtain ⟨op, hop, rfl⟩ := List.mem_map.mp hmem
      rw [(h.operatorsApart op hop).1] at hc
      cases hc

omit h in
/-- The limit on the levels has no part in it. -/
theorem withDepth {o : Options} (h : o.Readable) (depth : Nat) :
    ({ o with maxDepth := depth } : Options).Readable :=
  ⟨h.fits, h.symbols, h.tokenizers, h.parsers, h.operatorsApart, h.delimitersApart⟩

end Readable

theorem standard_readable : standard.Readable where
  fits := by decide
  symbols := by decide
  tokenizers := by intro kind; cases kind <;> decide
  parsers := by intro kind; cases kind <;> decide
  operatorsApart := by decide
  delimitersApart := by
    intro c hc
    rcases Pattern.mem_delimiters.mp hc with rfl | rfl <;> decide

end Options

/-! ### Texts without white space around them -/

theorem Text.ne_nil_of_isName {name : Text} (h : Text.isName name = true) : name ≠ [] := by
  rintro rfl
  cases h

theorem Text.isPlain_of_mem_isName {name : Text} (h : Text.isName name = true) :
    ∀ c ∈ name, Text.isPlain c = true := by
  cases name with
  | nil => cases h
  | cons d rest =>
      obtain ⟨hstart, hrest⟩ := Bool.and_eq_true_iff.mp h
      intro c hc
      rcases List.mem_cons.mp hc with rfl | hc
      · rw [Text.isPlain, hstart, Bool.true_or]
      · have hdigit := List.all_eq_true.mp hrest c hc
        rw [Bool.or_eq_true] at hdigit
        rcases hdigit with hname | hdigit
        · rw [Text.isPlain, hname, Bool.true_or]
        · rw [Text.isPlain, Numeral.begins, hdigit, Bool.true_or, Bool.or_true]

theorem Text.isBlank_of_isPlain {c : Char} (h : Text.isPlain c = true) : Text.isBlank c = false := by
  have hc : Text.isNameStart c = true ∨ Text.isDigit c = true ∨ c = '.' := by
    simpa [Text.isPlain, Numeral.begins] using h
  have hrange : 46 ≤ c.toNat ∧ c.toNat ≤ 122 := by
    rcases hc with hc | hc | rfl
    · have := Text.isNameStart_iff.mp hc
      omega
    · have := Text.isDigit_iff.mp hc
      omega
    · decide
  unfold Text.isBlank
  simp only [Bool.or_eq_false_iff, Bool.and_eq_false_iff, decide_eq_false_iff_not, beq_eq_false_iff_ne]
  omega

/-- Nothing is trimmed off a text that neither begins nor ends with white space. -/
theorem Text.trim_of_ends {c d : Char} {s t : Text} (hs : s = c :: t) (hlast : s.getLast? = some d)
    (hc : Text.isBlank c = false) (hd : Text.isBlank d = false) : s.trim = s := by
  have hfront : s.trimFront = s := by
    rw [hs]
    exact List.dropWhile_cons_of_neg (by simp [hc])
  have hreverse : s.reverse.dropWhile Text.isBlank = s.reverse := by
    have hhead : s.reverse.head? = some d := by rw [List.head?_reverse, hlast]
    cases hrev : s.reverse with
    | nil => rfl
    | cons e u =>
        rw [hrev] at hhead
        cases hhead
        exact List.dropWhile_cons_of_neg (by simp [hd])
  rw [Text.trim, hfront, Text.trimBack, hreverse, List.reverse_reverse]

theorem Text.trim_of_isPlain {s : Text} (hne : s ≠ []) (hplain : ∀ c ∈ s, Text.isPlain c = true) :
    s.trim = s := by
  obtain ⟨c, rest, rfl⟩ := List.exists_cons_of_ne_nil hne
  exact Text.trim_of_ends rfl (List.getLast?_eq_some_getLast hne)
    (Text.isBlank_of_isPlain (hplain c List.mem_cons_self))
    (Text.isBlank_of_isPlain (hplain _ (List.getLast_mem hne)))

theorem Text.trim_of_isName {name : Text} (h : Text.isName name = true) : name.trim = name :=
  Text.trim_of_isPlain (Text.ne_nil_of_isName h) (Text.isPlain_of_mem_isName h)

end Reckon
