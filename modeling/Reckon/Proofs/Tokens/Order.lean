/-
The order of the tokenizers does not matter.

A character goes to the first registered tokenizer that claims it.  Were there two of them, their order
would decide what a text is split into.  In options that can be come by there is never more than one:
no delimiter is a parenthesis, a separator or an operator, and no operator is a parenthesis or a
separator.  So every order of the same tokenizers sends a character to the same one, the table of
claimed characters is the same, and as the scan learns of the tokenizers in no other way, it goes the
same way to the same tokens or the same fault.
-/
import Reckon.Token.Scan
import Reckon.Proofs.Options.Reachable

namespace Reckon

/-! ### Characters in order -/

theorem nodup_eraseDups {α : Type} [BEq α] [LawfulBEq α] : ∀ l : List α, l.eraseDups.Nodup
  | [] => List.nodup_nil
  | a :: rest => by
      rw [List.eraseDups_cons, List.nodup_cons]
      refine ⟨fun hmem => ?_, nodup_eraseDups _⟩
      have := (List.mem_filter.mp (List.mem_eraseDups.mp hmem)).2
      simp at this
termination_by l => l.length
decreasing_by exact Nat.lt_succ_of_le (List.length_filter_le _ _)

/-- Characters in order, each once, are told from which characters they are. -/
theorem sortedChars_eq {cs ds : List Char} (h : cs.Perm ds) :
    (cs.eraseDups.mergeSort fun c d => c ≤ d) = ds.eraseDups.mergeSort fun c d => c ≤ d := by
  have htrans : ∀ a b c : Char,
      decide (a ≤ b) = true → decide (b ≤ c) = true → decide (a ≤ c) = true := by
    intro a b c hab hbc
    exact decide_eq_true (Char.le_trans (of_decide_eq_true hab) (of_decide_eq_true hbc))
  have htotal : ∀ a b : Char, (decide (a ≤ b) || decide (b ≤ a)) = true := by
    intro a b
    rcases Char.le_total a b with hab | hba
    · rw [decide_eq_true hab, Bool.true_or]
    · rw [decide_eq_true hba, Bool.or_true]
  have hperm : cs.eraseDups.Perm ds.eraseDups :=
    (List.perm_ext_iff_of_nodup (nodup_eraseDups cs) (nodup_eraseDups ds)).mpr fun c => by
      rw [List.mem_eraseDups, List.mem_eraseDups, h.mem_iff]
  refine List.Perm.eq_of_pairwise (fun a b _ _ hab hba => ?_)
    (List.pairwise_mergeSort htrans htotal _) (List.pairwise_mergeSort htrans htotal _)
    ((List.mergeSort_perm _ _).trans (hperm.trans (List.mergeSort_perm _ _).symm))
  exact Char.le_antisymm (of_decide_eq_true hab) (of_decide_eq_true hba)

/-! ### Another order -/

namespace Options

variable {o : Options} {ts : List TokenizerKind}

/-- What a kind of tokenizer claims has nothing to do with where it is registered. -/
theorem claimed_withOrder : ({ o with tokenizers := ts } : Options).claimed = o.claimed := rfl

/-- Options are as valid with their tokenizers in another order. -/
theorem Valid.withOrder (h : o.Valid) (hts : ts.Perm o.tokenizers) :
    ({ o with tokenizers := ts } : Options).Valid := by
  obtain ⟨hoperators, hdelimiters, htokenizers, hparsers⟩ := conflict?_eq_none.mp h.fits
  exact ⟨conflict?_eq_none.mpr ⟨hoperators, hdelimiters, hts.nodup_iff.mpr htokenizers, hparsers⟩,
    h.symbols⟩

/-- Every character goes to the same tokenizer. -/
theorem Valid.tokenizer?_withOrder (h : o.Valid) (hts : ts.Perm o.tokenizers) (c : Char) :
    ({ o with tokenizers := ts } : Options).tokenizer? c = o.tokenizer? c := by
  cases hc : o.tokenizer? c with
  | some kind =>
      have hkind : kind ∈ ts := hts.mem_iff.mpr (List.mem_of_find?_eq_some hc)
      have hclaimed : c ∈ o.claimed kind := mem_claimed_of_tokenizer? hc
      rw [← claimed_withOrder] at hclaimed
      exact (h.withOrder hts).tokenizer?_of_claimed hkind hclaimed
  | none =>
      have hnone := List.find?_eq_none.mp hc
      exact List.find?_eq_none.mpr fun kind hkind => hnone kind (hts.mem_iff.mp hkind)

theorem Valid.delimiterTable_withOrder (h : o.Valid) (hts : ts.Perm o.tokenizers) :
    ({ o with tokenizers := ts } : Options).delimiterTable = o.delimiterTable := by
  unfold delimiterTable
  simp only [claimed_withOrder, h.tokenizer?_withOrder hts, sortedChars_eq (hts.flatMap_right o.claimed)]

end Options

/-- Of options a scan knows the pattern, and where each character goes. -/
theorem tokenize_congr {o o' : Options} (hpattern : o'.pattern = o.pattern)
    (htokenizer : ∀ c, o'.tokenizer? c = o.tokenizer? c) (source : Text) :
    tokenize o' source = tokenize o source := by
  have hstep : Scan.step o' source = Scan.step o source := by
    funext s c
    unfold Scan.step
    rw [htokenizer, hpattern]
  unfold tokenize
  rw [hstep]

namespace Options

/--
**What a text is split into does not depend on the order of the tokenizers.**

Options that can be come by, from a draft or the standard ones and by steps, are coherent, and a further
step changes nothing in them but the fields it names.  Therefore their tokenizers can be registered in any
order: that makes options again, with the same table of claimed characters, and every text is split into
the same tokens or fails with the same fault.
-/
theorem Reachable.tokenize_eq {o : Options} (h : o.Reachable) :
    o.Coherent ∧
    (∀ names o', Step names o o' → o.AgreeExcept names o') ∧
    ∀ ts : List TokenizerKind, ts.Perm o.tokenizers →
      o.withTokenizers (ts.map (·.name)) = .ok { o with tokenizers := ts } ∧
      ({ o with tokenizers := ts } : Options).delimiterTable = o.delimiterTable ∧
      ∀ source, tokenize { o with tokenizers := ts } source = tokenize o source := by
  have hadmitted := h.admitted
  have hvalid := hadmitted.toValid
  refine ⟨hadmitted.coherent, fun names o' hstep => hstep.agreeExcept hadmitted, fun ts hts => ?_⟩
  refine ⟨?_, ?_, ?_⟩
  · exact (withTokenizers_eq_ok hadmitted.maxDepth).mpr ⟨rfl, (hvalid.withOrder hts).fits⟩
  · exact hvalid.delimiterTable_withOrder hts
  · exact tokenize_congr rfl (hvalid.tokenizer?_withOrder hts)

/-- Options with bars around variables, a bracket as an operator and tokenizers in another order: the
bracket could not be an operator before the pattern was changed. -/
theorem tokenize_eq_of_steps :
    let bracket : Operator := ⟨'[', 40, .left, .binary .power, none⟩
    let o : Options := { standard with
      pattern := .pipes
      operators := [bracket]
      tokenizers := [.operator, .variable, .parenthesis] }
    o.Reachable ∧ ∀ source,
      tokenize { o with tokenizers := [.variable, .parenthesis, .operator] } source =
        tokenize o source := by
  intro bracket o
  let p : Options := { standard with pattern := .pipes }
  let q : Options := { p with operators := [bracket] }
  have hpattern : standard.withPattern .pipes = .ok p := rfl
  have hoperators : p.withOperators [bracket] = .ok q := rfl
  have htokenizers : q.withTokenizers ["operator".toList, "variable".toList, "parenthesis".toList] =
      .ok o := rfl
  have hbuilt : ∀ op ∈ [bracket], op.IsBuilt := by
    intro op hop
    rw [List.mem_singleton.mp hop]
    exact ⟨['['], 40, "left".toList, .binary .power, none, rfl⟩
  have hreachable : o.Reachable :=
    ((Reachable.standard.changed (.pattern hpattern)).changed (.operators hbuilt hoperators)).changed
      (.tokenizers htokenizers)
  exact ⟨hreachable, (hreachable.tokenize_eq.2.2 _ (by decide)).2.2⟩

end Options
end Reckon
