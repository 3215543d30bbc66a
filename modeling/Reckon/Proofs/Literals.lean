/-
Literals and the text that they are written as.

A literal is written without its sign: `sizeText` shows the number of digits between
nothing but digits and a point, and reading them gives the size back, a whole number for a
whole number and a double for a double.  For doubles that is the only place where bits
matter, since the sign of a zero is lost and nothing else is.
-/
import Reckon.Proofs.Decimal.Reading
import Reckon.Proofs.WellFormed

namespace Reckon.Literal

open Binary64

/-- Within the limits: at most `maxBits` binary digits, or finite. -/
def isBounded : Literal → Bool
  | int n => decide (bitLength n.natAbs ≤ maxBits)
  | float x => x.isFinite

/-- The literal without its sign. -/
def size : Literal → Literal
  | int n => int n.natAbs
  | float x => float (if Binary64.isNegative x then -x else x)

/-- The literal with the other sign. -/
def opposite : Literal → Literal
  | int n => int (-n)
  | float x => float (-x)

/-- The literal itself, or its opposite if it is below zero. -/
def unsigned (l : Literal) : Literal := if l.isNegative then l.opposite else l

/-- The same number of the same kind.  Both zeros among the doubles are the same number. -/
def alike : Literal → Literal → Bool
  | int m, int n => m == n
  | float x, float y => x == y
  | _, _ => false

/-! ### Doubles -/

theorem isNegative_sized {negative : Bool} {n : Nat} (h : n < sizeBound) :
    Binary64.isNegative (sized negative n) = negative := by
  unfold Binary64.isNegative
  rw [toBits_sized negative h]
  unfold sizeBound at h
  cases negative with
  | true =>
      show ((2 ^ 63 + n) / 2 ^ 63 == 1) = true
      rw [beq_iff_eq]
      omega
  | false =>
      show ((0 + n) / 2 ^ 63 == 1) = false
      rw [beq_eq_false_iff_ne]
      omega

theorem size_sized {negative : Bool} {n : Nat} (h : n < sizeBound) :
    (float (sized negative n)).size = float (sized false n) := by
  show float (if Binary64.isNegative (sized negative n) then _ else _) = _
  rw [isNegative_sized h]
  cases negative with
  | true => exact congrArg float (neg_sized h)
  | false => rfl

theorem significand_parts_zero (negative : Bool) : (parts (sized negative 0)).significand = 0 := by
  have hbits := toBits_sized negative (show 0 < sizeBound by decide)
  unfold parts
  rw [hbits]
  cases negative <;> rfl

/-- The shortest decimal of a double gives back its size. -/
theorem ofDecimal_shortest (negative : Bool) {n : Nat} (h : n < sizeBound) {digits : Nat}
    {exponent : Int}
    (hvalue : (digits : ℚ) * 10 ^ exponent = (Decimal.shortest (sized negative n)).value) :
    ofDecimal false digits exponent = sized false n := by
  unfold Decimal.shortest at hvalue
  dsimp only at hvalue
  by_cases hn : n = 0
  · subst hn
    rw [if_pos (by rw [significand_parts_zero]; rfl)] at hvalue
    have hzero : (digits : ℚ) * 10 ^ exponent = 0 := by
      rw [hvalue]
      norm_num [Decimal.value]
    have hdigits : digits = 0 := by
      rcases mul_eq_zero.mp hzero with h0 | h0
      · exact_mod_cast h0
      · exact absurd h0 (by positivity)
    rw [hdigits, ofDecimal_zero]
  · obtain ⟨m, e, hparts, hc, hpacked⟩ := exists_parts negative h hn
    rw [hparts, if_neg (by simpa using hc.pos.ne')] at hvalue
    have hrounds := Decimal.roundsTo_shortestOf negative hc
    rw [← hvalue] at hrounds
    rw [ofDecimal_of_roundsTo false hc hrounds, hpacked]

/-! ### Reading a literal back -/

theorem lt_of_bitLength_le {n : Nat} (h : bitLength n ≤ maxBits) : n < 2 ^ maxBits := by
  unfold bitLength at h
  split at h
  · rename_i hzero
    rw [hzero]
    exact Nat.two_pow_pos maxBits
  · exact (Nat.lt_log2_self).trans_le (Nat.pow_le_pow_right (by norm_num) h)

/-- A whole number within the limits has few enough digits to be read. -/
theorem length_ofNat_le {n : Nat} (h : bitLength n ≤ maxBits) :
    (Text.ofNat n).length ≤ Numeral.digitLimit := by
  refine (Nat.length_toDigits_le_iff (by norm_num) (by decide)).mpr ?_
  calc n < 2 ^ maxBits := lt_of_bitLength_le h
    _ ≤ 10 ^ maxBits := Nat.pow_le_pow_left (by norm_num) maxBits
    _ ≤ 10 ^ Numeral.digitLimit := Nat.pow_le_pow_right (by norm_num) (by decide)

/-- Text in digits and points that reads as a literal. -/
structure Writes (s : Text) (l : Literal) : Prop where
  reads : ∃ n, Numeral.read? false s = some n ∧ Shape.literal? n = some l
  begins : ∀ c ∈ s, Numeral.begins c = true

/-- A whole number is written in digits. -/
theorem writes_int {n : Int} (h : (int n).isBounded = true) :
    Writes (int n).sizeText (int n).size := by
  have hbits : bitLength n.natAbs ≤ maxBits := by simpa [isBounded] using h
  have hdigits : ∀ c ∈ Text.ofNat n.natAbs, Text.isDigit c = true :=
    fun c hc => Text.isDigit_of_mem_ofNat hc
  refine ⟨⟨_, Numeral.read?_digits (Text.ofNat_ne_nil _) hdigits false, ?_⟩, ?_⟩
  · have hwhole : Numeral.whole? (Text.ofNat n.natAbs) = some n.natAbs := by
      rw [Numeral.whole?, if_neg (not_lt.mpr (length_ofNat_le hbits)), Text.toNat_ofNat]
    have hisWhole : Numeral.isWhole ⟨Text.ofNat n.natAbs, none, none⟩ = true := rfl
    unfold Shape.literal?
    rw [if_pos hisWhole]
    dsimp only
    rw [hwhole]
    dsimp only
    rw [if_pos hbits]
    rfl
  · intro c hc
    rw [Numeral.begins, hdigits c hc, Bool.true_or]

/-- A finite double is written as its shortest decimal. -/
theorem sizeText_sized {negative : Bool} {n : Nat} (h : n < sizeBound) :
    (float (sized negative n)).sizeText = (Decimal.shortest (sized negative n)).positional := by
  unfold sizeText
  dsimp only
  rw [isNaN_sized h, isInf_sized h]
  rfl

/-- A double is written with a point, and the decimal around it rounds to the double again. -/
theorem writes_float {x : Float} (h : (float x).isBounded = true) :
    Writes (float x).sizeText (float x).size := by
  obtain ⟨negative, n, hn, rfl⟩ := exists_sized h
  obtain ⟨whole, fraction, hpositional, hshows⟩ :=
    (Decimal.shortest (sized negative n)).exists_positional
  rw [sizeText_sized hn, hpositional]
  refine ⟨⟨_, Numeral.read?_fraction hshows.whole_ne_nil hshows.whole_digits
    hshows.fraction_digits false, ?_⟩, ?_⟩
  · have hfloat : Numeral.toFloat false ⟨whole, some fraction, none⟩ = sized false n := by
      refine ofDecimal_shortest negative hn ?_
      rw [← hshows.value]
      congr 2
      show (0 : Int) - _ = _
      rw [zero_sub]
      rfl
    unfold Shape.literal?
    rw [if_neg (by simp [Numeral.isWhole]), hfloat]
    dsimp only
    rw [if_pos (isFinite_sized hn), size_sized hn]
  · intro c hc
    rcases List.mem_append.mp hc with hc | hc
    · rw [Numeral.begins, hshows.whole_digits c hc, Bool.true_or]
    · rcases List.mem_cons.mp hc with rfl | hc
      · rfl
      · rw [Numeral.begins, hshows.fraction_digits c hc, Bool.true_or]

/-- A literal within the limits is written as its size. -/
theorem writes_size {l : Literal} (h : l.isBounded = true) : Writes l.sizeText l.size := by
  cases l with
  | int n => exact writes_int h
  | float x => exact writes_float h

/-- Taking the sign bit off and turning the sign give the same number. -/
theorem size_alike {l : Literal} (h : l.isBounded = true) : l.size.alike l.unsigned = true := by
  unfold unsigned
  cases l with
  | int n =>
      by_cases hn : n < 0
      · have hnegative : (int n).isNegative = true := decide_eq_true hn
        rw [hnegative, if_pos rfl]
        show ((n.natAbs : Int) == -n) = true
        rw [beq_iff_eq]
        omega
      · have hnegative : (int n).isNegative = false := decide_eq_false hn
        rw [hnegative]
        show ((n.natAbs : Int) == n) = true
        rw [beq_iff_eq]
        omega
  | float x =>
      obtain ⟨negative, n, hn, rfl⟩ := exists_sized h
      rw [size_sized hn]
      have hlt : sized negative n < 0 ↔ negative = true ∧ n ≠ 0 := sized_lt_zero hn
      by_cases hbelow : sized negative n < 0
      · have hnegative : (float (sized negative n)).isNegative = true := decide_eq_true hbelow
        obtain ⟨rfl, -⟩ := hlt.mp hbelow
        rw [hnegative, if_pos rfl]
        show (sized false n == -sized true n) = true
        rw [neg_sized hn]
        exact sized_beq_self hn
      · have hnegative : (float (sized negative n)).isNegative = false := decide_eq_false hbelow
        rw [hnegative]
        show (sized false n == sized negative n) = true
        cases negative with
        | false => exact sized_beq_self hn
        | true =>
            have hzero : n = 0 := by
              by_contra hne
              exact hbelow (hlt.mpr ⟨rfl, hne⟩)
            rw [hzero]
            exact sized_zero_beq false true

/-! ### Literals that have been read -/

theorem exists_sized_of_nearest? {negative : Bool} {num den : Nat} {x : Float}
    (h : nearest? negative num den = some x) : ∃ n, n < sizeBound ∧ x = sized negative n := by
  unfold nearest? at h
  by_cases hnum : num = 0
  · rw [if_pos (by simpa using hnum)] at h
    cases h
    exact ⟨0, by decide, rfl⟩
  · rw [if_neg (by simpa using hnum)] at h
    dsimp only at h
    split at h
    · rename_i hbits
      cases h
      exact ⟨_, hbits, rfl⟩
    · cases h

theorem isFinite_infinity : (infinity false).isFinite = false := by
  decide +kernel

/-- A decimal that is read as something finite is read as a size without a sign. -/
theorem exists_sized_of_ofDecimal {digits : Nat} {exponent : Int}
    (h : (ofDecimal false digits exponent).isFinite = true) :
    ∃ n, n < sizeBound ∧ ofDecimal false digits exponent = sized false n := by
  unfold ofDecimal at h ⊢
  dsimp only at h ⊢
  split at h
  · rename_i hzero
    rw [if_pos hzero]
    exact ⟨0, by decide, rfl⟩
  · rename_i hzero
    rw [if_neg hzero]
    split at h
    · rw [isFinite_infinity] at h
      cases h
    · rename_i hlarge
      rw [if_neg hlarge]
      cases hnearest : nearest? false (scale 10 digits 1 exponent).1
          (scale 10 digits 1 exponent).2 with
      | none =>
          rw [hnearest, Option.getD_none, isFinite_infinity] at h
          cases h
      | some x => exact exists_sized_of_nearest? hnearest

/-- A literal that has been read is within the limits and has no sign. -/
theorem IsRead.spec {l : Literal} (h : l.IsRead) :
    l.isBounded = true ∧ l.isNegative = false ∧ l.size = l := by
  obtain ⟨n, hn⟩ := h
  unfold Shape.literal? at hn
  split at hn
  · split at hn
    · rename_i m _
      split at hn
      · rename_i hbits
        cases hn
        have hnot : ¬(m : Int) < 0 := not_lt.mpr (Int.natCast_nonneg m)
        refine ⟨decide_eq_true ?_, decide_eq_false hnot, ?_⟩
        · rwa [Int.natAbs_natCast]
        · show int ((m : Int).natAbs : Int) = int m
          rw [Int.natAbs_natCast]
      · cases hn
    · cases hn
  · dsimp only at hn
    split at hn
    · rename_i hfinite
      cases hn
      obtain ⟨k, hk, hx⟩ := exists_sized_of_ofDecimal hfinite
      have hx' : n.toFloat false = sized false k := hx
      have hnot : ¬sized false k < 0 := by
        rw [sized_lt_zero hk]
        simp
      rw [hx']
      exact ⟨isFinite_sized hk, decide_eq_false hnot, size_sized hk⟩
    · cases hn

end Reckon.Literal
