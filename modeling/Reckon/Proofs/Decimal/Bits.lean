/-
Finite doubles as a sign and a size.

The bits of a double are a sign bit and 63 others.  As long as those others are below the
pattern of the infinite, they are the size of the double, and a finite double is nothing
but a sign and a size: `sized` makes one from the two, and every finite double is made that
way.  Negation, comparison with zero and equality are stated for `sized` only.

The facts themselves come from unpacking.  A finite double unpacks to a zero or to a
significand and an exponent, and in both cases the sign is kept apart.
-/
import Mathlib
import Reckon.Decimal.Binary64

namespace Reckon.Binary64

open Float.Model Float.Model.UnpackedFloat

/-! ### Fields of the bits -/

/-- The sign, the exponent and the significand of some bits. -/
abbrev signField (b : BitVec 64) : BitVec 1 := @unpackSign Format.binary64 b
abbrev exponentField (b : BitVec 64) : BitVec 11 := @unpackExponent Format.binary64 b
abbrev significandField (b : BitVec 64) : BitVec 52 := @unpackMantissa Format.binary64 b

theorem signField_toNat (b : BitVec 64) : (signField b).toNat = b.toNat / 2 ^ 63 := by
  have h := b.isLt
  show (b.toNat >>> 63) % 2 ^ 1 = _
  rw [Nat.shiftRight_eq_div_pow]
  omega

theorem exponentField_toNat (b : BitVec 64) :
    (exponentField b).toNat = b.toNat / 2 ^ 52 % 2 ^ 11 := by
  show (b.toNat >>> 52) % 2 ^ 11 = _
  rw [Nat.shiftRight_eq_div_pow]

theorem significandField_toNat (b : BitVec 64) : (significandField b).toNat = b.toNat % 2 ^ 52 := by
  show (b.toNat >>> 0) % 2 ^ 52 = _
  rw [Nat.shiftRight_zero]

theorem packComponents_toNat (s : Sign) (e : BitVec 11) (m : BitVec 52) :
    (packComponents Format.binary64 s e m).toNat =
      s.toBitVec.toNat * 2 ^ 63 + e.toNat * 2 ^ 52 + m.toNat := by
  have he := e.isLt
  have hm := m.isLt
  show ((s.toBitVec ++ e) ++ m).toNat = _
  rw [BitVec.toNat_append, BitVec.toNat_append, ← Nat.shiftLeft_add_eq_or_of_lt hm,
    ← Nat.shiftLeft_add_eq_or_of_lt he, Nat.shiftLeft_eq, Nat.shiftLeft_eq]
  omega

/-! ### Unpacking a sign and a size -/

/-- The sizes of finite doubles are those below the pattern of the infinite. -/
def sizeBound : Nat := 2047 * 2 ^ 52

/-- What a size unpacks to, with a sign. -/
def unpackedSize (n : Nat) (s : Sign) : UnpackedFloat :=
  if h : n = 0 then .zero s
  else if n < 2 ^ 52 then .finite s n (-1074) (Nat.pos_of_ne_zero h)
  else .finite s (2 ^ 52 + n % 2 ^ 52) ((n / 2 ^ 52 : Nat) - 1075) (by omega)

theorem unpack_eq {b : BitVec 64} (h : b.toNat % 2 ^ 63 < sizeBound) :
    UnpackedFloat.unpack Format.binary64 b =
      unpackedSize (b.toNat % 2 ^ 63) (Sign.ofBitVec (signField b)) := by
  have hexponent := exponentField_toNat b
  have hsignificand := significandField_toNat b
  have hfinite : exponentField b ≠ -1#11 := by
    intro heq
    rw [heq] at hexponent
    have : (-1#11).toNat = 2047 := rfl
    unfold sizeBound at h
    omega
  unfold UnpackedFloat.unpack
  rw [if_neg hfinite]
  by_cases hzero : exponentField b = 0#11
  · rw [if_pos hzero]
    rw [hzero] at hexponent
    have hsmall : b.toNat % 2 ^ 63 = (significandField b).toNat := by
      have : (0#11).toNat = 0 := rfl
      omega
    rw [hsmall]
    by_cases hm : significandField b = 0#52
    · rw [dif_pos hm, hm]
      rfl
    · have hpos : (significandField b).toNat ≠ 0 := fun h0 => hm (BitVec.eq_of_toNat_eq h0)
      rw [dif_neg hm, unpackedSize, dif_neg hpos, if_pos (significandField b).isLt]
      have hzero' : @unpackExponent Format.binary64 b = 0#11 := hzero
      simp only [hzero']
      rfl
  · have hpos : (exponentField b).toNat ≠ 0 := fun h0 => hzero (BitVec.eq_of_toNat_eq h0)
    have himplicit : (1#1 ++ significandField b).toNat = 2 ^ 52 + b.toNat % 2 ^ 63 % 2 ^ 52 := by
      rw [BitVec.toNat_append, ← Nat.shiftLeft_add_eq_or_of_lt (significandField b).isLt,
        Nat.shiftLeft_eq, hsignificand]
      have : (1#1).toNat = 1 := rfl
      omega
    have hbiased : (exponentField b).toNat = b.toNat % 2 ^ 63 / 2 ^ 52 := by
      rw [hexponent]
      omega
    have hlarge : ¬b.toNat % 2 ^ 63 < 2 ^ 52 := by omega
    rw [if_neg hzero, unpackedSize, dif_neg (by omega), if_neg hlarge]
    simp only [himplicit, hbiased]
    rfl

/-- How a significand and an exponent are packed. -/
theorem pack_finite {s : Sign} {m : Nat} {e : Int} {hm : 0 < m} :
    UnpackedFloat.pack Format.binary64 (.finite s m e hm) =
      if 2 ^ 11 ≤ (e + 1075).toNat + 1 then packedInfinity Format.binary64 s
      else if m.log2 + 1 = 53 then
        packComponents Format.binary64 s (BitVec.ofNat 11 (e + 1075).toNat) (BitVec.ofNat 52 m)
      else packComponents Format.binary64 s 0#11 (BitVec.ofNat 52 m) := by
  have hbias : e + (Format.exponentBias Format.binary64 : Nat) +
      (Format.mantissaBitsWithoutImplicit Format.binary64 : Nat) = e + 1075 := by
    show e + (1023 : Nat) + (52 : Nat) = _
    omega
  unfold UnpackedFloat.pack
  rw [hbias]
  rfl

theorem pack_unpackedSize {n : Nat} (h : n < sizeBound) (s : Sign) :
    (UnpackedFloat.pack Format.binary64 (unpackedSize n s)).toNat =
      s.toBitVec.toNat * 2 ^ 63 + n := by
  unfold sizeBound at h
  unfold unpackedSize
  by_cases hzero : n = 0
  · rw [dif_pos hzero, hzero]
    show (packComponents Format.binary64 s 0 0).toNat = _
    rw [packComponents_toNat]
    show _ + 0 * 2 ^ 52 + 0 = _
    omega
  · rw [dif_neg hzero]
    by_cases hsmall : n < 2 ^ 52
    · have hlog : n.log2 < 52 := (Nat.log2_lt hzero).mpr hsmall
      have hn : (BitVec.ofNat 52 n).toNat = n := by
        rw [BitVec.toNat_ofNat]
        omega
      rw [if_pos hsmall, pack_finite, if_neg (by omega), if_neg (by omega), packComponents_toNat, hn]
      show _ + 0 * 2 ^ 52 + n = _
      omega
    · have hlog : (2 ^ 52 + n % 2 ^ 52).log2 = 52 := by
        rw [Nat.log2_eq_iff (by omega)]
        omega
      have hbiased : ((n / 2 ^ 52 : Nat) - 1075 + 1075 : Int).toNat = n / 2 ^ 52 := by omega
      have hexponent : (BitVec.ofNat 11 (n / 2 ^ 52)).toNat = n / 2 ^ 52 := by
        rw [BitVec.toNat_ofNat]
        omega
      have hsignificand : (BitVec.ofNat 52 (2 ^ 52 + n % 2 ^ 52)).toNat = n % 2 ^ 52 := by
        rw [BitVec.toNat_ofNat]
        omega
      rw [if_neg hsmall, pack_finite, hbiased, if_neg (by omega), if_pos (by rw [hlog]),
        packComponents_toNat, hexponent, hsignificand]
      omega

/-! ### Doubles of a sign and a size -/

/-- The sign bit in front of a size. -/
def signBit (negative : Bool) : Nat := if negative then 2 ^ 63 else 0

/-- The sign of a double as unpacking names it. -/
def signOf (negative : Bool) : Sign := if negative then .negative else .positive

/-- The double of a sign and a size. -/
def sized (negative : Bool) (n : Nat) : Float := Float.ofBits (UInt64.ofNat (signBit negative + n))

theorem unpack_bits {b : UInt64} {negative : Bool} {n : Nat} (h : n < sizeBound)
    (hb : b.toNat = signBit negative + n) :
    UnpackedFloat.unpack Format.binary64 b.toBitVec = unpackedSize n (signOf negative) := by
  have hb' : b.toBitVec.toNat = signBit negative + n := hb
  have hsign := signField_toNat b.toBitVec
  have hbound : n < 2 ^ 63 := by
    unfold sizeBound at h
    omega
  have hsize : b.toBitVec.toNat % 2 ^ 63 = n := by
    rw [hb', signBit]
    split <;> omega
  rw [unpack_eq (by rw [hsize]; exact h), hsize]
  congr 1
  rw [hb'] at hsign
  cases negative with
  | true =>
      have hone : signField b.toBitVec = 1#1 := by
        refine BitVec.eq_of_toNat_eq (hsign.trans ?_)
        show (2 ^ 63 + n) / 2 ^ 63 = 1
        omega
      rw [hone]
      rfl
  | false =>
      have hzero : signField b.toBitVec = 0#1 := by
        refine BitVec.eq_of_toNat_eq (hsign.trans ?_)
        show (0 + n) / 2 ^ 63 = 0
        omega
      rw [hzero]
      rfl

theorem toBits_sized (negative : Bool) {n : Nat} (h : n < sizeBound) :
    (sized negative n).toBits.toNat = signBit negative + n := by
  have hbits : (UInt64.ofNat (signBit negative + n)).toNat = signBit negative + n := by
    show (signBit negative + n) % 2 ^ 64 = _
    unfold sizeBound at h
    unfold signBit
    split <;> omega
  show (UnpackedFloat.pack Format.binary64 (UnpackedFloat.unpack Format.binary64 _)).toNat = _
  rw [unpack_bits h hbits, pack_unpackedSize h]
  cases negative <;> rfl

theorem unpack_sized (negative : Bool) {n : Nat} (h : n < sizeBound) :
    (sized negative n).toModel.unpack = unpackedSize n (signOf negative) :=
  unpack_bits h (toBits_sized negative h)

theorem eq_of_toBits_eq {x y : Float} (h : x.toBits.toNat = y.toBits.toNat) : x = y := by
  obtain ⟨⟨a, ha⟩⟩ := x
  obtain ⟨⟨b, hb⟩⟩ := y
  have : a = b := UInt64.toNat_inj.mp h
  subst this
  rfl

/-- A double that unpacks to a sign and a size is made from them. -/
theorem eq_sized_of_unpack {x : Float} {negative : Bool} {n : Nat} (h : n < sizeBound)
    (hbits : x.toBits.toNat = signBit negative + n) : x = sized negative n :=
  eq_of_toBits_eq (hbits.trans (toBits_sized negative h).symm)

theorem isFinite_unpack {b : BitVec 64} (h : exponentField b = -1#11) :
    (UnpackedFloat.unpack Format.binary64 b).isFinite = false := by
  have h' : @unpackExponent Format.binary64 b = -1#11 := h
  unfold UnpackedFloat.unpack
  simp only [h']
  rw [if_pos trivial]
  split <;> rfl

/-- Every finite double is made from a sign and a size. -/
theorem exists_sized {x : Float} (h : x.isFinite = true) :
    ∃ negative n, n < sizeBound ∧ x = sized negative n := by
  have hexponent := exponentField_toNat x.toBits.toBitVec
  have hfinite : exponentField x.toBits.toBitVec ≠ -1#11 := by
    intro heq
    have hunpack : (UnpackedFloat.unpack Format.binary64 x.toBits.toBitVec).isFinite = true := h
    rw [isFinite_unpack heq] at hunpack
    cases hunpack
  have hne : (exponentField x.toBits.toBitVec).toNat ≠ 2047 :=
    fun heq => hfinite (BitVec.eq_of_toNat_eq heq)
  have hlt := (exponentField x.toBits.toBitVec).isLt
  have hbits := x.toBits.toBitVec.isLt
  have hn : x.toBits.toNat % 2 ^ 63 < sizeBound := by
    have : x.toBits.toBitVec.toNat = x.toBits.toNat := rfl
    unfold sizeBound
    omega
  by_cases hsign : x.toBits.toNat < 2 ^ 63
  · refine ⟨false, x.toBits.toNat % 2 ^ 63, hn, eq_sized_of_unpack hn ?_⟩
    show _ = 0 + _
    omega
  · refine ⟨true, x.toBits.toNat % 2 ^ 63, hn, eq_sized_of_unpack hn ?_⟩
    have : x.toBits.toBitVec.toNat = x.toBits.toNat := rfl
    show _ = 2 ^ 63 + _
    omega

/-! ### What the sign and the size decide -/

section Sized

variable {negative : Bool} {n : Nat} (h : n < sizeBound)

include h

theorem isFinite_sized : (sized negative n).isFinite = true := by
  show (sized negative n).toModel.unpack.isFinite = true
  rw [unpack_sized negative h]
  unfold unpackedSize
  split
  · rfl
  · split <;> rfl

theorem isNaN_sized : (sized negative n).isNaN = false := by
  show (sized negative n).toModel.unpack.isNaN = false
  rw [unpack_sized negative h]
  unfold unpackedSize
  split
  · rfl
  · split <;> rfl

theorem isInf_sized : (sized negative n).isInf = false := by
  show (sized negative n).toModel.unpack.isInf = false
  rw [unpack_sized negative h]
  unfold unpackedSize
  split
  · rfl
  · split <;> rfl

/-- A double is below zero if it has a sign and a size. -/
theorem sized_lt_zero : sized negative n < 0 ↔ negative = true ∧ n ≠ 0 := by
  have hzero : (0 : Float).toModel.unpack = .zero .positive := rfl
  have hlt : sized negative n < 0 ↔
      (unpackedSize n (signOf negative)).lt (.zero .positive) = true := by
    rw [← unpack_sized negative h, ← hzero]
    show decide ((sized negative n).toModel < (0 : Float).toModel) = true ↔ _
    rw [decide_eq_true_iff]
    rfl
  rw [hlt]
  unfold unpackedSize
  by_cases hn : n = 0
  · rw [dif_pos hn]
    cases negative <;> simp [hn, signOf] <;> rfl
  · rw [dif_neg hn]
    split <;> cases negative <;> simp [hn] <;> rfl

/-- A double is not below zero if it has no sign or no size. -/
theorem zero_le_sized : 0 ≤ sized negative n ↔ negative = false ∨ n = 0 := by
  have hzero : (0 : Float).toModel.unpack = .zero .positive := rfl
  have hle : 0 ≤ sized negative n ↔
      (UnpackedFloat.zero .positive).le (unpackedSize n (signOf negative)) = true := by
    rw [← unpack_sized negative h, ← hzero]
    show decide ((0 : Float).toModel ≤ (sized negative n).toModel) = true ↔ _
    rw [decide_eq_true_iff]
    rfl
  rw [hle]
  unfold unpackedSize
  by_cases hn : n = 0
  · rw [dif_pos hn]
    cases negative <;> simp [hn, signOf] <;> rfl
  · rw [dif_neg hn]
    split <;> cases negative <;> simp [hn] <;> rfl

theorem neg_sized : -sized negative n = sized (!negative) n := by
  refine eq_sized_of_unpack h ?_
  have hneg : (unpackedSize n (signOf negative)).neg = unpackedSize n (signOf !negative) := by
    unfold unpackedSize
    split
    · cases negative <;> rfl
    · split <;> cases negative <;> rfl
  show (UnpackedFloat.pack Format.binary64 (sized negative n).toModel.unpack.neg).toNat = _
  rw [unpack_sized negative h, hneg, pack_unpackedSize h]
  cases negative <;> rfl

theorem abs_sized : (sized negative n).abs = sized false n := by
  refine eq_sized_of_unpack h ?_
  have habs : (unpackedSize n (signOf negative)).abs = unpackedSize n (signOf false) := by
    unfold unpackedSize
    split
    · rfl
    · split <;> rfl
  show (UnpackedFloat.pack Format.binary64 (sized negative n).toModel.unpack.abs).toNat = _
  rw [unpack_sized negative h, habs, pack_unpackedSize h]
  rfl

/-- A double is zero as a number if its size is. -/
theorem sized_beq_zero : (sized negative n == 0) = decide (n = 0) := by
  have hzero : (0 : Float).toModel.unpack = .zero .positive := rfl
  show (sized negative n).toModel.unpack.beq (0 : Float).toModel.unpack = _
  rw [unpack_sized negative h, hzero]
  unfold unpackedSize
  by_cases hn : n = 0
  · rw [dif_pos hn, decide_eq_true hn]
    cases negative <;> rfl
  · rw [dif_neg hn, decide_eq_false hn]
    split <;> cases negative <;> rfl

/-- As a number a double is equal to itself. -/
theorem sized_beq_self : (sized negative n == sized negative n) = true := by
  show (sized negative n).toModel.unpack.beq (sized negative n).toModel.unpack = true
  rw [unpack_sized negative h]
  unfold unpackedSize
  split
  · cases negative <;> rfl
  · split <;> cases negative <;> simp [signOf, UnpackedFloat.beq, UnpackedFloat.compare]

end Sized

/-- The two zeros are equal as numbers. -/
theorem sized_zero_beq (a b : Bool) : (sized a 0 == sized b 0) = true := by
  have h : 0 < sizeBound := by decide
  show (sized a 0).toModel.unpack.beq (sized b 0).toModel.unpack = true
  rw [unpack_sized a h, unpack_sized b h]
  cases a <;> cases b <;> rfl

end Reckon.Binary64
