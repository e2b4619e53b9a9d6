import Mathlib
import NodeTelemetry.Fetch.Transform

/-!
# Doubles that amounts make

A whole number of 64 bits is far from the ends of the range of doubles, and so is its quotient by one of the
units of the transforms. `Scaled lo hi` says that a double has all 53 digits and an exponent between two bounds.
Products and quotients of such doubles are such doubles again, with bounds that add and subtract, as long as
the bounds stay within the range.

## Main definitions

* `Double.Scaled`, `Double.Bounded`: doubles with an exponent in a range, without and with zero.

## Main statements

* `Double.roundWithAccuracy_eq`: rounding keeps 53 digits and moves the exponent by one at most.
* `Double.Scaled.mul`, `Double.Scaled.div`: exponents of products and quotients.
* `Double.bounded_ofNat`, `Double.bounded_ofInt`: whole numbers of 64 bits.
* `Double.isFinite_percentage`: the share of an amount in a total.
-/

namespace NodeTelemetry.Double

open Float.Model Float.Model.UnpackedFloat

theorem mantissa_shiftRight (x : ExtendedMantissa) (k : Nat) :
    (x >>> k).mantissa = x.mantissa / 2 ^ k := by
  induction k with
  | zero =>
    change x.mantissa = _
    simp
  | succ k ih =>
    change (x >>> k).mantissa / 2 = _
    rw [ih, Nat.div_div_eq_div_mul, Nat.pow_succ]

theorem mantissa_ofMantissaAndAccuracy (m : Nat) (a : Accuracy) :
    (ExtendedMantissa.ofMantissaAndAccuracy m a).mantissa = m := by
  cases a with
  | exact => rfl
  | inexact o => cases o <;> rfl

theorem roundedMantissa_bounds (x : ExtendedMantissa) :
    x.mantissa ≤ x.roundedMantissa ∧ x.roundedMantissa ≤ x.mantissa + 1 := by
  obtain ⟨m, r, s⟩ := x
  cases r <;> cases s <;>
    simp [ExtendedMantissa.roundedMantissa, ExtendedMantissa.accuracy,
      Accuracy.roundToNearestEven]
  omega

theorem targetExponent_eq (x : Int) :
    Format.binary64.targetExponent x = max (x - 53) (-1074) := rfl

theorem log2_pos_of_eq {m : Nat} (h : m.log2 = 52) : 0 < m := by
  refine Nat.pos_of_ne_zero ?_
  rintro rfl
  simp at h

/-- A mantissa of at least 53 digits is shifted until it has 53, if no digit falls below the smallest
exponent. -/
theorem shiftToTargetExponent_eq {m : Nat} {e : Int} (a : Accuracy) (hm : 52 ≤ m.log2)
    (he : -1074 ≤ (m.log2 : Int) - 52 + e) :
    ∃ x, shiftToTargetExponent Format.binary64 m e a = (x, (m.log2 : Int) - 52 + e) ∧
      x.mantissa = m / 2 ^ (m.log2 - 52) := by
  have htarget : Format.binary64.targetExponent (totalExponent m e) = (m.log2 : Int) - 52 + e := by
    rw [targetExponent_eq, totalExponent]
    omega
  have hshift : ((m.log2 : Int) - 52 + e - e).toNat = m.log2 - 52 := by omega
  refine ⟨ExtendedMantissa.ofMantissaAndAccuracy m a >>> (m.log2 - 52), ?_, ?_⟩
  · rw [shiftToTargetExponent, htarget, shiftToExponent, hshift]
    simp only [Prod.mk.injEq, true_and]
    omega
  · rw [mantissa_shiftRight, mantissa_ofMantissaAndAccuracy]

theorem log2_div_pow {m k : Nat} (hk : m.log2 = 52 + k) : (m / 2 ^ k).log2 = 52 := by
  have hm : m ≠ 0 := by
    rintro rfl
    simp at hk
    omega
  have hlo := Nat.log2_self_le hm
  have hhi := Nat.lt_log2_self (n := m)
  rw [hk, Nat.pow_add] at hlo
  rw [hk, show 52 + k + 1 = 53 + k by omega, Nat.pow_add] at hhi
  have hpos := Nat.two_pow_pos k
  have h1 : 2 ^ 52 ≤ m / 2 ^ k := (Nat.le_div_iff_mul_le hpos).2 hlo
  have h2 : m / 2 ^ k < 2 ^ 53 := (Nat.div_lt_iff_lt_mul hpos).2 hhi
  exact (Nat.log2_eq_iff (by omega)).2 ⟨h1, h2⟩

/-- A mantissa of at least 53 digits is rounded to 53, and the exponent tells how many were cut off. -/
theorem roundWithAccuracy_eq {m : Nat} {e : Int} (s : Sign) (a : Accuracy) (hm : 52 ≤ m.log2)
    (he : -1074 ≤ (m.log2 : Int) - 52 + e) :
    ∃ m' e' h, roundWithAccuracy Format.binary64 s m e a = .finite s m' e' h ∧ m'.log2 = 52 ∧
      (m.log2 : Int) - 52 + e ≤ e' ∧ e' ≤ (m.log2 : Int) - 51 + e := by
  obtain ⟨x, hx, hmantissa⟩ := shiftToTargetExponent_eq a hm he
  have hlog : x.mantissa.log2 = 52 := by
    rw [hmantissa]
    exact log2_div_pow (by omega)
  have hrange := (Nat.log2_eq_iff (Nat.ne_of_gt (log2_pos_of_eq hlog))).1 hlog
  have hbounds := roundedMantissa_bounds x
  -- rounding up may add one digit, which the second shift takes away again
  have hrounded : x.roundedMantissa.log2 = 52 ∨ x.roundedMantissa.log2 = 53 := by
    by_cases hsmall : x.roundedMantissa < 2 ^ 53
    · exact .inl ((Nat.log2_eq_iff (by omega)).2 ⟨by omega, hsmall⟩)
    · exact .inr ((Nat.log2_eq_iff (by omega)).2 ⟨by omega, by omega⟩)
  obtain ⟨y, hy, hfinal⟩ := shiftToTargetExponent_eq (m := x.roundedMantissa)
    (e := (m.log2 : Int) - 52 + e) .exact (by omega) (by omega)
  have hylog : y.mantissa.log2 = 52 := by
    rw [hfinal]
    exact log2_div_pow (by omega)
  have hy0 := log2_pos_of_eq hylog
  refine ⟨y.mantissa, (x.roundedMantissa.log2 : Int) - 52 + ((m.log2 : Int) - 52 + e), hy0, ?_,
    hylog, by omega, by omega⟩
  rw [roundWithAccuracy, hx]
  simp only [hy, dif_neg (Nat.ne_of_gt hy0)]

/-! ### The bits of a double -/

/-- What is packed into bits is unpacked again, but for the sign, which matters for no bound. -/
theorem unpack_pack {s : Sign} {m : Nat} {e : Int} (h : 0 < m) (hm : m.log2 = 52)
    (hlo : -1074 ≤ e) (hhi : e ≤ 971) :
    ∃ t, (Float.Model.pack (.finite s m e h)).unpack = .finite t m e h := by
  have hrange := (Nat.log2_eq_iff (Nat.ne_of_gt h)).1 hm
  obtain ⟨b, hb⟩ : ∃ b : Nat, (b : Int) = e + 1075 := ⟨(e + 1075).toNat, by omega⟩
  have hbits : (BitVec.ofNat 11 b).toNat = b := by
    rw [BitVec.toNat_ofNat, Nat.mod_eq_of_lt (by omega)]
  have hzero : BitVec.ofNat 11 b ≠ 0#11 := by
    intro heq
    have := congrArg BitVec.toNat heq
    rw [hbits] at this
    simp at this
    omega
  have hones : BitVec.ofNat 11 b ≠ -1#11 := by
    intro heq
    have := congrArg BitVec.toNat heq
    rw [hbits] at this
    simp at this
    omega
  have hmantissa : (1#1 ++ BitVec.ofNat 52 m).toNat = m := by
    rw [BitVec.toNat_append, ← Nat.shiftLeft_add_eq_or_of_lt (BitVec.isLt _), BitVec.toNat_ofNat,
      Nat.shiftLeft_eq]
    simp
    omega
  have hbiased : (e + 1023 + 52).toNat = b := by omega
  have hpack : UnpackedFloat.pack Format.binary64 (.finite s m e h) =
      packComponents Format.binary64 s (BitVec.ofNat 11 b) (BitVec.ofNat 52 m) := by
    rw [UnpackedFloat.pack]
    change (if 2 ^ 11 ≤ (e + 1023 + 52).toNat + 1 then _ else if m.log2 + 1 = 53 then
      packComponents Format.binary64 s (BitVec.ofNat 11 (e + 1023 + 52).toNat) _ else _) = _
    rw [hbiased, if_neg (by omega), if_pos (by omega)]
  refine ⟨Sign.ofBitVec (unpackSign (UnpackedFloat.pack Format.binary64 (.finite s m e h))), ?_⟩
  rw [Float.Model.unpack]
  change UnpackedFloat.unpack Format.binary64 (UnpackedFloat.pack Format.binary64 _) = _
  rw [UnpackedFloat.unpack, hpack]
  simp only [unpackExponent_packComponents, unpackMantissa_packComponents]
  rw [if_neg hones, if_neg hzero]
  simp only [hbits, hmantissa]
  congr 1
  change (b : Int) - (1023 + 52) = e
  omega

/-- Doubles with all 53 digits and an exponent in a range. -/
def Scaled (lo hi : Int) (x : Float) : Prop :=
  ∃ s m e h, x.toModel.unpack = .finite s m e h ∧ m.log2 = 52 ∧ lo ≤ e ∧ e ≤ hi

theorem scaled_of_round {lo hi : Int} {x : Float} {s : Sign} {a : Accuracy} {m : Nat} {e : Int}
    (hx : x.toModel = Float.Model.pack (roundWithAccuracy Format.binary64 s m e a))
    (hm : 52 ≤ m.log2) (hlo : lo ≤ (m.log2 : Int) - 52 + e) (hhi : (m.log2 : Int) - 51 + e ≤ hi)
    (hmin : -1074 ≤ lo) (hmax : hi ≤ 971) : Scaled lo hi x := by
  have hlow : -1074 ≤ (m.log2 : Int) - 52 + e := by omega
  obtain ⟨m', e', h, hround, hm', hlo', hhi'⟩ := roundWithAccuracy_eq s a hm hlow
  obtain ⟨t, ht⟩ := unpack_pack (s := s) h hm' (by omega) (by omega : e' ≤ 971)
  refine ⟨t, m', e', h, ?_, hm', by omega, by omega⟩
  rw [hx, hround, ht]

variable {lo hi lo' hi' : Int} {x y : Float}

theorem Scaled.isFinite (h : Scaled lo hi x) : x.isFinite = true := by
  obtain ⟨s, m, e, hm, hx, -⟩ := h
  rw [Float.isFinite, Float.Model.isFinite, hx]
  rfl

theorem Scaled.mul (hx : Scaled lo hi x) (hy : Scaled lo' hi' y) (hmin : -1074 ≤ lo + lo' + 52)
    (hmax : hi + hi' + 54 ≤ 971) : Scaled (lo + lo' + 52) (hi + hi' + 54) (x * y) := by
  obtain ⟨s, m, e, hm, hx, hlog, hlo, hhi⟩ := hx
  obtain ⟨t, n, f, hn, hy, hlog', hlo', hhi'⟩ := hy
  have hm' := (Nat.log2_eq_iff (Nat.ne_of_gt hm)).1 hlog
  have hn' := (Nat.log2_eq_iff (Nat.ne_of_gt hn)).1 hlog'
  have h1 : 2 ^ 52 * 2 ^ 52 ≤ m * n := Nat.mul_le_mul hm'.1 hn'.1
  have h2 : m * n < 2 ^ 53 * 2 ^ 53 := Nat.mul_lt_mul'' hm'.2 hn'.2
  have h3 : 104 ≤ (m * n).log2 := (Nat.le_log2 (by omega)).2 h1
  have h4 : (m * n).log2 < 106 := (Nat.log2_lt (by omega)).2 h2
  refine scaled_of_round (s := s * t) (a := .exact) (m := m * n) (e := e + f) ?_ (by omega)
    (by omega) (by omega) hmin hmax
  change Float.Model.pack (UnpackedFloat.mul _ x.toModel.unpack y.toModel.unpack) = _
  rw [hx, hy]
  rfl

theorem Scaled.div (hx : Scaled lo hi x) (hy : Scaled lo' hi' y) (hmin : -1021 ≤ lo - hi')
    (hmax : hi - lo' ≤ 971) : Scaled (lo - hi' - 53) (hi - lo') (x / y) := by
  obtain ⟨s, m, e, hm, hx, hlog, hlo, hhi⟩ := hx
  obtain ⟨t, n, f, hn, hy, hlog', hlo', hhi'⟩ := hy
  have hm' := (Nat.log2_eq_iff (Nat.ne_of_gt hm)).1 hlog
  have hn' := (Nat.log2_eq_iff (Nat.ne_of_gt hn)).1 hlog'
  have h1 : 2 ^ 52 ≤ (m <<< 53) / n := by
    rw [Nat.shiftLeft_eq, Nat.le_div_iff_mul_le hn]
    omega
  have h2 : (m <<< 53) / n < 2 ^ 54 := by
    rw [Nat.shiftLeft_eq, Nat.div_lt_iff_lt_mul hn]
    omega
  have h3 : 52 ≤ ((m <<< 53) / n).log2 := (Nat.le_log2 (by omega)).2 h1
  have h4 : ((m <<< 53) / n).log2 < 54 := (Nat.log2_lt (by omega)).2 h2
  have htarget : min (e - f)
      (Format.binary64.targetExponent (totalExponent m e - totalExponent n f)) = e - f - 53 := by
    rw [targetExponent_eq, totalExponent, totalExponent]
    omega
  have hshift : (e - f - (e - f - 53)).toNat = 53 := by omega
  refine scaled_of_round (s := s / t) (a := accuracyOfFraction ((m <<< 53) % n) n)
    (m := (m <<< 53) / n) (e := e - f - 53) ?_ h3 (by omega) (by omega) (by omega) hmax
  change Float.Model.pack (UnpackedFloat.div _ x.toModel.unpack y.toModel.unpack) = _
  rw [hx, hy]
  simp only [UnpackedFloat.div, divCore, htarget, hshift]

/-- Doubles that are zero or have an exponent in a range. -/
def Bounded (lo hi : Int) (x : Float) : Prop :=
  (∃ s, x.toModel.unpack = .zero s) ∨ Scaled lo hi x

theorem unpack_pack_zero (s : Sign) : ∃ t, (Float.Model.pack (.zero s)).unpack = .zero t := by
  cases s with
  | positive => exact ⟨.positive, rfl⟩
  | negative => exact ⟨.negative, rfl⟩

theorem Bounded.isFinite (h : Bounded lo hi x) : x.isFinite = true := by
  rcases h with ⟨s, hx⟩ | h
  · rw [Float.isFinite, Float.Model.isFinite, hx]
    rfl
  · exact h.isFinite

theorem Bounded.mul (hx : Bounded lo hi x) (hy : Scaled lo' hi' y) (hmin : -1074 ≤ lo + lo' + 52)
    (hmax : hi + hi' + 54 ≤ 971) : Bounded (lo + lo' + 52) (hi + hi' + 54) (x * y) := by
  rcases hx with ⟨s, hx⟩ | hx
  · obtain ⟨t, n, f, hn, hy, -⟩ := hy
    obtain ⟨u, hu⟩ := unpack_pack_zero (s * t)
    refine .inl ⟨u, ?_⟩
    change (Float.Model.pack (UnpackedFloat.mul _ x.toModel.unpack y.toModel.unpack)).unpack = _
    rw [hx, hy]
    exact hu
  · exact .inr (hx.mul hy hmin hmax)

theorem Bounded.div (hx : Bounded lo hi x) (hy : Scaled lo' hi' y) (hmin : -1021 ≤ lo - hi')
    (hmax : hi - lo' ≤ 971) : Bounded (lo - hi' - 53) (hi - lo') (x / y) := by
  rcases hx with ⟨s, hx⟩ | hx
  · obtain ⟨t, n, f, hn, hy, -⟩ := hy
    obtain ⟨u, hu⟩ := unpack_pack_zero (s / t)
    refine .inl ⟨u, ?_⟩
    change (Float.Model.pack (UnpackedFloat.div _ x.toModel.unpack y.toModel.unpack)).unpack = _
    rw [hx, hy]
    exact hu
  · exact .inr (hx.div hy hmin hmax)

theorem Bounded.neg (hx : Bounded lo hi x) (hmin : -1074 ≤ lo) (hmax : hi ≤ 971) :
    Bounded lo hi x.neg := by
  rcases hx with ⟨s, hx⟩ | ⟨s, m, e, hm, hx, hlog, hlo, hhi⟩
  · obtain ⟨t, ht⟩ := unpack_pack_zero (-s)
    refine .inl ⟨t, ?_⟩
    change (Float.Model.pack x.toModel.unpack.neg).unpack = _
    rw [hx]
    exact ht
  · obtain ⟨t, ht⟩ := unpack_pack (s := -s) hm hlog (by omega : -1074 ≤ e) (by omega)
    refine .inr ⟨t, m, e, hm, ?_, hlog, hlo, hhi⟩
    change (Float.Model.pack x.toModel.unpack.neg).unpack = _
    rw [hx]
    exact ht

/-! ### Whole numbers of 64 bits -/

theorem log2_shiftLeft {n : Nat} (k : Nat) (hn : 0 < n) : (n <<< k).log2 = n.log2 + k := by
  have h := (Nat.log2_eq_iff (Nat.ne_of_gt hn)).1 rfl
  rw [Nat.shiftLeft_eq, Nat.log2_eq_iff (Nat.ne_of_gt (Nat.mul_pos hn (Nat.two_pow_pos k)))]
  have hpos := Nat.two_pow_pos k
  constructor
  · rw [Nat.pow_add]
    exact Nat.mul_le_mul_right _ h.1
  · rw [show n.log2 + k + 1 = n.log2 + 1 + k by omega, Nat.pow_add]
    exact Nat.mul_lt_mul_of_pos_right h.2 hpos

theorem scaled_toFloat {n : UInt64} (hn : 0 < n.toNat) : Scaled (-52) 12 n.toFloat := by
  have hlog : n.toNat.log2 < 64 := (Nat.log2_lt (Nat.ne_of_gt hn)).2 n.toNat_lt
  have htarget : Format.binary64.targetExponent (totalExponent n.toNat 0) =
      (n.toNat.log2 : Int) - 52 := by
    rw [targetExponent_eq, totalExponent]
    omega
  have hshift : ((0 : Int) - ((n.toNat.log2 : Int) - 52)).toNat = 52 - n.toNat.log2 := by omega
  have hround : n.toFloat.toModel = Float.Model.pack (roundWithAccuracy Format.binary64 .positive
      (n.toNat <<< (52 - n.toNat.log2)) (0 - ((52 - n.toNat.log2 : Nat) : Int)) .exact) := by
    change Float.Model.pack (UnpackedFloat.normalize Format.binary64 (n.toNat : Int) 0 .positive) = _
    rw [UnpackedFloat.normalize, Int.compare_eq_gt.2 (by omega)]
    simp only [Int.toNat_natCast, UnpackedFloat.round, htarget, decreaseExponent, hshift]
  refine scaled_of_round hround ?_ ?_ ?_ (by omega) (by omega) <;>
    rw [log2_shiftLeft _ hn] <;> omega

theorem scaled_ofNat {n : Nat} (hpos : 0 < n) (hn : n < 2 ^ 64) : Scaled (-52) 14 (Float.ofNat n) := by
  by_cases hsmall : n < 2 ^ 53
  · have heq : Float.ofNat n = n.toUInt64.toFloat * Float.ofBits 4607182418800017408 := by
      change Float.ofScientific n false 0 = _
      rw [Float.ofScientific, dif_pos ⟨hsmall, by omega⟩]
      rfl
    have hone : Scaled (-52) (-52) (Float.ofBits 4607182418800017408) :=
      ⟨.positive, 4503599627370496, -52, by decide, rfl, by decide, by decide, by decide⟩
    have htoNat : n.toUInt64.toNat = n := UInt64.toNat_ofNat_of_lt hn
    rw [heq]
    exact (scaled_toFloat (by omega)).mul hone (by decide) (by decide)
  · have hround : (Float.ofNat n).toModel = Float.Model.pack (roundWithAccuracy Format.binary64
        .positive (n <<< 53) (-53) .exact) := by
      change (Float.ofScientific n false 0).toModel = _
      rw [Float.ofScientific, dif_neg (by omega)]
      change Float.Model.pack (UnpackedFloat.ofScientific Format.binary64 n 0) = _
      have hnormal : ¬ (0 : Int) < -(2 ^ 11 + (n.log2 : Int)) := by omega
      rw [UnpackedFloat.ofScientific, dif_neg (by omega), if_neg (by decide), if_neg hnormal,
        if_pos (by decide)]
      change Float.Model.pack
        (roundWithAccuracy Format.binary64 .positive (n <<< 53 * 1) (-53 + 0) .exact) = _
      rw [Nat.mul_one, Int.add_zero]
    have hlog : n.log2 < 64 := (Nat.log2_lt (by omega)).2 hn
    have hlog' : 53 ≤ n.log2 := (Nat.le_log2 (by omega)).2 (by omega)
    refine scaled_of_round hround ?_ ?_ ?_ (by omega) (by omega) <;>
      rw [log2_shiftLeft _ hpos] <;> omega

theorem bounded_ofNat {n : Nat} (hn : n < 2 ^ 64) : Bounded (-52) 14 (Float.ofNat n) := by
  by_cases hzero : n = 0
  · subst hzero
    exact .inl ⟨.positive, rfl⟩
  · exact .inr (scaled_ofNat (Nat.pos_of_ne_zero hzero) hn)

theorem bounded_ofInt (n : Int64) : Bounded (-52) 14 (Float.ofInt n.toInt) := by
  have hlo := n.le_toInt
  have hhi := n.toInt_lt
  cases h : n.toInt with
  | ofNat k =>
    rw [h] at hhi
    have hk : (k : Int) < 2 ^ 63 := hhi
    exact bounded_ofNat (by omega)
  | negSucc k =>
    rw [h] at hlo
    exact (bounded_ofNat (by omega)).neg (by omega) (by omega)

/-! ### Quotients of amounts -/

theorem isFinite_div_billion (n : UInt64) :
    (Float.ofNat n.toNat / 1000000000.0).isFinite = true := by
  have hunit : Scaled (-23) (-23) 1000000000.0 :=
    ⟨.positive, 8388608000000000, -23, by decide, rfl, by decide, by decide, by decide⟩
  exact ((bounded_ofNat n.toNat_lt).div hunit (by decide) (by decide)).isFinite

theorem isFinite_div_million (n : UInt64) :
    (Float.ofNat n.toNat / 1000000.0).isFinite = true := by
  have hunit : Scaled (-33) (-33) 1000000.0 :=
    ⟨.positive, 8589934592000000, -33, by decide, rfl, by decide, by decide, by decide⟩
  exact ((bounded_ofNat n.toNat_lt).div hunit (by decide) (by decide)).isFinite

theorem isFinite_div_thousand (n : Int64) :
    (Float.ofInt n.toInt / 1000.0).isFinite = true := by
  have hunit : Scaled (-43) (-43) 1000.0 :=
    ⟨.positive, 8796093022208000, -43, by decide, rfl, by decide, by decide, by decide⟩
  exact ((bounded_ofInt n).div hunit (by decide) (by decide)).isFinite

/-- The share of an amount in hundredths of a total that is not zero. -/
theorem isFinite_percentage (desired complement : UInt64)
    (h : Fetch.saturatingTotal desired complement ≠ 0) :
    (Float.ofNat desired.toNat / Float.ofNat (Fetch.saturatingTotal desired complement) *
      100.0).isFinite = true := by
  have hpos := Nat.pos_of_ne_zero h
  have hlt : Fetch.saturatingTotal desired complement < 2 ^ 64 :=
    Nat.lt_of_le_of_lt (Nat.min_le_right _ _) (by decide)
  have hunit : Scaled (-46) (-46) 100.0 :=
    ⟨.positive, 7036874417766400, -46, by decide, rfl, by decide, by decide, by decide⟩
  have hshare := (bounded_ofNat desired.toNat_lt).div (scaled_ofNat hpos hlt) (by decide) (by decide)
  exact (hshare.mul hunit (by decide) (by decide)).isFinite

/-- A double that is not finite is infinite or not a number. -/
theorem isInf_or_isNaN_of_not_isFinite (h : ¬ x.isFinite = true) :
    x.isInf = true ∨ x.isNaN = true := by
  rw [Float.isFinite, Float.Model.isFinite] at h
  rw [Float.isInf, Float.isNaN, Float.Model.isInf, Float.Model.isNaN]
  cases hx : x.toModel.unpack with
  | zero s =>
    rw [hx] at h
    exact absurd rfl h
  | finite s m e hm =>
    rw [hx] at h
    exact absurd rfl h
  | infinity s => exact .inl rfl
  | notANumber => exact .inr rfl

end NodeTelemetry.Double
