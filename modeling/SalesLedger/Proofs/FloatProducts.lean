import Mathlib
import SalesLedger.Json.Numeral
import SalesLedger.Proofs.Rounding

/-!
# Products of doubles

A product of doubles that is exactly below the greatest double and half a unit is not rounded to an
infinity. So gathered digits can be scaled by a power of ten wherever the exact number is far enough
below the end of the doubles: `scale?_isSome`.

* `roundedMantissa_shiftRight`: dropping bits one by one rounds as `halfEven` does.
* `exists_roundWithAccuracy`: a number with 53 bits or more is rounded to `roundedNat` of it.
* `unpack_pack`: a normal double survives being written as bits.
* `isNormal_ofNat`: the double of a natural number is its rounded number.
* `isInf_ofNat_mul`: which products are no infinity.
-/

namespace SalesLedger.Decimal.Binary64

open Float.Model Float.Model.UnpackedFloat

/-! ## Dropping bits -/

theorem repeat_shiftRightOne (m s : Nat) :
    Nat.repeat ExtendedMantissa.shiftRightOne (s + 1) ⟨m, false, false⟩ =
      ⟨m / 2 ^ (s + 1), m / 2 ^ s % 2 != 0, m % 2 ^ s != 0⟩ := by
  induction s with
  | zero =>
    simp only [Nat.repeat, ExtendedMantissa.shiftRightOne, Nat.pow_zero, Nat.div_one, Nat.mod_one,
      Nat.zero_add, Nat.pow_one, Bool.or_self, bne_self_eq_false]
  | succ s ih =>
    have hsticky : (m / 2 ^ s % 2 != 0 || m % 2 ^ s != 0) = (m % 2 ^ (s + 1) != 0) := by
      have hbit : m / 2 ^ s % 2 < 2 := Nat.mod_lt _ (by decide)
      have hpos : 0 < 2 ^ s := Nat.two_pow_pos s
      rw [Nat.mod_pow_succ, Bool.eq_iff_iff]
      simp only [Bool.or_eq_true, bne_iff_ne, ne_eq]
      rcases Nat.eq_zero_or_pos (m / 2 ^ s % 2) with hzero | hone
      · simp only [hzero, Nat.mul_zero, Nat.add_zero, not_true_eq_false, false_or]
      · obtain hone : m / 2 ^ s % 2 = 1 := by omega
        simp only [hone, Nat.mul_one]
        omega
    rw [Nat.repeat, ih, ExtendedMantissa.shiftRightOne, hsticky, Nat.div_div_eq_div_mul,
      ← Nat.pow_succ]

/-- **Dropping the last bits of a number one by one** rounds it to the nearest, a half to the even
neighbour. -/
theorem roundedMantissa_shiftRight (m s : Nat) :
    (ExtendedMantissa.mk m false false >>> s).roundedMantissa = halfEven m s := by
  cases s with
  | zero =>
    unfold halfEven
    rw [if_pos (.inl rfl)]
    rfl
  | succ s =>
    have hshift : ExtendedMantissa.mk m false false >>> (s + 1) =
        ⟨m / 2 ^ (s + 1), m / 2 ^ s % 2 != 0, m % 2 ^ s != 0⟩ := repeat_shiftRightOne m s
    have hhalf : 2 ^ (s + 1) / 2 = 2 ^ s := by
      rw [Nat.pow_succ, Nat.mul_div_cancel _ (by decide)]
    have hrest : m % 2 ^ (s + 1) = m % 2 ^ s + 2 ^ s * (m / 2 ^ s % 2) := Nat.mod_pow_succ
    have hlow : m % 2 ^ s < 2 ^ s := Nat.mod_lt _ (Nat.two_pow_pos s)
    have hbit : m / 2 ^ s % 2 < 2 := Nat.mod_lt _ (by decide)
    unfold halfEven
    rw [hshift, Nat.one_shiftLeft, Nat.shiftRight_eq_div_pow, hhalf, hrest]
    rcases Nat.eq_zero_or_pos (m / 2 ^ s % 2) with hzero | hone
    · simp only [hzero, Nat.mul_zero, Nat.add_zero, hlow, or_true, if_true, bne_self_eq_false]
      cases m % 2 ^ s != 0 <;> rfl
    · obtain hone : m / 2 ^ s % 2 = 1 := by omega
      rw [hone, Nat.mul_one, if_neg (by omega)]
      rcases Nat.eq_zero_or_pos (m % 2 ^ s) with heven | hodd
      · rw [heven, Nat.zero_add, if_neg (Nat.lt_irrefl _)]
        rfl
      · have hsticky : (m % 2 ^ s != 0) = true := bne_iff_ne.2 (Nat.ne_of_gt hodd)
        rw [hsticky, if_pos (by omega)]
        rfl

/-! ## Rounding -/

theorem targetExponent_eq (m : Nat) (e : Int) :
    Format.binary64.targetExponent (totalExponent m e) = max ((m.log2 : Int) + e - 52) (-1074) := by
  have hbits : (Format.binary64.mantissaBits : Int) = 53 := rfl
  have hleast : Format.binary64.minExponent = -1074 := by decide
  rw [Format.targetExponent, totalExponent, hbits, hleast]
  congr 1
  omega

theorem shiftToTargetExponent_eq {m : Nat} {e : Int} {s : Nat}
    (h : (max ((m.log2 : Int) + e - 52) (-1074) - e).toNat = s) :
    shiftToTargetExponent Format.binary64 m e .exact =
      (ExtendedMantissa.mk m false false >>> s, e + s) := by
  unfold shiftToTargetExponent shiftToExponent
  rw [targetExponent_eq]
  dsimp only
  rw [h]
  rfl

/-- A number of 53 bits is as it should be. -/
theorem shiftToTargetExponent_of_log2 {m : Nat} {e : Int} (hm : m.log2 = 52) (he : -1074 ≤ e) :
    shiftToTargetExponent Format.binary64 m e .exact = (⟨m, false, false⟩, e) := by
  rw [shiftToTargetExponent_eq (s := 0) (by omega)]
  exact congrArg (Prod.mk _) (Int.add_zero e)

/-- Rounding leaves a number of 53 bits as it is. -/
theorem roundWithAccuracy_of_log2 (sign : Sign) {m : Nat} {e : Int} (hpos : 0 < m)
    (hm : m.log2 = 52) (he : -1074 ≤ e) :
    roundWithAccuracy Format.binary64 sign m e .exact = .finite sign m e hpos := by
  have hrounded : (ExtendedMantissa.mk m false false).roundedMantissa = m := rfl
  unfold roundWithAccuracy
  rw [shiftToTargetExponent_of_log2 hm he]
  dsimp only
  rw [hrounded, shiftToTargetExponent_of_log2 hm he]
  exact dif_neg (Nat.ne_of_gt hpos)

theorem log2_eq_of_bounds {m k : Nat} (hlow : 2 ^ k ≤ m) (hhigh : m < 2 ^ (k + 1)) :
    m.log2 = k := by
  have hne : m ≠ 0 := Nat.ne_of_gt (Nat.lt_of_lt_of_le (Nat.two_pow_pos k) hlow)
  have hle := (Nat.le_log2 hne).2 hlow
  have hlt := (Nat.log2_lt hne).2 hhigh
  omega

/-- **Rounding a number with 53 bits or more**: it becomes a number of exactly 53 bits and as many
zeros as make it `roundedNat`. -/
theorem exists_roundWithAccuracy {m : Nat} {e : Int} (sign : Sign) (hm : 52 ≤ m.log2)
    (he : -1022 ≤ (m.log2 : Int) + e) :
    ∃ (m' : Nat) (e' : Int) (hpos : 0 < m'),
      roundWithAccuracy Format.binary64 sign m e .exact = .finite sign m' e' hpos ∧
        2 ^ 52 ≤ m' ∧ m' < 2 ^ 53 ∧ e ≤ e' ∧ -1074 ≤ e' ∧
        m' * 2 ^ (e' - e).toNat = roundedNat m := by
  have hne : m ≠ 0 := by
    rintro rfl
    cases hm
  have hs : (max ((m.log2 : Int) + e - 52) (-1074) - e).toNat = spareBits m := by
    unfold spareBits
    omega
  have hleast : -1074 ≤ e + (spareBits m : Int) := by
    unfold spareBits
    omega
  have hlow : 2 ^ 52 ≤ halfEven m (spareBits m) := by
    refine Nat.le_trans ?_ (le_halfEven m _)
    rw [Nat.le_div_iff_mul_le (Nat.two_pow_pos _), ← Nat.pow_add,
      show 52 + spareBits m = m.log2 by unfold spareBits; omega]
    exact Nat.log2_self_le hne
  have hhigh : halfEven m (spareBits m) ≤ 2 ^ 53 := by
    have hquotient : m / 2 ^ spareBits m < 2 ^ 53 := by
      rw [Nat.div_lt_iff_lt_mul (Nat.two_pow_pos _), ← Nat.pow_add,
        show 53 + spareBits m = m.log2 + 1 by unfold spareBits; omega]
      exact Nat.lt_log2_self
    exact Nat.le_trans (halfEven_le m _) hquotient
  unfold roundWithAccuracy
  rw [shiftToTargetExponent_eq hs]
  dsimp only
  rw [roundedMantissa_shiftRight]
  rcases Nat.lt_or_eq_of_le hhigh with hfits | hcarry
  · -- the rounded number has 53 bits
    have hlog := log2_eq_of_bounds hlow hfits
    have hpos : 0 < halfEven m (spareBits m) := Nat.lt_of_lt_of_le (Nat.two_pow_pos _) hlow
    refine ⟨halfEven m (spareBits m), e + spareBits m, hpos, ?_, hlow, hfits, by omega, hleast, ?_⟩
    · rw [shiftToTargetExponent_of_log2 hlog hleast]
      exact dif_neg (Nat.ne_of_gt hpos)
    · rw [roundedNat_eq, show (e + (spareBits m : Int) - e).toNat = spareBits m by omega]
  · -- it has become a power of two, with one bit more
    refine ⟨2 ^ 52, e + spareBits m + 1, Nat.two_pow_pos _, ?_, Nat.le_refl _, by decide, by omega,
      by omega, ?_⟩
    · rw [hcarry, shiftToTargetExponent_eq (s := 1) (by rw [Nat.log2_two_pow]; omega)]
      rfl
    · rw [roundedNat_eq, hcarry,
        show (e + (spareBits m : Int) + 1 - e).toNat = spareBits m + 1 by omega, ← Nat.pow_add,
        ← Nat.pow_add]
      congr 1
      omega

/-! ## Bits -/

theorem toNat_one_append (v : BitVec 52) : (1#1 ++ v).toNat = 2 ^ 52 + v.toNat := by
  rw [BitVec.toNat_append, ← Nat.shiftLeft_add_eq_or_of_lt v.isLt]
  rfl

/-- **A normal double survives being written as bits.** -/
theorem unpack_pack (sign : Sign) {m : Nat} {e : Int} (hpos : 0 < m) (hlow : 2 ^ 52 ≤ m)
    (hhigh : m < 2 ^ 53) (hleast : -1074 ≤ e) (hgreatest : e ≤ 971) :
    (Float.Model.pack (.finite sign m e hpos)).unpack = .finite sign m e hpos := by
  have hlog : m.log2 + 1 = Format.binary64.mantissaBits := by
    rw [log2_eq_of_bounds hlow hhigh]
    rfl
  have hbiased : (e + (Format.binary64.exponentBias : Nat) +
      (Format.binary64.mantissaBitsWithoutImplicit : Nat)).toNat = (e + 1075).toNat := by
    have hbias : (Format.binary64.exponentBias : Int) = 1023 := rfl
    have hbits : (Format.binary64.mantissaBitsWithoutImplicit : Int) = 52 := rfl
    rw [hbias, hbits, Int.add_assoc]
    rfl
  have hexponent : (BitVec.ofNat 11 (e + 1075).toNat).toNat = (e + 1075).toNat := by
    rw [BitVec.toNat_ofNat, Nat.mod_eq_of_lt (by omega)]
  have hmantissa : (1#1 ++ BitVec.ofNat 52 m).toNat = m := by
    rw [toNat_one_append, BitVec.toNat_ofNat]
    omega
  have hpack : UnpackedFloat.pack Format.binary64 (.finite sign m e hpos) =
      packComponents Format.binary64 sign (BitVec.ofNat 11 (e + 1075).toNat)
        (BitVec.ofNat 52 m) := by
    rw [UnpackedFloat.pack]
    dsimp only
    rw [hbiased, if_neg (show ¬ 2 ^ 11 ≤ (e + 1075).toNat + 1 by omega), if_pos hlog]
  have hinfinite : BitVec.ofNat 11 (e + 1075).toNat ≠ -1#11 := by
    intro h
    have hnat := congrArg BitVec.toNat h
    rw [hexponent] at hnat
    have hall : (-1#11).toNat = 2047 := rfl
    omega
  have hsubnormal : BitVec.ofNat 11 (e + 1075).toNat ≠ 0#11 := by
    intro h
    have hnat := congrArg BitVec.toNat h
    rw [hexponent] at hnat
    have hzero : (0#11).toNat = 0 := rfl
    omega
  have hbits : (Float.Model.pack (.finite sign m e hpos)).unpack =
      UnpackedFloat.unpack Format.binary64
        (UnpackedFloat.pack Format.binary64 (.finite sign m e hpos)) := rfl
  rw [hbits, hpack, UnpackedFloat.unpack]
  simp only [unpackMantissa_packComponents, unpackExponent_packComponents,
    unpackSign_packComponents, Sign.ofBitVec_toBitVec]
  rw [if_neg hinfinite, if_neg hsubnormal]
  have hshown : ((BitVec.ofNat 11 (e + 1075).toNat).toNat : Int) -
      ((Format.binary64.exponentBias : Nat) + (52 : Nat)) = e := by
    have hbias : (Format.binary64.exponentBias : Int) = 1023 := rfl
    rw [hexponent, hbias]
    omega
  simp only [hmantissa, hshown]

/-! ## Normal doubles -/

/-- A double is positive and normal, and so many units. -/
def IsNormal (x : Float) (u : Nat) : Prop :=
  ∃ (m : Nat) (e : Int) (hpos : 0 < m), x.toModel.unpack = .finite .positive m e hpos ∧
    2 ^ 52 ≤ m ∧ m < 2 ^ 53 ∧ -1074 ≤ e ∧ e ≤ 971 ∧ u = m * 2 ^ (e + 1074).toNat

variable {x y : Float} {u w n : Nat}

theorem IsNormal.isInf_eq_false (h : IsNormal x u) : x.isInf = false := by
  obtain ⟨m, e, hpos, hx, -⟩ := h
  have hinf : x.isInf = x.toModel.unpack.isInf := rfl
  rw [hinf, hx]
  rfl

theorem IsNormal.isFinite (h : IsNormal x u) : x.isFinite = true := by
  obtain ⟨m, e, hpos, hx, -⟩ := h
  have hfinite : x.isFinite = x.toModel.unpack.isFinite := rfl
  rw [hfinite, hx]
  rfl

theorem log2_mul_two_pow (hn : n ≠ 0) (k : Nat) : (n * 2 ^ k).log2 = n.log2 + k := by
  refine log2_eq_of_bounds ?_ ?_
  · rw [Nat.pow_add]
    exact Nat.mul_le_mul_right _ (Nat.log2_self_le hn)
  · rw [Nat.add_right_comm, Nat.pow_add]
    exact Nat.mul_lt_mul_of_pos_right Nat.lt_log2_self (Nat.two_pow_pos k)

/-- Zeros behind a number are zeros behind what it is rounded to. -/
theorem halfEven_mul_two_pow_add (n s k : Nat) : halfEven (n * 2 ^ k) (s + k) = halfEven n s := by
  cases s with
  | zero =>
    have hkept := halfEven_mul_two_pow n 0
    rw [Nat.pow_zero, Nat.mul_one] at hkept
    rw [Nat.zero_add, halfEven_mul_two_pow, hkept]
  | succ s =>
    have hpos : 0 < 2 ^ k := Nat.two_pow_pos k
    have hhalf : ∀ t, 2 ^ (t + 1) / 2 = 2 ^ t := fun t => by
      rw [Nat.pow_succ, Nat.mul_div_cancel _ (by decide)]
    have hsum : s + 1 + k = s + k + 1 := Nat.add_right_comm s 1 k
    unfold halfEven
    rw [Nat.shiftRight_eq_div_pow, Nat.shiftRight_eq_div_pow, Nat.one_shiftLeft, Nat.one_shiftLeft,
      hhalf, hsum, hhalf, ← hsum, Nat.pow_add 2 (s + 1) k, Nat.mul_div_mul_right _ _ hpos,
      Nat.mul_mod_mul_right, Nat.pow_add 2 s k]
    simp only [Nat.mul_lt_mul_right hpos, hsum, Nat.succ_ne_zero]

theorem roundedNat_mul_two_pow (hn : 52 ≤ n.log2) (k : Nat) :
    roundedNat (n * 2 ^ k) = roundedNat n * 2 ^ k := by
  have hne : n ≠ 0 := by
    rintro rfl
    cases hn
  have hspare : spareBits (n * 2 ^ k) = spareBits n + k := by
    unfold spareBits
    rw [log2_mul_two_pow hne]
    omega
  rw [roundedNat_eq, roundedNat_eq, hspare, halfEven_mul_two_pow_add, Nat.pow_add, Nat.mul_assoc]

theorem mul_two_pow_two_pow (n a b : Nat) : n * 2 ^ a * 2 ^ b = n * 2 ^ (a + b) := by
  rw [Nat.mul_assoc, ← Nat.pow_add]

theorem eq_of_mul_two_pow_eq {m n a : Nat} (h : m * 2 ^ a = n * 2 ^ a) : m = n :=
  Nat.eq_of_mul_eq_mul_right (Nat.two_pow_pos a) h

theorem lt_of_two_pow_mul_lt {a b c d : Nat} (h : 2 ^ a * 2 ^ b * 2 ^ c < 2 ^ d) :
    a + b + c < d := by
  rw [← Nat.pow_add, ← Nat.pow_add] at h
  exact (Nat.pow_lt_pow_iff_right (by decide)).1 h

theorem le_of_two_pow_mul_le {a b c d : Nat} (h : 2 ^ a * 2 ^ b ≤ 2 ^ c * 2 ^ d) :
    a + b ≤ c + d := by
  rw [← Nat.pow_add, ← Nat.pow_add] at h
  exact (Nat.pow_le_pow_iff_right (by decide)).1 h

theorem mul_two_pow_eq {m n a b c d : Nat} (h : m * 2 ^ a = n * 2 ^ b) (he : c + b = a + d) :
    m * 2 ^ c = n * 2 ^ d := by
  refine Nat.eq_of_mul_eq_mul_right (Nat.two_pow_pos b) ?_
  rw [Nat.mul_assoc, ← Nat.pow_add, he, Nat.pow_add, ← Nat.mul_assoc, h, Nat.mul_right_comm]

/-- **A product is the rounded product**, where that is between one and the end of the doubles. -/
theorem IsNormal.mul (hx : IsNormal x u) (hy : IsNormal y w)
    (hleast : 2 ^ 1074 * 2 ^ 1074 ≤ u * w)
    (hgreatest : u * w < (2 ^ 54 - 1) * 2 ^ 3118) :
    ∃ r, IsNormal (x * y) r ∧ r * 2 ^ 1074 = roundedNat (u * w) := by
  obtain ⟨m₁, e₁, hpos₁, hx, hlow₁, hhigh₁, hleast₁, hgreatest₁, rfl⟩ := hx
  obtain ⟨m₂, e₂, hpos₂, hy, hlow₂, hhigh₂, hleast₂, hgreatest₂, rfl⟩ := hy
  -- the exact product is a number of 104 bits or more and zeros behind it
  have hproduct : m₁ * 2 ^ (e₁ + 1074).toNat * (m₂ * 2 ^ (e₂ + 1074).toNat) =
      m₁ * m₂ * 2 ^ (e₁ + e₂ + 2148).toNat := by
    rw [Nat.mul_mul_mul_comm, ← Nat.pow_add]
    congr 2
    omega
  rw [hproduct] at hleast hgreatest ⊢
  have hlog : 104 ≤ (m₁ * m₂).log2 := by
    have hne : m₁ * m₂ ≠ 0 := Nat.ne_of_gt (Nat.mul_pos hpos₁ hpos₂)
    rw [Nat.le_log2 hne, show 104 = 52 + 52 from rfl, Nat.pow_add]
    exact Nat.mul_le_mul hlow₁ hlow₂
  have hscale : 0 ≤ ((m₁ * m₂).log2 : Int) + (e₁ + e₂) := by
    have hlt : 2 ^ 1074 * 2 ^ 1074 * 2 ^ 0 < 2 ^ ((m₁ * m₂).log2 + 1 + (e₁ + e₂ + 2148).toNat) := by
      rw [Nat.pow_add 2 ((m₁ * m₂).log2 + 1), Nat.pow_zero, Nat.mul_one]
      exact Nat.lt_of_le_of_lt hleast
        (Nat.mul_lt_mul_of_pos_right Nat.lt_log2_self (Nat.two_pow_pos _))
    have hexponents := lt_of_two_pow_mul_lt hlt
    omega
  have hrounded := roundedNat_mul_two_pow (n := m₁ * m₂) (by omega) (e₁ + e₂ + 2148).toNat
  obtain ⟨m, e, hpos, hround, hlow, hhigh, hle, hsmall, hvalue⟩ :=
    exists_roundWithAccuracy (.positive * .positive) (m := m₁ * m₂) (e := e₁ + e₂) (by omega)
      (by omega)
  have hunits : m * 2 ^ (e + 1074).toNat * 2 ^ 1074 =
      roundedNat (m₁ * m₂ * 2 ^ (e₁ + e₂ + 2148).toNat) := by
    rw [hrounded, ← hvalue, Nat.mul_assoc, Nat.mul_assoc, ← Nat.pow_add, ← Nat.pow_add]
    congr 2
    omega
  have hfits : e ≤ 971 := by
    have hbound : m * 2 ^ (e + 1074).toNat * 2 ^ 1074 < 2 ^ 3172 := by
      rw [hunits]
      exact Nat.lt_of_le_of_lt (roundedNat_mono (Nat.le_sub_one_of_lt hgreatest))
        (by decide +kernel)
    have hreach : 2 ^ 52 * 2 ^ (e + 1074).toNat * 2 ^ 1074 ≤ m * 2 ^ (e + 1074).toNat * 2 ^ 1074 :=
      Nat.mul_le_mul_right _ (Nat.mul_le_mul_right _ hlow)
    have hexponents := lt_of_two_pow_mul_lt (Nat.lt_of_le_of_lt hreach hbound)
    omega
  refine ⟨_, ⟨m, e, hpos, ?_, hlow, hhigh, hsmall, hfits, rfl⟩, hunits⟩
  have hmul : (x * y).toModel.unpack = (Float.Model.pack (UnpackedFloat.mul Format.binary64
      x.toModel.unpack y.toModel.unpack)).unpack := rfl
  rw [hmul, hx, hy, UnpackedFloat.mul, hround, unpack_pack _ hpos hlow hhigh hsmall hfits]
  rfl

/-! ## Natural numbers as doubles -/

theorem toUInt64_toNat (hn : n < 2 ^ 64) : n.toUInt64.toNat = n := Nat.mod_eq_of_lt hn

/-- A number of 53 bits at most is a double as it is. -/
theorem isNormal_toFloat (h0 : n ≠ 0) (hn : n < 2 ^ 53) :
    IsNormal n.toUInt64.toFloat (n * 2 ^ 1074) := by
  have hlog : n.log2 ≤ 52 := by
    have hlt := (Nat.log2_lt h0).2 hn
    omega
  have hlong : (n * 2 ^ (52 - n.log2)).log2 = 52 := by
    rw [log2_mul_two_pow h0]
    omega
  have hpos : 0 < n * 2 ^ (52 - n.log2) := Nat.mul_pos (Nat.pos_of_ne_zero h0) (Nat.two_pow_pos _)
  have hround : UnpackedFloat.ofNat Format.binary64 n =
      .finite .positive (n * 2 ^ (52 - n.log2)) (-((52 - n.log2 : Nat) : Int)) hpos := by
    have hcompare : compare (n : Int) 0 = .gt := by
      rw [Int.compare_eq_gt]
      omega
    have hshift : ((0 : Int) - max ((n.log2 : Int) + 0 - 52) (-1074)).toNat = 52 - n.log2 := by
      omega
    unfold UnpackedFloat.ofNat UnpackedFloat.ofInt UnpackedFloat.normalize
    rw [hcompare]
    dsimp only
    unfold UnpackedFloat.round decreaseExponent
    rw [Int.toNat_natCast, targetExponent_eq]
    dsimp only
    rw [hshift, Nat.shiftLeft_eq, Int.zero_sub]
    exact roundWithAccuracy_of_log2 _ hpos hlong (by omega)
  have hlow : 2 ^ 52 ≤ n * 2 ^ (52 - n.log2) := by
    have hle := Nat.log2_self_le (Nat.ne_of_gt hpos)
    rwa [hlong] at hle
  have hhigh : n * 2 ^ (52 - n.log2) < 2 ^ 53 := by
    have hlt := Nat.lt_log2_self (n := n * 2 ^ (52 - n.log2))
    rwa [hlong] at hlt
  have hleast : -1074 ≤ -((52 - n.log2 : Nat) : Int) := by omega
  have hgreatest : -((52 - n.log2 : Nat) : Int) ≤ 971 := by omega
  have hzeros : 1074 = 52 - n.log2 + (-((52 - n.log2 : Nat) : Int) + 1074).toNat := by omega
  refine ⟨_, _, hpos, ?_, hlow, hhigh, hleast, hgreatest, ?_⟩
  · have hbits : n.toUInt64.toFloat.toModel.unpack =
        (Float.Model.pack (UnpackedFloat.ofNat Format.binary64 n.toUInt64.toNat)).unpack := rfl
    rw [hbits, toUInt64_toNat (by omega), hround]
    exact unpack_pack _ hpos hlow hhigh hleast hgreatest
  · rw [Nat.mul_assoc, ← Nat.pow_add, ← hzeros]

/-- The units of a double that is positive and normal. -/
def normalUnits? (x : Float) : Option Nat :=
  match x.toModel.unpack with
  | .finite .positive m e _ =>
    if 2 ^ 52 ≤ m ∧ m < 2 ^ 53 ∧ -1074 ≤ e ∧ e ≤ 971 then some (m * 2 ^ (e + 1074).toNat) else none
  | _ => none

theorem isNormal_of_normalUnits? (h : normalUnits? x = some u) : IsNormal x u := by
  unfold normalUnits? at h
  split at h
  · rename_i m e hpos hx
    split at h
    · rename_i hnormal
      obtain ⟨hlow, hhigh, hleast, hgreatest⟩ := hnormal
      exact ⟨m, e, hpos, hx, hlow, hhigh, hleast, hgreatest, (Option.some.inj h).symm⟩
    · cases h
  · cases h

/-- A natural number of 53 bits at most is multiplied with one. -/
theorem isNormal_ofNat_of_small (h0 : n ≠ 0) (hsmall : n < 2 ^ 53) :
    IsNormal (Float.ofNat n) (roundedNat n * 2 ^ 1074) := by
  have hone : IsNormal (Float.exactlyRepresentablePowersOfTen[0]) (2 ^ 1074) :=
    isNormal_of_normalUnits? (by decide +kernel)
  have hofNat : Float.ofNat n =
      n.toUInt64.toFloat * Float.exactlyRepresentablePowersOfTen[0] := by
    have hscientific : Float.ofNat n = Float.ofScientific n false 0 := rfl
    rw [hscientific, Float.ofScientific, dif_pos ⟨hsmall, by decide⟩]
    rfl
  have hpos : 0 < n := Nat.pos_of_ne_zero h0
  have hlog : n.log2 ≤ 52 := Nat.le_of_lt_succ ((Nat.log2_lt h0).2 hsmall)
  have hproduct := mul_two_pow_two_pow n 1074 1074
  have hsquare : 0 < 2 ^ 1074 * 2 ^ 1074 := by decide +kernel
  obtain ⟨r, hr, hvalue⟩ := (isNormal_toFloat h0 hsmall).mul hone
    (by
      rw [Nat.mul_assoc]
      exact Nat.le_mul_of_pos_left _ hpos)
    (by
      rw [Nat.mul_assoc]
      exact Nat.lt_trans (Nat.mul_lt_mul_of_pos_right hsmall hsquare) (by decide +kernel))
  rw [hofNat, roundedNat_of_log2_le hlog]
  rw [hproduct, roundedNat_of_short hsmall, ← hproduct] at hvalue
  rwa [eq_of_mul_two_pow_eq hvalue] at hr

/-- A greater one is rounded. -/
theorem isNormal_ofNat_of_large (hlarge : 2 ^ 53 ≤ n) (hn : n < 2 ^ 64) :
    IsNormal (Float.ofNat n) (roundedNat n * 2 ^ 1074) := by
  have h0 : n ≠ 0 := Nat.ne_of_gt (Nat.lt_of_lt_of_le (Nat.two_pow_pos 53) hlarge)
  have hlog : 53 ≤ n.log2 := (Nat.le_log2 h0).2 hlarge
  have hlog' : n.log2 < 64 := (Nat.log2_lt h0).2 hn
  have hlong : (n * 2 ^ 53).log2 = n.log2 + 53 := log2_mul_two_pow h0 53
  obtain ⟨m, e, hpos, hround, hlow, hhigh, hle, hsmall, hvalue⟩ :=
    exists_roundWithAccuracy (.positive * .positive) (m := n * 2 ^ 53) (e := -53) (by omega)
      (by omega)
  rw [roundedNat_mul_two_pow (by omega)] at hvalue
  have hscientific : UnpackedFloat.ofScientific Format.binary64 n 0 =
      roundWithAccuracy Format.binary64 (.positive * .positive) (n * 2 ^ 53) (-53) .exact := by
    have hsafe : ¬ (0 : Int) < -((2 ^ 11 : Int) + (n.log2 : Int)) := by omega
    rw [UnpackedFloat.ofScientific, dif_neg h0, if_neg (by decide), if_neg hsafe,
      if_pos (Int.le_refl 0), UnpackedFloat.mul]
    have hmantissa : n <<< Format.binary64.mantissaBits * 10 ^ (0 : Int).toNat = n * 2 ^ 53 := by
      rw [Nat.shiftLeft_eq]
      exact Nat.mul_one _
    rw [hmantissa]
    rfl
  have hofNat : (Float.ofNat n).toModel.unpack =
      (Float.Model.pack (.finite .positive m e hpos)).unpack := by
    have hslow : Float.ofNat n = Float.ofModel (Float.Model.ofScientific n 0) := by
      have hunfold : Float.ofNat n = Float.ofScientific n false 0 := rfl
      rw [hunfold, Float.ofScientific, dif_neg (fun h => Nat.not_lt.2 hlarge h.1)]
      rfl
    rw [hslow, Float.Model.ofScientific, hscientific, hround]
    rfl
  have hunits : m * 2 ^ (e + 1074).toNat = roundedNat n * 2 ^ 1074 :=
    mul_two_pow_eq hvalue (by omega)
  have hfits : e ≤ 971 := by
    have hbound := Nat.mul_le_mul_right (2 ^ (e - -53).toNat) hlow
    rw [hvalue] at hbound
    have hexponents := le_of_two_pow_mul_le
      (Nat.le_trans hbound (Nat.mul_le_mul_right _ (roundedNat_le_two_pow n)))
    omega
  refine ⟨m, e, hpos, ?_, hlow, hhigh, hsmall, hfits, hunits.symm⟩
  rw [hofNat, unpack_pack _ hpos hlow hhigh hsmall hfits]

/-- **The double of a natural number is its rounded number.** -/
theorem isNormal_ofNat (h0 : n ≠ 0) (hn : n < 2 ^ 64) :
    IsNormal (Float.ofNat n) (roundedNat n * 2 ^ 1074) := by
  rcases Nat.lt_or_ge n (2 ^ 53) with hsmall | hlarge
  · exact isNormal_ofNat_of_small h0 hsmall
  · exact isNormal_ofNat_of_large hlarge hn

/-- A natural number times a double that is one at least is no infinity, where the rounded number
times the double is below the end of the doubles. -/
theorem isInf_ofNat_mul (h0 : n ≠ 0) (hn : n < 2 ^ 64) (hy : IsNormal y w) (hw : 2 ^ 1074 ≤ w)
    (hbound : roundedNat n * 2 ^ 1074 * w < (2 ^ 54 - 1) * 2 ^ 3118) :
    (Float.ofNat n * y).isInf = false := by
  have hpos : 0 < roundedNat n :=
    Nat.lt_of_lt_of_le (Nat.two_pow_pos _) (two_pow_log2_le_roundedNat h0)
  obtain ⟨r, hr, -⟩ := (isNormal_ofNat h0 hn).mul hy
    (Nat.mul_le_mul (Nat.le_mul_of_pos_left _ hpos) hw) hbound
  exact hr.isInf_eq_false

end SalesLedger.Decimal.Binary64

namespace SalesLedger.Json.Numeral

open Decimal.Binary64

/-! ## Scaled digits -/

/-- The greatest number of seventeen digits or so that stays, times a power of ten, three halves of
a unit below the end of the doubles. -/
def reach (e : Nat) : Nat :=
  min (10 ^ 17 + 1) ((2 ^ 1024 - 3 * 2 ^ 970) / 10 ^ e)

/-- Whether the greatest number may be scaled. -/
def isReached (e : Nat) : Bool :=
  (normalUnits? (power e)).any fun w =>
    2 ^ 1074 ≤ w ∧ roundedNat (reach e) * 2 ^ 1074 * w < (2 ^ 54 - 1) * 2 ^ 3118

theorem isReached_of_le {e : Nat} (he : e < 309) : isReached e = true := by
  have hall : (List.range 309).all isReached = true := by decide +kernel
  exact List.all_eq_true.1 hall e (List.mem_range.2 he)

theorem lt_of_ten_pow_lt {a b n : Nat} (h : 10 ^ a ≤ n) (hn : n < 10 ^ b) : a < b :=
  (Nat.pow_lt_pow_iff_right (by decide)).1 (Nat.lt_of_le_of_lt h hn)

/-- **Digits are scaled** as long as the exact number is three halves of a unit below the end of the
doubles. -/
theorem scale?_isSome {n e : Nat} (h0 : n ≠ 0) (hn : n ≤ 10 ^ 17 + 1)
    (h : n * 10 ^ e ≤ 2 ^ 1024 - 3 * 2 ^ 970) : (scale? n e).isSome = true := by
  have he : e < 309 := by
    have hpower := Nat.le_trans (Nat.le_mul_of_pos_left (10 ^ e) (Nat.pos_of_ne_zero h0)) h
    have hend : 2 ^ 1024 - 3 * 2 ^ 970 < 10 ^ 309 := by decide +kernel
    exact lt_of_ten_pow_lt hpower hend
  have hreach : n ≤ reach e := by
    refine Nat.le_min.2 ⟨hn, ?_⟩
    rwa [Nat.le_div_iff_mul_le (Nat.pow_pos (by decide))]
  obtain ⟨w, hw, hreached⟩ := (Option.any_eq_true _ _).1 (isReached_of_le he)
  obtain ⟨hone, hbound⟩ := of_decide_eq_true hreached
  have hfinite : (Float.ofNat n * power e).isInf = false := by
    refine isInf_ofNat_mul h0 (by omega) (isNormal_of_normalUnits? hw) hone ?_
    refine Nat.lt_of_le_of_lt ?_ hbound
    exact Nat.mul_le_mul_right _ (Nat.mul_le_mul_right _ (roundedNat_mono hreach))
  unfold scale?
  dsimp only
  rw [if_pos (by omega), if_pos (by omega), Int.toNat_natCast, hfinite]
  rfl

end SalesLedger.Json.Numeral
