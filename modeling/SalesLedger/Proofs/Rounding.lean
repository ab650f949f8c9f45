import Mathlib.Algebra.Group.Int.Defs
import Mathlib.Algebra.Group.Nat.Defs
import SalesLedger.Decimal.Binary64

/-!
# Whole numbers as doubles

The double nearest to a whole number (`rounded`) keeps the order, among whole numbers and between
them and doubles: what is exactly in order stays in order when its whole numbers are rounded.

* `halfEven_mono`, `roundedNat_mono`, `rounded_mono`: a lesser number is not rounded to a greater
  one.
* `roundedNat_of_short`: a number of 53 bits and zeros behind them is kept.
* `rounded_units_le`, `le_rounded_units`: a whole number on one side of a double is not rounded to
  its other side, because the whole numbers next to the double are kept.
* `units_eq_zero_iff`: the doubles that are zero.
* `eq_of_units`: the others are told apart by their units.
-/

namespace SalesLedger.Decimal.Binary64

/-! ## Half to even -/

theorem le_halfEven (n s : Nat) : n / 2 ^ s ≤ halfEven n s := by
  unfold halfEven
  rw [Nat.shiftRight_eq_div_pow]
  dsimp only
  split
  · exact Nat.le_refl _
  · split <;> omega

theorem halfEven_le (n s : Nat) : halfEven n s ≤ n / 2 ^ s + 1 := by
  unfold halfEven
  rw [Nat.shiftRight_eq_div_pow]
  dsimp only
  split
  · exact Nat.le_succ _
  · split <;> omega

theorem halfEven_mono {m n : Nat} (h : m ≤ n) (s : Nat) : halfEven m s ≤ halfEven n s := by
  have hquotient : m / 2 ^ s ≤ n / 2 ^ s := Nat.div_le_div_right h
  rcases Nat.lt_or_eq_of_le hquotient with hlt | heq
  · have hm := halfEven_le m s
    have hn := le_halfEven n s
    omega
  · -- with one quotient the rests decide
    have hm := Nat.div_add_mod m (2 ^ s)
    have hn := Nat.div_add_mod n (2 ^ s)
    have hrest : m % 2 ^ s ≤ n % 2 ^ s := by
      rw [heq] at hm
      omega
    unfold halfEven
    rw [Nat.shiftRight_eq_div_pow, Nat.shiftRight_eq_div_pow, heq, Nat.one_shiftLeft]
    dsimp only
    split <;> split <;> (try split) <;> (try split) <;> omega

theorem halfEven_mul_two_pow (m s : Nat) : halfEven (m * 2 ^ s) s = m := by
  have hpos : 0 < 2 ^ s := Nat.two_pow_pos s
  unfold halfEven
  rw [Nat.shiftRight_eq_div_pow, Nat.mul_div_cancel m hpos, Nat.one_shiftLeft, Nat.mul_mod_left]
  dsimp only
  rcases Nat.eq_zero_or_pos s with hs | hs
  · rw [if_pos (.inl hs)]
  · have hhalf : 0 < 2 ^ s / 2 := by
      have htwo : 2 ^ 1 ≤ 2 ^ s := Nat.pow_le_pow_right (by decide) hs
      omega
    rw [if_pos (.inr hhalf)]

/-! ## Natural numbers -/

theorem roundedNat_eq (n : Nat) :
    roundedNat n = halfEven n (spareBits n) * 2 ^ spareBits n := by
  rw [roundedNat, Nat.shiftLeft_eq]

/-- A number that fits 53 bits is kept. -/
theorem roundedNat_of_log2_le {n : Nat} (h : n.log2 ≤ 52) : roundedNat n = n := by
  have hspare : spareBits n = 0 := Nat.sub_eq_zero_of_le h
  have hkept := halfEven_mul_two_pow n 0
  rw [Nat.pow_zero, Nat.mul_one] at hkept
  rw [roundedNat_eq, hspare, hkept, Nat.pow_zero, Nat.mul_one]

theorem two_pow_log2_le_roundedNat {n : Nat} (h : n ≠ 0) : 2 ^ n.log2 ≤ roundedNat n := by
  have hlow := Nat.log2_self_le h
  rcases Nat.lt_or_ge 52 n.log2 with hlong | hshort
  · have hsplit : 2 ^ n.log2 = 2 ^ 52 * 2 ^ spareBits n := by
      rw [← Nat.pow_add, spareBits]
      congr 1
      omega
    have hquotient : 2 ^ 52 ≤ n / 2 ^ spareBits n := by
      rw [Nat.le_div_iff_mul_le (Nat.two_pow_pos _), ← hsplit]
      exact hlow
    rw [hsplit, roundedNat_eq]
    exact Nat.mul_le_mul_right _ (Nat.le_trans hquotient (le_halfEven n _))
  · rw [roundedNat_of_log2_le hshort]
    exact hlow

theorem roundedNat_le_two_pow (n : Nat) : roundedNat n ≤ 2 ^ (n.log2 + 1) := by
  have hhigh : n < 2 ^ (n.log2 + 1) := Nat.lt_log2_self
  rcases Nat.lt_or_ge 52 n.log2 with hlong | hshort
  · have hsplit : 2 ^ (n.log2 + 1) = 2 ^ 53 * 2 ^ spareBits n := by
      rw [← Nat.pow_add, spareBits]
      congr 1
      omega
    have hquotient : n / 2 ^ spareBits n < 2 ^ 53 := by
      rw [Nat.div_lt_iff_lt_mul (Nat.two_pow_pos _), ← hsplit]
      exact hhigh
    rw [hsplit, roundedNat_eq]
    exact Nat.mul_le_mul_right _ (Nat.le_trans (halfEven_le n _) hquotient)
  · rw [roundedNat_of_log2_le hshort]
    exact Nat.le_of_lt hhigh

/-- **Rounding keeps the order of natural numbers.** With as many bits they are rounded at the same
place; otherwise a power of two is between them. -/
theorem roundedNat_mono {m n : Nat} (h : m ≤ n) : roundedNat m ≤ roundedNat n := by
  rcases Nat.eq_zero_or_pos m with rfl | hpos
  · rw [roundedNat_of_log2_le (by decide)]
    exact Nat.zero_le _
  have hne : n ≠ 0 := by omega
  have hlog : m.log2 ≤ n.log2 := by
    rw [Nat.le_log2 hne]
    exact Nat.le_trans (Nat.log2_self_le (by omega)) h
  rcases Nat.lt_or_eq_of_le hlog with hlt | heq
  · calc roundedNat m ≤ 2 ^ (m.log2 + 1) := roundedNat_le_two_pow m
      _ ≤ 2 ^ n.log2 := Nat.pow_le_pow_right (by decide) hlt
      _ ≤ roundedNat n := two_pow_log2_le_roundedNat hne
  · have hspare : spareBits m = spareBits n := congrArg (· - 52) heq
    rw [roundedNat_eq, roundedNat_eq, hspare]
    exact Nat.mul_le_mul_right _ (halfEven_mono h _)

/-- A number of 53 bits with zeros behind them is kept. -/
theorem roundedNat_of_short {m : Nat} (h : m < 2 ^ 53) (s : Nat) :
    roundedNat (m * 2 ^ s) = m * 2 ^ s := by
  rcases Nat.eq_zero_or_pos m with rfl | hpos
  · rw [Nat.zero_mul]
    exact roundedNat_of_log2_le (by decide)
  have hbits : (m * 2 ^ s).log2 < 53 + s := by
    have hne : m * 2 ^ s ≠ 0 := Nat.ne_of_gt (Nat.mul_pos hpos (Nat.two_pow_pos s))
    rw [Nat.log2_lt hne, Nat.pow_add]
    exact Nat.mul_lt_mul_of_pos_right h (Nat.two_pow_pos s)
  have hspare : spareBits (m * 2 ^ s) ≤ s := by
    unfold spareBits
    omega
  -- the bits that there is no room for are among the zeros
  have hsplit : m * 2 ^ s =
      m * 2 ^ (s - spareBits (m * 2 ^ s)) * 2 ^ spareBits (m * 2 ^ s) := by
    rw [Nat.mul_assoc, ← Nat.pow_add, Nat.sub_add_cancel hspare]
  rw [roundedNat_eq]
  generalize spareBits (m * 2 ^ s) = spare at hsplit ⊢
  rw [hsplit, halfEven_mul_two_pow]

/-! ## Whole numbers -/

theorem rounded_natCast (n : Nat) : rounded n = roundedNat n := by
  rw [rounded, if_neg (by omega), Int.natAbs_natCast]

theorem rounded_neg (n : Int) : rounded (-n) = -rounded n := by
  unfold rounded
  rw [Int.natAbs_neg]
  rcases Int.lt_trichotomy n 0 with hneg | rfl | hpos
  · rw [if_neg (by omega), if_pos hneg, Int.neg_neg]
  · decide
  · rw [if_pos (by omega), if_neg (by omega)]

theorem rounded_mono {m n : Int} (h : m ≤ n) : rounded m ≤ rounded n := by
  have hnonneg : ∀ {a b : Int}, 0 ≤ a → a ≤ b → rounded a ≤ rounded b := by
    intro a b ha hab
    obtain ⟨a, rfl⟩ := Int.eq_ofNat_of_zero_le ha
    obtain ⟨b, rfl⟩ := Int.eq_ofNat_of_zero_le (Int.le_trans ha hab)
    rw [rounded_natCast, rounded_natCast]
    have hmono := roundedNat_mono (Int.ofNat_le.1 hab)
    omega
  have hzero : rounded 0 = 0 := by decide
  rcases Int.le_total 0 m with hm | hm
  · exact hnonneg hm h
  · rcases Int.le_total 0 n with hn | hn
    · have hm' := hnonneg (Int.le_refl 0) (Int.neg_nonneg_of_nonpos hm)
      have hn' := hnonneg (Int.le_refl 0) hn
      rw [rounded_neg] at hm'
      omega
    · have hneg := hnonneg (Int.neg_nonneg_of_nonpos hn) (Int.neg_le_neg h)
      rw [rounded_neg, rounded_neg] at hneg
      omega

/-- A whole number of at most 2^53 is kept. -/
theorem rounded_of_small {n : Int} (h : n.natAbs ≤ 2 ^ 53) : rounded n = n := by
  have hkept : roundedNat n.natAbs = n.natAbs := by
    rcases Nat.lt_or_eq_of_le h with hlt | heq
    · have hshort := roundedNat_of_short hlt 0
      rwa [Nat.pow_zero, Nat.mul_one] at hshort
    · rw [heq]
      exact roundedNat_of_short (by decide : 1 < 2 ^ 53) 53
  unfold rounded
  rw [hkept]
  split <;> omega

/-! ## Doubles -/

/-- Units that are 53 bits with zeros behind them, with a sign: those of a double. -/
def IsShort (u : Int) : Prop :=
  ∃ m k : Nat, m < 2 ^ 53 ∧ u.natAbs = m * 2 ^ k

theorem IsShort.neg {u : Int} (h : IsShort u) : IsShort (-u) := by
  obtain ⟨m, k, hm, hu⟩ := h
  exact ⟨m, k, hm, by rw [Int.natAbs_neg, hu]⟩

theorem significand_lt (x : Float) : (parts x).significand < 2 ^ 53 := by
  have hfraction : x.toBits.toNat % leadingBit < leadingBit :=
    Nat.mod_lt _ (by decide : 0 < leadingBit)
  have hbit : leadingBit = 2 ^ 52 := by decide
  unfold parts
  dsimp only
  generalize x.toBits.toNat % leadingBit = fraction at hfraction ⊢
  split <;> omega

theorem isShort_units (x : Float) : IsShort (units x) := by
  refine ⟨(parts x).significand, ((parts x).exponent + 1074).toNat, significand_lt x, ?_⟩
  unfold units
  rw [← Nat.shiftLeft_eq]
  dsimp only
  split
  · rw [Int.natAbs_neg, Int.natAbs_natCast]
  · rw [Int.natAbs_natCast]

theorem exists_unitsOfOne_eq : ∃ e, unitsOfOne = 2 ^ e := by
  have hshift : ∀ k, ∃ e, 1 <<< k = 2 ^ e := fun k => ⟨k, Nat.one_shiftLeft k⟩
  exact hshift _

/-- **The whole number below a double is kept**: it is small, or the double itself. -/
theorem rounded_floor {u : Int} (h : IsShort u) : rounded (u / unitsOfOne) = u / unitsOfOne := by
  obtain ⟨m, k, hm, hu⟩ := h
  obtain ⟨e, he⟩ := exists_unitsOfOne_eq
  have hpos : (0 : Int) < unitsOfOne := Int.natCast_pos.2 unitsOfOne_pos
  rcases Nat.lt_or_ge k e with hk | hk
  · have hsmall : u.natAbs < 2 ^ 53 * unitsOfOne := by
      rw [hu, he]
      exact Nat.lt_of_lt_of_le (Nat.mul_lt_mul_of_pos_right hm (Nat.two_pow_pos k))
        (Nat.mul_le_mul_left _ (Nat.pow_le_pow_right (by decide) (Nat.le_of_lt hk)))
    generalize unitsOfOne = one at hpos hsmall
    have hlow : -(2 ^ 53 : Int) ≤ u / one := by
      rw [Int.le_ediv_iff_mul_le hpos]
      omega
    have hhigh : u / one < (2 ^ 53 : Int) := by
      rw [Int.ediv_lt_iff_lt_mul hpos]
      omega
    exact rounded_of_small (by omega)
  · have hwhole : u.natAbs = m * 2 ^ (k - e) * unitsOfOne := by
      rw [hu, he, Nat.mul_assoc, ← Nat.pow_add, Nat.sub_add_cancel hk]
    have hkept := roundedNat_of_short hm (k - e)
    generalize m * 2 ^ (k - e) = whole at hwhole hkept
    have hsigned : u = whole * unitsOfOne ∨ u = -(whole : Int) * unitsOfOne := by
      rw [Int.neg_mul, ← Int.natCast_mul, ← hwhole]
      omega
    have hne : (unitsOfOne : Int) ≠ 0 := Int.ne_of_gt hpos
    rcases hsigned with rfl | rfl
    · rw [Int.mul_ediv_cancel _ hne, rounded_natCast, hkept]
    · rw [Int.mul_ediv_cancel _ hne, rounded_neg, rounded_natCast, hkept]

/-- **A whole number below a double is not rounded above it.** -/
theorem rounded_units_le {n u : Int} (hu : IsShort u) (h : unitsOfInt n ≤ u) :
    unitsOfInt (rounded n) ≤ u := by
  have hpos : (0 : Int) < unitsOfOne := Int.natCast_pos.2 unitsOfOne_pos
  have hfloor : n ≤ u / unitsOfOne := (Int.le_ediv_iff_mul_le hpos).2 h
  have hrounded : rounded n ≤ u / unitsOfOne := by
    rw [← rounded_floor hu]
    exact rounded_mono hfloor
  exact (Int.le_ediv_iff_mul_le hpos).1 hrounded

/-- **A whole number above a double is not rounded below it.** -/
theorem le_rounded_units {n u : Int} (hu : IsShort u) (h : u ≤ unitsOfInt n) :
    u ≤ unitsOfInt (rounded n) := by
  have hneg : unitsOfInt (-n) ≤ -u := by
    unfold unitsOfInt at h ⊢
    rw [Int.neg_mul]
    omega
  have hrounded := rounded_units_le hu.neg hneg
  unfold unitsOfInt at hrounded ⊢
  rw [rounded_neg, Int.neg_mul] at hrounded
  omega

/-! ## Zeros -/

theorem eq_of_toBits {x y : Float} (h : x.toBits = y.toBits) : x = y := by
  obtain ⟨⟨a, ha⟩⟩ := x
  obtain ⟨⟨b, hb⟩⟩ := y
  obtain rfl : a = b := h
  rfl

/-- **There are two zeros**, and no other double is zero. -/
theorem units_eq_zero_iff {x : Float} : units x = 0 ↔ x = 0 ∨ x = -0.0 := by
  constructor
  · intro h
    have hbound := x.toBits.toNat_lt
    have hsignificand : (parts x).significand = 0 := by
      unfold units at h
      dsimp only at h
      have hmagnitude : (parts x).significand <<< ((parts x).exponent + 1074).toNat = 0 := by
        split at h <;> omega
      rw [Nat.shiftLeft_eq, Nat.mul_eq_zero] at hmagnitude
      exact hmagnitude.resolve_right (Nat.ne_of_gt (Nat.two_pow_pos _))
    have hbits : x.toBits.toNat = 0 ∨ x.toBits.toNat = 0x8000000000000000 := by
      unfold parts leadingBit at hsignificand
      dsimp only at hsignificand
      split at hsignificand <;> omega
    rcases hbits with hbits | hbits
    · exact .inl (eq_of_toBits (UInt64.toNat_inj.1 (hbits.trans (by decide))))
    · exact .inr (eq_of_toBits (UInt64.toNat_inj.1 (hbits.trans (by decide +kernel))))
  · rintro (rfl | rfl) <;> decide +kernel

/-! ## Other doubles -/

/-- The magnitude that an exponent and a fraction spell. -/
def magnitudeOf (biased fraction : Nat) : Nat :=
  if biased = 0 then fraction else (2 ^ 52 + fraction) * 2 ^ (biased - 1)

theorem magnitudeOf_lt {b b' f : Nat} (h : b < b') (hf : f < 2 ^ 52) (f' : Nat) :
    magnitudeOf b f < magnitudeOf b' f' := by
  have hnext : 2 ^ 52 * 2 ^ (b' - 1) ≤ magnitudeOf b' f' := by
    rw [magnitudeOf, if_neg (by omega)]
    exact Nat.mul_le_mul_right _ (Nat.le_add_right _ _)
  refine Nat.lt_of_lt_of_le ?_ hnext
  unfold magnitudeOf
  split
  · calc f < 2 ^ 52 * 1 := by omega
      _ ≤ 2 ^ 52 * 2 ^ (b' - 1) := Nat.mul_le_mul_left _ (Nat.two_pow_pos _)
  · calc (2 ^ 52 + f) * 2 ^ (b - 1) < 2 ^ 52 * 2 * 2 ^ (b - 1) :=
          Nat.mul_lt_mul_of_pos_right (by omega) (Nat.two_pow_pos _)
      _ = 2 ^ 52 * 2 ^ b := by
          rw [Nat.mul_assoc, Nat.mul_comm 2, ← Nat.pow_succ]
          congr 2
          omega
      _ ≤ 2 ^ 52 * 2 ^ (b' - 1) :=
          Nat.mul_le_mul_left _ (Nat.pow_le_pow_right (by decide) (by omega))

theorem magnitudeOf_inj {b b' f f' : Nat} (hf : f < 2 ^ 52) (hf' : f' < 2 ^ 52)
    (h : magnitudeOf b f = magnitudeOf b' f') : b = b' ∧ f = f' := by
  obtain rfl : b = b' := by
    rcases Nat.lt_trichotomy b b' with hlt | heq | hgt
    · have hless := magnitudeOf_lt hlt hf f'
      omega
    · exact heq
    · have hless := magnitudeOf_lt hgt hf' f
      omega
  refine ⟨rfl, ?_⟩
  unfold magnitudeOf at h
  split at h
  · exact h
  · have hcancel := Nat.eq_of_mul_eq_mul_right (Nat.two_pow_pos _) h
    omega

theorem units_eq_magnitudeOf (x : Float) : units x =
    if 0x8000000000000000 ≤ x.toBits.toNat then
      -(magnitudeOf (x.toBits.toNat / 2 ^ 52 % 2048) (x.toBits.toNat % 2 ^ 52) : Int)
    else magnitudeOf (x.toBits.toNat / 2 ^ 52 % 2048) (x.toBits.toNat % 2 ^ 52) := by
  have hbit : leadingBit = 2 ^ 52 := by decide
  have hmagnitude : (parts x).significand <<< ((parts x).exponent + 1074).toNat =
      magnitudeOf (x.toBits.toNat / 2 ^ 52 % 2048) (x.toBits.toNat % 2 ^ 52) := by
    unfold parts magnitudeOf
    rw [hbit, Nat.shiftLeft_eq]
    dsimp only
    split
    · exact Nat.mul_one _
    · congr 2
      omega
  unfold units
  dsimp only
  rw [hmagnitude]
  simp only [parts, decide_eq_true_eq]

/-- **Doubles other than the zeros are told apart by their units.** -/
theorem eq_of_units {x y : Float} (h : units x = units y) (hne : units x ≠ 0) : x = y := by
  refine eq_of_toBits (UInt64.toNat_inj.1 ?_)
  have hx := x.toBits.toNat_lt
  have hy := y.toBits.toNat_lt
  rw [units_eq_magnitudeOf x] at hne
  rw [units_eq_magnitudeOf x, units_eq_magnitudeOf y] at h
  generalize x.toBits.toNat = a at *
  generalize y.toBits.toNat = b at *
  have hmagnitude : magnitudeOf (a / 2 ^ 52 % 2048) (a % 2 ^ 52) =
      magnitudeOf (b / 2 ^ 52 % 2048) (b % 2 ^ 52) := by
    split at h <;> split at h <;> omega
  have hsign : 0x8000000000000000 ≤ a ↔ 0x8000000000000000 ≤ b := by
    split at h <;> split at h <;> split at hne <;> omega
  obtain ⟨hexponent, hfraction⟩ := magnitudeOf_inj (Nat.mod_lt _ (by decide))
    (Nat.mod_lt _ (by decide)) hmagnitude
  omega

theorem not_isNaN_of_isFinite {x : Float} (h : x.isFinite = true) : x.isNaN = false := by
  unfold Float.isFinite Float.Model.isFinite at h
  unfold Float.isNaN Float.Model.isNaN
  cases hx : x.toModel.unpack with
  | notANumber =>
    rw [hx] at h
    cases h
  | _ => rfl

end SalesLedger.Decimal.Binary64
