import SalesLedger.Decimal.Shortest
import SalesLedger.Proofs.Rounding

/-!
# How large shortest decimals are

The shortest decimal of a double has seventeen digits or so, `digits_ofFloat_le`, and lies within the
span of the double. So it is three halves of a unit below the end of the doubles, but for the
greatest double, whose decimal is known: `ofFloat_le`.
-/

namespace SalesLedger.Decimal.Shortest

variable {x : Float} {s : Span} {d d' : Scientific} {n : Nat} {k : Int}

/-! ## Digits -/

theorem lt_pow_digitCount (n : Nat) : n < 10 ^ digitCount n :=
  (Nat.length_toDigits_le_iff (by decide) Nat.length_toDigits_pos).1 (Nat.le_refl _)

theorem pow_digitCount_le (h : n ≠ 0) : 10 ^ (digitCount n - 1) ≤ n := by
  rcases Nat.eq_zero_or_pos (digitCount n - 1) with hone | hmore
  · rw [hone]
    exact Nat.pos_of_ne_zero h
  · refine Nat.not_lt.1 fun hlt => ?_
    have hle := (Nat.length_toDigits_le_iff (by decide) hmore).2 hlt
    unfold digitCount at hle hmore
    omega

/-! ## The grid -/

/-- The double is so many units of the span's power of two, counted up or down. -/
def Span.top (s : Span) : Nat := s.value * 2 ^ s.exponent.toNat

def Span.unit (s : Span) : Nat := 2 ^ (-s.exponent).toNat

theorem Span.scale_eq (s : Span) (k : Int) :
    s.scale k = (10 ^ (-k).toNat * 2 ^ s.exponent.toNat, 10 ^ k.toNat * s.unit) := by
  rw [Span.scale, Nat.shiftLeft_eq, Nat.shiftLeft_eq]
  rfl

theorem Span.unit_pos (s : Span) : 0 < s.unit := Nat.two_pow_pos _

/-- The multiple of a power of ten just below the double. -/
def Span.below (s : Span) (k : Int) : Nat :=
  s.top * 10 ^ (-k).toNat / (10 ^ k.toNat * s.unit)

/-- **What is found on the grid** is next to the double and reads back as it. -/
theorem onGrid?_eq_some (h : s.onGrid? k = some d) :
    d.exponent = k ∧ s.contains k d.digits = true ∧ d.digits ≤ s.below k + 1 := by
  have hbelow : s.value * (s.scale k).1 / (s.scale k).2 = s.below k := by
    rw [Span.scale_eq, Span.below, Span.top, Nat.mul_left_comm, Nat.mul_comm (10 ^ _)]
  unfold Span.onGrid? at h
  generalize hscale : s.scale k = scale at h hbelow
  obtain ⟨up, unit⟩ := scale
  dsimp only at h hbelow
  rw [hbelow] at h
  split at h
  · rename_i hthis hnext
    split at h
    · cases h
      exact ⟨rfl, hthis, Nat.le_succ _⟩
    · cases h
      exact ⟨rfl, hnext, Nat.le_refl _⟩
  · rename_i hthis hnext
    cases h
    exact ⟨rfl, hthis, Nat.le_succ _⟩
  · rename_i hthis hnext
    cases h
    exact ⟨rfl, hnext, Nat.le_refl _⟩
  · cases h

theorem Span.magnitude_eq (s : Span) : s.magnitude =
    if s.unit ≤ s.top then (digitCount (s.top / s.unit) : Int)
    else 1 - (digitCount (s.unit / s.top) : Int) := by
  have hscale : s.scale 0 = (2 ^ s.exponent.toNat, s.unit) := by
    rw [Span.scale_eq]
    exact congrArg₂ Prod.mk (Nat.one_mul _) (Nat.one_mul _)
  unfold Span.magnitude
  rw [hscale]
  rfl

/-- **The grid `n` digits below the magnitude** has `n` digits for the double. -/
theorem Span.below_magnitude_le (h : s.value ≠ 0) (n : Nat) :
    s.below (s.magnitude - n) ≤ 10 ^ n := by
  have hpos : 0 < s.top := Nat.mul_pos (Nat.pos_of_ne_zero h) (Nat.two_pow_pos _)
  refine Nat.div_le_of_le_mul ?_
  rw [Span.magnitude_eq]
  split
  · have hlt := (Nat.div_lt_iff_lt_mul s.unit_pos).1 (lt_pow_digitCount (s.top / s.unit))
    generalize digitCount (s.top / s.unit) = p at hlt
    have hexponents : p + (-((p : Int) - n)).toNat = ((p : Int) - n).toNat + n := by omega
    calc s.top * 10 ^ (-((p : Int) - n)).toNat
        ≤ 10 ^ p * s.unit * 10 ^ (-((p : Int) - n)).toNat :=
          Nat.mul_le_mul_right _ (Nat.le_of_lt hlt)
      _ = 10 ^ (p + (-((p : Int) - n)).toNat) * s.unit := by
          rw [Nat.pow_add, Nat.mul_right_comm]
      _ = 10 ^ ((p : Int) - n).toNat * s.unit * 10 ^ n := by
          rw [hexponents, Nat.pow_add, Nat.mul_right_comm]
  · rename_i hless
    have hne : s.unit / s.top ≠ 0 :=
      Nat.ne_of_gt (Nat.div_pos (Nat.le_of_lt (Nat.not_le.1 hless)) hpos)
    have hle := (Nat.le_div_iff_mul_le hpos).1 (pow_digitCount_le hne)
    have hcount : 0 < digitCount (s.unit / s.top) := Nat.length_toDigits_pos
    generalize digitCount (s.unit / s.top) = c at hle hcount
    have hdown : (-(1 - (c : Int) - n)).toNat = c - 1 + n := by omega
    have hup : (1 - (c : Int) - n).toNat = 0 := by omega
    rw [hdown, hup, Nat.pow_zero, Nat.one_mul]
    calc s.top * 10 ^ (c - 1 + n) = 10 ^ (c - 1) * s.top * 10 ^ n := by
          rw [Nat.pow_add, ← Nat.mul_assoc, Nat.mul_comm s.top]
      _ ≤ s.unit * 10 ^ n := Nat.mul_le_mul_right _ hle

/-! ## Zeros at the end -/

/-- Zeros are taken from the digits to the exponent. -/
theorem dropZeros_eq (fuel : Nat) (d : Scientific) :
    ∃ k : Nat, (dropZeros fuel d).exponent = d.exponent + k ∧
      d.digits = (dropZeros fuel d).digits * 10 ^ k := by
  induction fuel generalizing d with
  | zero => exact ⟨0, (Int.add_zero _).symm, (Nat.mul_one _).symm⟩
  | succ fuel ih =>
    rw [dropZeros]
    split
    · rename_i hzero
      obtain ⟨k, hexponent, hdigits⟩ := ih ⟨d.digits / 10, d.exponent + 1⟩
      dsimp only at hexponent hdigits
      have hten : d.digits % 10 = 0 := by
        rw [Bool.and_eq_true] at hzero
        exact eq_of_beq hzero.1
      refine ⟨k + 1, by omega, ?_⟩
      rw [Nat.pow_succ, ← Nat.mul_assoc, ← hdigits]
      omega
    · exact ⟨0, (Int.add_zero _).symm, (Nat.mul_one _).symm⟩

/-- **How a shortest decimal is found**: on one of seventeen grids, or it is zero. -/
theorem ofFloat_eq (x : Float) : ofFloat x = ⟨0, 0⟩ ∨
    ∃ n d, n < 17 ∧ (Span.of x).value ≠ 0 ∧
      (Span.of x).onGrid? ((Span.of x).magnitude - (n + 1 : Nat)) = some d ∧
      ofFloat x = dropZeros 17 d := by
  unfold ofFloat
  dsimp only
  split
  · exact .inl rfl
  · rename_i hvalue
    split
    · rename_i d hfound
      obtain ⟨n, hn, hgrid⟩ := List.exists_of_findSome?_eq_some hfound
      exact .inr ⟨n, d, List.mem_range.1 hn, fun h => hvalue (beq_iff_eq.2 h), hgrid, rfl⟩
    · exact .inl rfl

/-- **Shortest decimals have seventeen digits**, or are the next number. -/
theorem digits_ofFloat_le (x : Float) : (ofFloat x).digits ≤ 10 ^ 17 + 1 := by
  obtain hzero | ⟨n, d, hn, hvalue, hgrid, hx⟩ := ofFloat_eq x
  · rw [hzero]
    exact Nat.zero_le _
  · obtain ⟨-, -, hdigits⟩ := onGrid?_eq_some hgrid
    obtain ⟨k, -, hdropped⟩ := dropZeros_eq 17 d
    have hbelow := Span.below_magnitude_le hvalue (n + 1)
    have hpower : 10 ^ (n + 1) ≤ 10 ^ 17 := Nat.pow_le_pow_right (by decide) hn
    have hfewer : (dropZeros 17 d).digits ≤ d.digits := by
      rw [hdropped]
      exact Nat.le_mul_of_pos_right _ (Nat.pow_pos (by decide))
    rw [hx]
    omega

/-! ## The end of the doubles -/

/-- What reads back as a double is at most the end of its span. -/
theorem le_of_contains (h : s.contains k n = true) :
    n * (10 ^ k.toNat * s.unit) ≤ s.high * (10 ^ (-k).toNat * 2 ^ s.exponent.toNat) := by
  unfold Span.contains at h
  rw [Span.scale_eq] at h
  dsimp only at h
  split at h
  · simp only [Bool.and_eq_true, decide_eq_true_eq] at h
    exact h.2
  · simp only [Bool.and_eq_true, decide_eq_true_eq] at h
    exact Nat.le_of_lt h.2

/-- Zero does not read back as another double. -/
theorem ne_zero_of_contains (hvalue : (Span.of x).value ≠ 0)
    (h : (Span.of x).contains k n = true) : n ≠ 0 := by
  rintro rfl
  have hlow : 0 < (Span.of x).low := by
    unfold Span.of at hvalue ⊢
    dsimp only at hvalue ⊢
    split <;> omega
  unfold Span.contains at h
  rw [Span.scale_eq] at h
  dsimp only at h
  have hpos : 0 < (Span.of x).low * (10 ^ (-k).toNat * 2 ^ (Span.of x).exponent.toNat) :=
    Nat.mul_pos hlow (Nat.mul_pos (Nat.pow_pos (by decide)) (Nat.two_pow_pos _))
  split at h
  · simp only [Nat.zero_mul, Bool.and_eq_true, decide_eq_true_eq] at h
    exact Nat.not_le.2 hpos h.1
  · simp only [Nat.zero_mul, Bool.and_eq_true, decide_eq_true_eq] at h
    exact absurd h.1 (Nat.not_lt_zero _)

theorem ofFloat_eq_of_digits (h : (ofFloat x).digits = 0) : ofFloat x = ⟨0, 0⟩ := by
  obtain hzero | ⟨n, d, -, hvalue, hgrid, hx⟩ := ofFloat_eq x
  · exact hzero
  · obtain ⟨-, hcontains, -⟩ := onGrid?_eq_some hgrid
    obtain ⟨k, -, hdigits⟩ := dropZeros_eq 17 d
    rw [← hx, h, Nat.zero_mul] at hdigits
    exact absurd hdigits (ne_zero_of_contains hvalue hcontains)

/-- A shortest decimal without places behind the point is at most the end of the span. -/
theorem ofFloat_le_high (h : 0 ≤ (ofFloat x).exponent) :
    (ofFloat x).digits * 10 ^ (ofFloat x).exponent.toNat * (Span.of x).unit ≤
      (Span.of x).high * 2 ^ (Span.of x).exponent.toNat := by
  obtain hzero | ⟨n, d, -, -, hgrid, hx⟩ := ofFloat_eq x
  · rw [hzero, Nat.zero_mul, Nat.zero_mul]
    exact Nat.zero_le _
  · obtain ⟨hk, hcontains, -⟩ := onGrid?_eq_some hgrid
    obtain ⟨k, hexponent, hdigits⟩ := dropZeros_eq 17 d
    rw [← hk] at hcontains
    have hle := le_of_contains hcontains
    rw [← hx] at hexponent hdigits
    rw [hdigits] at hle
    -- the same power of ten on both sides
    have hpowers : k + d.exponent.toNat = (ofFloat x).exponent.toNat + (-d.exponent).toNat := by
      omega
    have hpos : 0 < 10 ^ (-d.exponent).toNat := Nat.pow_pos (by decide)
    refine Nat.le_of_mul_le_mul_right ?_ hpos
    calc (ofFloat x).digits * 10 ^ (ofFloat x).exponent.toNat * (Span.of x).unit *
          10 ^ (-d.exponent).toNat
        = (ofFloat x).digits * 10 ^ ((ofFloat x).exponent.toNat + (-d.exponent).toNat) *
            (Span.of x).unit := by
          rw [Nat.mul_right_comm, Nat.mul_assoc _ (10 ^ _) (10 ^ _), ← Nat.pow_add]
      _ = (ofFloat x).digits * 10 ^ k * (10 ^ d.exponent.toNat * (Span.of x).unit) := by
          rw [← hpowers, Nat.pow_add, ← Nat.mul_assoc, ← Nat.mul_assoc]
      _ ≤ (Span.of x).high * (10 ^ (-d.exponent).toNat * 2 ^ (Span.of x).exponent.toNat) := hle
      _ = (Span.of x).high * 2 ^ (Span.of x).exponent.toNat * 10 ^ (-d.exponent).toNat := by
          rw [Nat.mul_comm (10 ^ _), Nat.mul_assoc]

theorem exponent_le_of_isFinite (hx : x.isFinite = true) : (Binary64.parts x).exponent ≤ 971 := by
  have hbiased : x.toBits.toNat / Binary64.leadingBit % 2048 ≠ 2047 := by
    intro hall
    have hbit : Binary64.leadingBit = 2 ^ 52 := by decide
    have hexponent : @Float.Model.UnpackedFloat.unpackExponent .binary64
        x.toBits.toBitVec = -1#11 := by
      refine BitVec.eq_of_toNat_eq ?_
      rw [hbit, ← Nat.shiftRight_eq_div_pow] at hall
      exact hall
    have hmodel : x.toBits.toBitVec = x.toModel.toBits.toBitVec := rfl
    unfold Float.isFinite Float.Model.isFinite Float.Model.unpack
      Float.Model.UnpackedFloat.unpack at hx
    rw [← hmodel, hexponent, if_pos rfl] at hx
    split at hx <;> cases hx
  have hlt : x.toBits.toNat / Binary64.leadingBit % 2048 < 2048 := Nat.mod_lt _ (by decide)
  unfold Binary64.parts
  dsimp only
  split <;> omega

theorem le_of_mul_two_pow {a b d m w : Nat} (h : n ≤ m * 2 ^ a) (hm : m ≤ d) (ha : a ≤ b)
    (hw : d * 2 ^ b ≤ w) : n ≤ w :=
  Nat.le_trans (Nat.le_trans h (Nat.mul_le_mul hm (Nat.pow_le_pow_right (by decide) ha))) hw

/-- The greatest double. -/
def greatest : Float := Float.ofBits 0x7fefffffffffffff

/-- **Shortest decimals without places behind the point** are three halves of a unit below the end
of the doubles, but for that of the greatest double. -/
theorem ofFloat_le (hx : x.isFinite = true) (h : 0 ≤ (ofFloat x).exponent) :
    (ofFloat x).digits * 10 ^ (ofFloat x).exponent.toNat ≤ 2 ^ 1024 - 3 * 2 ^ 970 ∨
      ofFloat x = ⟨17976931348623157, 292⟩ := by
  have hexponent := exponent_le_of_isFinite hx
  have hsignificand := Binary64.significand_lt x
  have hhigh : (ofFloat x).digits * 10 ^ (ofFloat x).exponent.toNat ≤
      (4 * (Binary64.parts x).significand + 2) * 2 ^ ((Binary64.parts x).exponent - 2).toNat :=
    Nat.le_trans (Nat.le_mul_of_pos_right _ (Span.of x).unit_pos) (ofFloat_le_high h)
  rcases Int.lt_or_eq_of_le hexponent with hless | hlast
  · have hquarters : 4 * (Binary64.parts x).significand + 2 ≤ 2 ^ 55 := by omega
    have hpower : ((Binary64.parts x).exponent - 2).toNat ≤ 968 := by omega
    have hbelow : 2 ^ 55 * 2 ^ 968 ≤ 2 ^ 1024 - 3 * 2 ^ 970 := by decide +kernel
    exact .inl (le_of_mul_two_pow hhigh hquarters hpower hbelow)
  · rcases Nat.lt_or_eq_of_le (Nat.le_sub_one_of_lt hsignificand) with hless | hgreatest
    · have hquarters : 4 * (Binary64.parts x).significand + 2 ≤ 2 ^ 55 - 6 := by omega
      have hpower : ((Binary64.parts x).exponent - 2).toNat ≤ 969 := by omega
      have hbelow : (2 ^ 55 - 6) * 2 ^ 969 ≤ 2 ^ 1024 - 3 * 2 ^ 970 := by decide +kernel
      exact .inl (le_of_mul_two_pow hhigh hquarters hpower hbelow)
    · have hspan : Span.of x = Span.of greatest := by
        unfold Span.of
        dsimp only
        rw [hlast, hgreatest]
        decide +kernel
      have hshortest : ofFloat greatest = ⟨17976931348623157, 292⟩ := by decide +kernel
      refine .inr ?_
      rw [← hshortest]
      unfold ofFloat
      rw [hspan]

end SalesLedger.Decimal.Shortest
