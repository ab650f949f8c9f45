import SalesLedger.Json.Printer
import SalesLedger.Proofs.FloatProducts
import SalesLedger.Proofs.JsonGrammar
import SalesLedger.Proofs.Offsets
import SalesLedger.Proofs.ShortestBounds

/-!
# Reading numbers that were written

The reader takes the text of every finite double, and the text of every whole number of 64 bits as
that number, whatever follows that does not go on with a number: `leadsWithLeaf_floatText`,
`leadsWithLeaf_integer`. All digits of a written number are gathered. Three of the four forms of a
double have their point in front of some of the digits, so that the digits are divided; in the
fourth they may be multiplied, and stay below the end of the doubles because the decimal is a
shortest one.

* `read_whole`, `read_point`: what the reader makes of digits, and of digits with a point in them.
* `exists_exponentPart`: it takes an exponent, wherever the digits can be scaled by it.
* `isSome_scale?_ofFloat`: shortest decimals can be scaled.
-/

namespace SalesLedger.Json

open Calendar (AreDigits areDigits_append areDigits_replicate areDigits_toDigits
  digit?_of_isDigit)
open Text (isDigit digit?)

namespace Numeral

/-- A text does not go on with a number that ends before it. -/
def IsPast (tail : List Char) : Prop :=
  ∀ c ∈ tail.head?, isDigit c = false ∧ c ≠ '.' ∧ opensExponent c = false

variable {ds ws fs es tail rest : List Char} {c : Char} {digits n : Nat} {start exponent : Int}
  {positive : Bool} {v : Json}

/-! ## Digits -/

theorem le_ofDigitChars (ds : List Char) (n : Nat) : n ≤ Nat.ofDigitChars 10 ds n := by
  rw [Nat.ofDigitChars_eq_ofDigitChars_zero]
  exact Nat.le_add_right_of_le (Nat.le_mul_of_pos_left n (Nat.pow_pos (by decide)))

theorem digit?_eq_none (h : isDigit c = false) : digit? c = none :=
  Option.isNone_iff_eq_none.1 (Option.isSome_eq_false_iff.1 h)

/-- Digits that fit are gathered. -/
theorem fill_append (hds : AreDigits ds) (htail : ∀ c ∈ tail.head?, isDigit c = false)
    (h : Nat.ofDigitChars 10 ds n ≤ largest) :
    fill n (ds ++ tail) = (Nat.ofDigitChars 10 ds n, ds.length, tail) := by
  induction ds generalizing n with
  | nil =>
    cases tail with
    | nil => rfl
    | cons c tail =>
      rw [List.nil_append, fill, digit?_eq_none (htail c rfl)]
      rfl
  | cons d ds ih =>
    rw [Nat.ofDigitChars_cons, Nat.mul_comm] at h ⊢
    have hfits := Nat.le_trans (le_ofDigitChars ds _) h
    rw [List.cons_append, fill, digit?_of_isDigit (hds d List.mem_cons_self)]
    dsimp only
    rw [if_pos hfits, ih (fun c hc => hds c (List.mem_cons_of_mem _ hc)) h]
    rfl

theorem skipDigits_of_not_digit (htail : ∀ c ∈ tail.head?, isDigit c = false) :
    skipDigits tail = (0, tail) := by
  cases tail with
  | nil => rfl
  | cons c tail => exact skipDigits_cons_of_not_isDigit (htail c rfl) tail

theorem skipDigits_append (hds : AreDigits ds) (htail : ∀ c ∈ tail.head?, isDigit c = false) :
    (skipDigits (ds ++ tail)).2 = tail := by
  induction ds with
  | nil => rw [List.nil_append, skipDigits_of_not_digit htail]
  | cons d ds ih =>
    rw [List.cons_append, skipDigits_cons_of_isDigit (hds d List.mem_cons_self)]
    exact ih fun c hc => hds c (List.mem_cons_of_mem _ hc)

/-- The digits of an exponent are counted, or there is an end to counting among them. -/
theorem exponentDigits_append (hds : AreDigits ds) (htail : ∀ c ∈ tail.head?, isDigit c = false)
    (n : Nat) : exponentDigits n (ds ++ tail) = .ok (Nat.ofDigitChars 10 ds n, tail) ∨
      largestExponent < Nat.ofDigitChars 10 ds n ∧
        ∃ rest, exponentDigits n (ds ++ tail) = .error rest := by
  induction ds generalizing n with
  | nil =>
    cases tail with
    | nil => exact .inl rfl
    | cons c tail =>
      rw [List.nil_append, exponentDigits, digit?_eq_none (htail c rfl)]
      exact .inl rfl
  | cons d ds ih =>
    rw [List.cons_append, exponentDigits, digit?_of_isDigit (hds d List.mem_cons_self),
      Nat.ofDigitChars_cons, Nat.mul_comm]
    dsimp only
    split
    · exact ih (fun c hc => hds c (List.mem_cons_of_mem _ hc)) _
    · rename_i hfull
      exact .inr ⟨Nat.lt_of_lt_of_le (Nat.not_le.1 hfull) (le_ofDigitChars ds _), _, rfl⟩

/-! ## Tokens -/

/-- The digits before a point: no zero in front of others. -/
def IsWholePart (ws : List Char) : Prop :=
  AreDigits ws ∧ ∃ c rest, ws = c :: rest ∧ (c = '0' → rest = [])

theorem read_whole (hws : IsWholePart ws) (htail : ∀ c ∈ tail.head?, isDigit c = false)
    (h : Nat.ofDigitChars 10 ws 0 ≤ largest) (positive : Bool) :
    read positive (ws ++ tail) = afterWhole positive (Nat.ofDigitChars 10 ws 0) 0 tail := by
  obtain ⟨hdigits, c, rest, rfl, hzero⟩ := hws
  rw [Nat.ofDigitChars_cons, Nat.mul_zero, Nat.zero_add] at h ⊢
  rw [List.cons_append]
  unfold read
  by_cases hc : c = '0'
  · -- a zero stands alone
    obtain rfl := hc
    obtain rfl := hzero rfl
    cases tail with
    | nil => rfl
    | cons d tail =>
      have hd := htail d rfl
      simp only [digit?_of_isDigit (show isDigit '0' = true from rfl), List.nil_append, hd]
      rfl
  · have hdigit := hdigits c List.mem_cons_self
    have hrange := Calendar.toNat_of_isDigit hdigit
    obtain ⟨d, hd⟩ : ∃ d, c.toNat - '0'.toNat = d + 1 := by
      have hne : c.toNat ≠ '0'.toNat := mt Char.toNat_inj.1 hc
      have hzeroNat : '0'.toNat = 0x30 := rfl
      exact ⟨c.toNat - '0'.toNat - 1, by omega⟩
    rw [hd] at h ⊢
    have hfill := fill_append (fun d hd => hdigits d (List.mem_cons_of_mem _ hd)) htail h
    simp only [digit?_of_isDigit hdigit, hd, hfill, skipDigits_of_not_digit htail]

theorem read_point (hws : IsWholePart ws) (hfs : AreDigits fs) (hne : fs ≠ [])
    (htail : ∀ c ∈ tail.head?, isDigit c = false)
    (h : Nat.ofDigitChars 10 (ws ++ fs) 0 ≤ largest) (positive : Bool) :
    read positive (ws ++ '.' :: (fs ++ tail)) =
      afterDigits positive (Nat.ofDigitChars 10 (ws ++ fs) 0) (-(fs.length : Int)) tail := by
  rw [Nat.ofDigitChars_append] at h ⊢
  have hpoint : ∀ c ∈ ('.' :: (fs ++ tail)).head?, isDigit c = false := by
    rintro c ⟨⟩
    rfl
  rw [read_whole hws hpoint (Nat.le_trans (le_ofDigitChars fs _) h)]
  have hfill := fill_append hfs htail h
  have htaken : fs.length ≠ 0 := mt List.length_eq_zero_iff.1 hne
  simp only [afterWhole, fractionPart, hfill]
  rw [show ((0 : Nat) : Int) - (fs.length : Int) = -(fs.length : Int) from Int.zero_sub _]
  cases tail with
  | nil => exact if_neg htaken
  | cons c tail =>
    have hc := htail c rfl
    simp only [hc, htaken, if_false, Bool.false_eq_true]

theorem afterDigits_of_isPast (htail : IsPast tail) :
    afterDigits positive digits exponent tail = finish positive digits exponent tail := by
  cases tail with
  | nil => rfl
  | cons c tail =>
    obtain ⟨-, -, hexponent⟩ := htail c rfl
    rw [afterDigits, hexponent]
    rfl

theorem afterWhole_of_isPast (htail : IsPast tail) :
    afterWhole positive digits 0 tail = .ok (afterWhole.whole positive digits, tail) := by
  unfold afterWhole
  split
  · exact absurd rfl (htail '.' rfl).2.1
  · rename_i c rest _
    rw [(htail c rfl).2.2]
    rfl
  · rfl

theorem exists_finish (h : (scale? digits exponent).isSome = true) (positive : Bool)
    (rest : List Char) : ∃ v, finish positive digits exponent rest = .ok (v, rest) := by
  obtain ⟨x, hx⟩ := Option.isSome_iff_exists.1 h
  exact ⟨.real (signed positive x), by rw [finish, hx]⟩

/-- **An exponent is taken** where the digits can be scaled by it. -/
theorem exists_exponentValue (up : Bool) (hes : AreDigits es) (hne : es ≠ [])
    (htail : ∀ c ∈ tail.head?, isDigit c = false)
    (hscale : (scale? digits
      (if up then start + Nat.ofDigitChars 10 es 0 else start - Nat.ofDigitChars 10 es 0)).isSome)
    (hup : up = true → Nat.ofDigitChars 10 es 0 ≤ largestExponent) (positive : Bool) :
    ∃ v, exponentValue positive digits start up (es ++ tail) = .ok (v, tail) := by
  cases es with
  | nil => exact absurd rfl hne
  | cons e es =>
    rw [Nat.ofDigitChars_cons, Nat.mul_zero, Nat.zero_add] at hscale hup
    have hmore : AreDigits es := fun c hc => hes c (List.mem_cons_of_mem _ hc)
    rw [List.cons_append, exponentValue, digit?_of_isDigit (hes e List.mem_cons_self)]
    dsimp only
    obtain hread | ⟨hfull, rest, hread⟩ := exponentDigits_append hmore htail (e.toNat - '0'.toNat)
    · rw [hread]
      exact exists_finish hscale positive tail
    · -- counting ends only below the point
      have hdown : up = false := by
        cases up with
        | false => rfl
        | true => exact absurd (hup rfl) (Nat.not_le.2 hfull)
      refine ⟨.real (signed positive 0), ?_⟩
      rw [hread, hdown, ← skipDigits_append hmore htail, ← skipDigits_of_exponentDigits hread]
      exact if_neg fun h => Bool.false_ne_true h.2

theorem exists_exponentPart {n : Int} (hn : n ≤ largestExponent)
    (hscale : (scale? digits (start + n)).isSome = true)
    (htail : ∀ c ∈ tail.head?, isDigit c = false) (positive : Bool) :
    ∃ v, exponentPart positive digits start
      ((if n < 0 then '-' else '+') :: (Nat.toDigits 10 n.natAbs ++ tail)) = .ok (v, tail) := by
  have hvalue : Nat.ofDigitChars 10 (Nat.toDigits 10 n.natAbs) 0 = n.natAbs :=
    Nat.ofDigitChars_ten_toDigits
  have hes := areDigits_toDigits n.natAbs
  have hne : Nat.toDigits 10 n.natAbs ≠ [] := Nat.toDigits_ne_nil
  rw [exponentPart_eq]
  split
  · rename_i hneg
    rw [show start + n = start - (n.natAbs : Nat) by omega, ← hvalue] at hscale
    exact exists_exponentValue false hes hne htail hscale (fun h => nomatch h) positive
  · rename_i hnonneg
    rw [show start + n = start + (n.natAbs : Nat) by omega, ← hvalue] at hscale
    exact exists_exponentValue true hes hne htail hscale (fun _ => by omega) positive

/-! ## Shortest decimals -/

open Decimal

variable {x : Float} {d : Scientific}

theorem isSome_scale?_of_neg (h : exponent < 0) (digits : Nat) :
    (scale? digits exponent).isSome = true := by
  unfold scale?
  dsimp only
  rw [if_neg (by omega)]
  split
  · rfl
  · split <;> rfl

theorem exponent_le_of_isSome (hne : digits ≠ 0) (h : (scale? digits exponent).isSome = true) :
    exponent ≤ 308 := by
  refine Int.not_lt.1 fun hlarge => ?_
  unfold scale? at h
  dsimp only at h
  rw [if_pos (by omega), if_neg (by omega), if_neg hne] at h
  cases h

/-- **Shortest decimals can be scaled**, the greatest double's included. -/
theorem isSome_scale?_ofFloat (hx : x.isFinite = true) :
    (scale? (Shortest.ofFloat x).digits (Shortest.ofFloat x).exponent).isSome = true := by
  by_cases hzero : (Shortest.ofFloat x).digits = 0
  · rw [Shortest.ofFloat_eq_of_digits hzero]
    decide +kernel
  · rcases Int.lt_or_le (Shortest.ofFloat x).exponent 0 with hneg | hnonneg
    · exact isSome_scale?_of_neg hneg _
    · obtain hbelow | hgreatest := Shortest.ofFloat_le hx hnonneg
      · have hscale := scale?_isSome hzero (Shortest.digits_ofFloat_le x) hbelow
        rwa [Int.toNat_of_nonneg hnonneg] at hscale
      · rw [hgreatest]
        decide +kernel

/-! ## Texts of doubles -/

theorem exists_toDigits_cons (h : n ≠ 0) :
    ∃ c rest, Nat.toDigits 10 n = c :: rest ∧ c ≠ '0' := by
  induction n using Nat.strongRecOn with
  | ind n ih =>
    rcases Nat.lt_or_ge n 10 with hsmall | hlarge
    · refine ⟨n.digitChar, [], Nat.toDigits_of_lt_base hsmall, ?_⟩
      have hall : ∀ m < 10, m ≠ 0 → m.digitChar ≠ '0' := by decide
      exact hall n hsmall h
    · obtain ⟨c, rest, hdigits, hc⟩ := ih (n / 10) (by omega) (by omega)
      refine ⟨c, rest ++ [(n % 10).digitChar], ?_, hc⟩
      rw [Nat.toDigits_of_base_le (by decide) hlarge, hdigits]
      rfl

theorem exists_read_point (hws : IsWholePart ws) (hfs : AreDigits fs) (hne : fs ≠ [])
    (htail : IsPast tail) (h : Nat.ofDigitChars 10 (ws ++ fs) 0 ≤ largest) (positive : Bool) :
    ∃ v, read positive (ws ++ '.' :: (fs ++ tail)) = .ok (v, tail) := by
  rw [read_point hws hfs hne (fun c hc => (htail c hc).1) h, afterDigits_of_isPast htail]
  have hlength := List.length_pos_iff.2 hne
  exact exists_finish (isSome_scale?_of_neg (by omega) _) positive tail

/-! ### The four forms -/

/-- All digits, zeros, and a zero behind the point. -/
theorem exists_read_padded {k : Nat} (hds : AreDigits (c :: ds)) (hc : c ≠ '0')
    (hlength : (c :: ds).length + k ≤ 16) (htail : IsPast tail) (positive : Bool) :
    ∃ v, read positive (c :: ds ++ List.replicate k '0' ++ ['.', '0'] ++ tail) = .ok (v, tail) := by
  have hws := areDigits_append hds (areDigits_replicate k)
  have hwhole : IsWholePart (c :: ds ++ List.replicate k '0') :=
    ⟨hws, c, _, rfl, fun h => absurd h hc⟩
  have hfits : Nat.ofDigitChars 10 (c :: ds ++ List.replicate k '0' ++ ['0']) 0 ≤ largest := by
    have hlt := Calendar.ofDigitChars_lt (areDigits_append hws (areDigits_replicate 1)) 0
    have hshort : (c :: ds ++ List.replicate k '0' ++ ['0']).length ≤ 17 := by
      simp only [List.length_append, List.length_replicate, List.length_singleton]
      omega
    rw [Nat.zero_add, Nat.mul_one] at hlt
    exact Nat.le_trans (Nat.le_of_lt hlt)
      (Nat.le_trans (Nat.pow_le_pow_right (by decide) hshort) (by decide))
  have hread := exists_read_point hwhole (areDigits_replicate 1) (by decide) htail hfits positive
  rwa [List.append_assoc (c :: ds ++ _)]

/-- A point between the digits. -/
theorem exists_read_pointed {k : Nat} (hds : AreDigits (c :: ds)) (hc : c ≠ '0') (hpos : 0 < k)
    (hlt : k < (c :: ds).length) (h : Nat.ofDigitChars 10 (c :: ds) 0 ≤ largest)
    (htail : IsPast tail) (positive : Bool) :
    ∃ v, read positive ((c :: ds).take k ++ '.' :: (c :: ds).drop k ++ tail) = .ok (v, tail) := by
  obtain ⟨k, rfl⟩ : ∃ j, k = j + 1 := ⟨k - 1, by omega⟩
  have hwhole : IsWholePart ((c :: ds).take (k + 1)) :=
    ⟨fun a ha => hds a (List.mem_of_mem_take ha), c, ds.take k, rfl, fun h => absurd h hc⟩
  have hbehind : (c :: ds).drop (k + 1) ≠ [] := by
    rw [Ne, List.drop_eq_nil_iff]
    omega
  have hfits : Nat.ofDigitChars 10 ((c :: ds).take (k + 1) ++ (c :: ds).drop (k + 1)) 0 ≤
      largest := by
    rwa [List.take_append_drop]
  have hread := exists_read_point hwhole (fun a ha => hds a (List.mem_of_mem_drop ha)) hbehind htail
    hfits positive
  rwa [List.append_assoc, List.cons_append]

/-- Zeros between the point and the digits. -/
theorem exists_read_small (hds : AreDigits ds) (hne : ds ≠ [])
    (h : Nat.ofDigitChars 10 ds 0 ≤ largest) (htail : IsPast tail) (k : Nat) (positive : Bool) :
    ∃ v, read positive ('0' :: '.' :: (List.replicate k '0' ++ ds) ++ tail) = .ok (v, tail) := by
  have hwhole : IsWholePart ['0'] := ⟨areDigits_replicate 1, '0', [], rfl, fun _ => rfl⟩
  have hfits : Nat.ofDigitChars 10 (['0'] ++ (List.replicate k '0' ++ ds)) 0 ≤ largest := by
    have hzeros : Nat.ofDigitChars 10 (List.replicate (k + 1) '0') 0 = 0 :=
      Nat.ofDigitChars_replicate_zero
    rwa [← List.append_assoc, Nat.ofDigitChars_append,
      show ['0'] ++ List.replicate k '0' = List.replicate (k + 1) '0' from rfl, hzeros]
  exact exists_read_point hwhole (areDigits_append (areDigits_replicate k) hds)
    (List.append_ne_nil_of_right_ne_nil _ hne) htail hfits positive

/-- One digit before the point, the others behind it, and an exponent that moves the point. -/
def exponentText (c : Char) (more : List Char) (n : Int) : List Char :=
  let mark := 'e' :: (if n < 0 then '-' else '+') :: Nat.toDigits 10 n.natAbs
  match more with
  | [] => c :: mark
  | more => c :: '.' :: (more ++ mark)

theorem exists_read_exponentText (hds : AreDigits (c :: ds))
    (h : Nat.ofDigitChars 10 (c :: ds) 0 ≤ largest)
    (hscale : (scale? (Nat.ofDigitChars 10 (c :: ds) 0) exponent).isSome = true)
    (hexponent : (ds.length : Int) + exponent ≤ largestExponent) (htail : IsPast tail)
    (positive : Bool) :
    ∃ v, read positive (exponentText c ds (ds.length + exponent) ++ tail) = .ok (v, tail) := by
  have hwhole : IsWholePart [c] := by
    refine ⟨fun d hd => ?_, c, [], rfl, fun _ => rfl⟩
    rw [List.mem_singleton.1 hd]
    exact hds c List.mem_cons_self
  rw [show exponent = -(ds.length : Int) + (ds.length + exponent) by omega] at hscale
  obtain ⟨v, hv⟩ := exists_exponentPart hexponent hscale (fun c hc => (htail c hc).1) positive
  generalize (ds.length : Int) + exponent = n at hv ⊢
  have hmark : ∀ d ∈ ('e' :: (if n < 0 then '-' else '+') ::
      (Nat.toDigits 10 n.natAbs ++ tail)).head?, isDigit d = false := by
    rintro d ⟨⟩
    rfl
  refine ⟨v, ?_⟩
  cases ds with
  | nil =>
    have hread := read_whole hwhole hmark h positive
    rw [List.singleton_append] at hread
    exact hread.trans hv
  | cons d ds =>
    have hread := read_point hwhole (fun d hd => hds d (List.mem_cons_of_mem _ hd))
      (List.cons_ne_nil d ds) hmark h positive
    rw [List.singleton_append] at hread
    have htext : exponentText c (d :: ds) n ++ tail = c :: '.' :: (d :: ds ++
        'e' :: (if n < 0 then '-' else '+') :: (Nat.toDigits 10 n.natAbs ++ tail)) := by
      simp only [exponentText, List.cons_append, List.append_assoc]
    rw [htext]
    exact hread.trans hv

/-- **The text of a decimal is read**, where its digits can be scaled. -/
theorem exists_read_decimalText (hne : d.digits ≠ 0) (hdigits : d.digits ≤ 10 ^ 17 + 1)
    (hscale : (scale? d.digits d.exponent).isSome = true) (htail : IsPast tail)
    (positive : Bool) : ∃ v, read positive (decimalText d ++ tail) = .ok (v, tail) := by
  have hexponent := exponent_le_of_isSome hne hscale
  have hall := areDigits_toDigits d.digits
  have hvalue : Nat.ofDigitChars 10 (Nat.toDigits 10 d.digits) 0 = d.digits :=
    Nat.ofDigitChars_ten_toDigits
  have hfits : Nat.ofDigitChars 10 (Nat.toDigits 10 d.digits) 0 ≤ largest :=
    Nat.le_trans (Nat.le_of_eq hvalue) (Nat.le_trans hdigits (by decide))
  have hcount : (Nat.toDigits 10 d.digits).length ≤ 18 :=
    (Nat.length_toDigits_le_iff (by decide) (by decide)).2 (Nat.lt_of_le_of_lt hdigits (by decide))
  obtain ⟨c, rest, hcons, hc⟩ := exists_toDigits_cons hne
  unfold decimalText
  generalize Nat.toDigits 10 d.digits = digits at *
  obtain rfl := hcons
  dsimp only
  split
  · exact exists_read_padded hall hc (by omega) htail positive
  · split
    · exact exists_read_pointed hall hc (by omega) (by omega) hfits htail positive
    · split
      · exact exists_read_small hall (List.cons_ne_nil c rest) hfits htail _ positive
      · have hpoint : ((c :: rest).length : Int) + d.exponent - 1 = rest.length + d.exponent := by
          rw [List.length_cons]
          omega
        have hcounted : (400 : Int) ≤ largestExponent := by decide
        have hread := exists_read_exponentText hall hfits (hvalue.symm ▸ hscale) (by omega) htail
          positive
        rw [hpoint]
        cases rest with
        | nil => exact hread
        | cons _ _ => exact hread

/-! ## What a text leads with -/

theorem exists_digit_of_read (h : read positive ds = .ok (v, rest)) :
    ∃ c left, ds = c :: left ∧ isDigit c = true := by
  unfold read at h
  split at h
  · cases h
  · rename_i c left
    refine ⟨c, left, rfl, ?_⟩
    unfold isDigit
    cases hc : digit? c with
    | none =>
      simp only [hc] at h
      cases h
    | some d => rfl

theorem leadsWithLeaf_of_read (h : read true ds = .ok (v, rest)) : LeadsWithLeaf ds v rest := by
  obtain ⟨c, left, rfl, hc⟩ := exists_digit_of_read h
  exact .number hc h

/-- **A double that was written is read.** -/
theorem leadsWithLeaf_floatText (hx : x.isFinite = true) (htail : IsPast tail) :
    ∃ v, LeadsWithLeaf ((floatText x).toList ++ tail) v tail := by
  have hread : ∀ positive, ∃ v,
      read positive (decimalText (Shortest.ofFloat x) ++ tail) = .ok (v, tail) := by
    intro positive
    by_cases hzero : (Shortest.ofFloat x).digits = 0
    · have htext : decimalText (Shortest.ofFloat x) = ['0'] ++ '.' :: ['0'] := by
        rw [Shortest.ofFloat_eq_of_digits hzero]
        decide
      have hread := exists_read_small (areDigits_replicate 1) (by decide) (by decide) htail 0
        positive
      rw [htext]
      exact hread
    · exact exists_read_decimalText hzero (Shortest.digits_ofFloat_le x) (isSome_scale?_ofFloat hx)
        htail positive
  unfold floatText
  dsimp only
  rw [String.toList_ofList]
  split
  · obtain ⟨v, hv⟩ := hread false
    exact ⟨v, .negative hv⟩
  · obtain ⟨v, hv⟩ := hread true
    exact ⟨v, leadsWithLeaf_of_read hv⟩

theorem read_toDigits {m : Nat} (hm : m ≤ largest) (htail : IsPast tail) (positive : Bool) :
    read positive (Nat.toDigits 10 m ++ tail) = .ok (afterWhole.whole positive m, tail) := by
  have hvalue : Nat.ofDigitChars 10 (Nat.toDigits 10 m) 0 = m := Nat.ofDigitChars_ten_toDigits
  have hwhole : IsWholePart (Nat.toDigits 10 m) := by
    refine ⟨areDigits_toDigits m, ?_⟩
    rcases Nat.eq_zero_or_pos m with rfl | hpos
    · exact ⟨'0', [], rfl, fun _ => rfl⟩
    · obtain ⟨c, rest, hcons, hc⟩ := exists_toDigits_cons (Nat.ne_of_gt hpos)
      exact ⟨c, rest, hcons, fun h => absurd h hc⟩
  rw [read_whole hwhole (fun c hc => (htail c hc).1) (hvalue.symm ▸ hm), hvalue,
    afterWhole_of_isPast htail]

/-- **A whole number of 64 bits is read back.** -/
theorem leadsWithLeaf_integer {n : Int} (hlow : -0x8000000000000000 ≤ n)
    (hhigh : n ≤ 0xffffffffffffffff) (htail : IsPast tail) :
    LeadsWithLeaf ((toString n).toList ++ tail) (.integer n) tail := by
  have hlargest : (largest : Int) = 0xffffffffffffffff := rfl
  cases n with
  | ofNat m =>
    rw [Int.ofNat_eq_natCast] at hhigh ⊢
    have hread := read_toDigits (m := m) (by omega) htail true
    rw [Text.toList_toString_natCast]
    exact leadsWithLeaf_of_read hread
  | negSucc m =>
    have hread := read_toDigits (m := m + 1) (by omega) htail false
    have hwhole : afterWhole.whole false (m + 1) = .integer (Int.negSucc m) := by
      unfold afterWhole.whole
      rw [if_neg Bool.false_ne_true, if_pos ⟨Nat.succ_pos m, by omega⟩]
      rfl
    rw [Text.toList_toString_negSucc, ← hwhole]
    exact .negative hread

end Numeral

end SalesLedger.Json
