import Mathlib.Algebra.Group.Int.Defs
import SalesLedger.Proofs.DateReading
import SalesLedger.Service

/-!
# Offsets

Which minutes are an offset from universal time, and which seconds they come to. The seconds are
counted in 32 bits before they are compared with a day. `offsetSeconds_exact`: minutes of less than
a day come to 60 seconds each and others are refused, but for those that the 32 bits bring below a
day (`WrapsIntoRange`); and an environment is accepted just if a service can be started with its
offset.

* `int32?_toString`: a whole number of 32 bits is read back from its text.
* `offsetSeconds_eq_exactSeconds_iff`: where the 32 bits do not show.
* `ofEnvironment_eq`: what the settings of an environment are, once its minutes are read.
-/

namespace SalesLedger

open Calendar

/-! ## Whole numbers as texts -/

namespace Text

theorem signed?_of_digits {ds : List Char} (hds : AreDigits ds) (hne : ds ≠ []) :
    signed? ds = some (Nat.ofDigitChars 10 ds 0 : Int) := by
  have hsign : ∀ c : Char, isDigit c = false → ∀ rest, ds ≠ c :: rest := by
    rintro c hc rest rfl
    have hdigit := hds c List.mem_cons_self
    rw [hc] at hdigit
    cases hdigit
  unfold signed?
  split
  · exact absurd rfl (hsign '-' (by decide) _)
  · exact absurd rfl (hsign '+' (by decide) _)
  · rw [decimal?_eq_some_iff.2 ⟨hne, hds, rfl⟩]
    rfl

theorem toList_toString_natCast (n : Nat) : (toString (n : Int)).toList = Nat.toDigits 10 n := by
  rw [show toString (n : Int) = toString n from rfl, Nat.toString_eq_ofList_toDigits,
    String.toList_ofList]

theorem toList_toString_negSucc (n : Nat) :
    (toString (Int.negSucc n)).toList = '-' :: Nat.toDigits 10 (n + 1) := by
  rw [show toString (Int.negSucc n) = "-" ++ toString (n + 1) from rfl,
    Nat.toString_eq_ofList_toDigits]
  simp only [String.toList_append, String.toList_ofList]
  rfl

theorem signed?_toString (m : Int) : signed? (toString m).toList = some m := by
  cases m with
  | ofNat n =>
    rw [Int.ofNat_eq_natCast, toList_toString_natCast,
      signed?_of_digits (areDigits_toDigits n) Nat.toDigits_ne_nil, Nat.ofDigitChars_ten_toDigits]
  | negSucc n =>
    have hread : decimal? (Nat.toDigits 10 (n + 1)) = some (n + 1) :=
      decimal?_eq_some_iff.2 ⟨Nat.toDigits_ne_nil, areDigits_toDigits _,
        Nat.ofDigitChars_ten_toDigits⟩
    rw [toList_toString_negSucc, signed?, hread]
    rfl

theorem trim_toString (m : Int) : trim (toString m) = toString m := by
  have hdigits : ∀ n, ∀ c ∈ Nat.toDigits 10 n, isBlank c = false :=
    fun n c hc => isBlank_of_isDigit (areDigits_toDigits n c hc)
  refine trim_of_no_blank fun c hc => ?_
  cases m with
  | ofNat n =>
    rw [Int.ofNat_eq_natCast, toList_toString_natCast] at hc
    exact hdigits n c hc
  | negSucc n =>
    rw [toList_toString_negSucc] at hc
    rcases List.mem_cons.1 hc with rfl | hc
    · decide
    · exact hdigits (n + 1) c hc

end Text

namespace Config

theorem int32?_toString {m : Int} (h : -2 ^ 31 ≤ m) (h' : m < 2 ^ 31) :
    int32? (Text.trim (toString m)) = some m := by
  rw [Text.trim_toString, int32?, Text.signed?_toString, Option.filter_some, if_pos]
  rw [decide_eq_true_eq]
  exact ⟨h, h'⟩

/-! ## Seconds -/

/-- Minutes of a day or more whose seconds come to less than a day in 32 bits. -/
def WrapsIntoRange (minutes : Int) : Prop :=
  ¬ (-1440 < minutes ∧ minutes < 1440) ∧
    ∃ k : Int, -86400 < 60 * minutes - 2 ^ 32 * k ∧ 60 * minutes - 2 ^ 32 * k < 86400

theorem bmod_eq_sub (n : Int) : ∃ k : Int, n.bmod 0x100000000 = n - 2 ^ 32 * k := by
  rw [Int.bmod_def]
  split
  · exact ⟨n / 0x100000000, by omega⟩
  · exact ⟨n / 0x100000000 + 1, by omega⟩

theorem offsetSeconds_eq_ok {c : Config} {k : Int} (h : -86400 < 60 * c.offsetMinutes - 2 ^ 32 * k)
    (h' : 60 * c.offsetMinutes - 2 ^ 32 * k < 86400) :
    c.offsetSeconds = .ok (60 * c.offsetMinutes - 2 ^ 32 * k) := by
  have hseconds : (c.offsetMinutes * 60).bmod 0x100000000 = 60 * c.offsetMinutes - 2 ^ 32 * k := by
    rw [Int.bmod_def]
    split <;> omega
  unfold offsetSeconds
  simp only [hseconds]
  rw [if_pos ⟨h, h'⟩]

theorem offsetSeconds_eq_error {c : Config} (h : ∀ k : Int,
    ¬ (-86400 < 60 * c.offsetMinutes - 2 ^ 32 * k ∧ 60 * c.offsetMinutes - 2 ^ 32 * k < 86400)) :
    c.offsetSeconds = .error (outOfRange c.offsetMinutes) := by
  obtain ⟨k, hk⟩ := bmod_eq_sub (c.offsetMinutes * 60)
  have hseconds : (c.offsetMinutes * 60).bmod 0x100000000 = 60 * c.offsetMinutes - 2 ^ 32 * k := by
    omega
  unfold offsetSeconds
  simp only [hseconds]
  rw [if_neg (h k)]

theorem offsetSeconds_of_wraps {c : Config} (h : WrapsIntoRange c.offsetMinutes) :
    ∃ k : Int, k ≠ 0 ∧ c.offsetSeconds = .ok (60 * c.offsetMinutes - 2 ^ 32 * k) := by
  obtain ⟨hrange, k, hlow, hhigh⟩ := h
  exact ⟨k, by omega, offsetSeconds_eq_ok hlow hhigh⟩

/-- The seconds that the minutes come to, without a bound on numbers. -/
def exactSeconds (c : Config) : Except Failure Int :=
  if -1440 < c.offsetMinutes ∧ c.offsetMinutes < 1440 then .ok (60 * c.offsetMinutes)
  else .error (outOfRange c.offsetMinutes)

/-- **Seconds are exact unless they wrap into the range.** -/
theorem offsetSeconds_eq_exactSeconds_iff {c : Config} :
    c.offsetSeconds = c.exactSeconds ↔ ¬ WrapsIntoRange c.offsetMinutes := by
  unfold exactSeconds
  constructor
  · intro h hwraps
    obtain ⟨k, -, hk⟩ := offsetSeconds_of_wraps hwraps
    rw [hk, if_neg hwraps.1] at h
    cases h
  · intro h
    split
    · rename_i hrange
      rw [offsetSeconds_eq hrange.1 hrange.2, Int.mul_comm]
    · rename_i hrange
      exact offsetSeconds_eq_error fun k hk => h ⟨hrange, k, hk⟩

/-- Up to 136 years nothing wraps. -/
theorem not_wraps_of_small {m : Int} (h : -71581349 < m) (h' : m < 71581349) :
    ¬ WrapsIntoRange m := by
  rintro ⟨hrange, k, hlow, hhigh⟩
  rcases Int.lt_trichotomy k 0 with hk | rfl | hk <;> omega

/-! ## Environments -/

/-- The minutes that an environment asks for: what its variable spells, or the usual ones. -/
def minutes? (setting? : String → Option String) : Option Int :=
  match setting? offsetVariable with
  | none => some usualOffset
  | some raw => int32? (Text.trim raw)

/-- The settings of an environment at an offset. -/
def atOffset (setting? : String → Option String) (minutes : Int) : Config :=
  ⟨(setting? dataDirVariable).getD usualDataDir, (setting? masterVariable).getD usualMasterPath,
    minutes⟩

theorem ofEnvironment_eq {setting? : String → Option String} {m : Int}
    (h : minutes? setting? = some m) : ofEnvironment setting? =
      (atOffset setting? m).offsetSeconds.map fun _ => atOffset setting? m := by
  unfold minutes? at h
  unfold ofEnvironment
  cases hraw : setting? offsetVariable with
  | none =>
    rw [hraw] at h
    cases h
    rfl
  | some raw =>
    rw [hraw] at h
    dsimp only at h ⊢
    rw [h]
    rfl

/-- A service starts with what an environment asks for just if its settings are accepted. -/
theorem ofEnvironment_ok_iff {setting? : String → Option String} {c : Config}
    (h : minutes? setting? = some c.offsetMinutes) :
    (∃ c', ofEnvironment setting? = .ok c') ↔ ∃ r, Service.start c = .ok r := by
  have hsame : (atOffset setting? c.offsetMinutes).offsetSeconds = c.offsetSeconds := rfl
  rw [ofEnvironment_eq h, hsame, Service.start]
  cases c.offsetSeconds with
  | ok s => exact ⟨fun _ => ⟨_, rfl⟩, fun _ => ⟨_, rfl⟩⟩
  | error f => simp [Except.map, bind, Except.bind]

/-- **Offsets.** Minutes of less than a day come to 60 seconds each and others are refused with their
number, just if they are none that 32 bits of seconds bring below a day. Those are taken for seconds
that are never theirs; they are of 136 years or more. A service goes by the seconds, and it starts
with the minutes that an environment is accepted with, where each number of 32 bits can be asked
for. -/
theorem offsetSeconds_exact (c : Config) :
    (c.offsetSeconds = c.exactSeconds ↔ ¬ WrapsIntoRange c.offsetMinutes) ∧
    (WrapsIntoRange c.offsetMinutes → ∃ k : Int, k ≠ 0 ∧
      c.offsetSeconds = .ok (60 * c.offsetMinutes - 2 ^ 32 * k)) ∧
    (-71581349 < c.offsetMinutes → c.offsetMinutes < 71581349 →
      ¬ WrapsIntoRange c.offsetMinutes) ∧
    (outOfRange c.offsetMinutes).kind = .config ∧
    Service.start c = c.offsetSeconds.map Service.Reference.clock ∧
    (∀ setting?, minutes? setting? = some c.offsetMinutes →
      ((∃ c', ofEnvironment setting? = .ok c') ↔ ∃ r, Service.start c = .ok r)) ∧
    (-2 ^ 31 ≤ c.offsetMinutes → c.offsetMinutes < 2 ^ 31 →
      ∀ setting?, setting? offsetVariable = some (toString c.offsetMinutes) →
        minutes? setting? = some c.offsetMinutes) := by
  refine ⟨offsetSeconds_eq_exactSeconds_iff, offsetSeconds_of_wraps, not_wraps_of_small, rfl, ?_,
    fun setting? => ofEnvironment_ok_iff, fun h h' setting? hraw => ?_⟩
  · unfold Service.start
    cases c.offsetSeconds <;> rfl
  · simp only [minutes?, hraw, int32?_toString h h']

/-- The least minutes that are brought below a day are taken for 86356 seconds to the west, and one
minute less is refused. An environment may ask for them. -/
theorem offsetSeconds_exact_least :
    WrapsIntoRange 71581349 ∧ offsetSeconds ⟨"", "", 71581349⟩ = .ok (-86356) ∧
    (∃ k : Int, k ≠ 0 ∧
      offsetSeconds ⟨"", "", 71581349⟩ = .ok (60 * 71581349 - 2 ^ 32 * k)) ∧
    ¬ WrapsIntoRange 71581348 ∧
    offsetSeconds ⟨"", "", 71581348⟩ = .error (outOfRange 71581348) ∧
    minutes? (fun _ => some (toString (71581349 : Int))) = some 71581349 ∧
    ∃ c, ofEnvironment (fun _ => some (toString (71581349 : Int))) = .ok c := by
  obtain ⟨-, hwraps, -, -, hstart, hsame, hspelled⟩ := offsetSeconds_exact ⟨"", "", 71581349⟩
  obtain ⟨hexact, -, hsmall, -⟩ := offsetSeconds_exact ⟨"", "", 71581348⟩
  have hleast : WrapsIntoRange 71581349 := ⟨by decide, 1, by decide, by decide⟩
  have hless : ¬ WrapsIntoRange 71581348 := hsmall (by decide) (by decide)
  have hminutes := hspelled (by decide) (by decide) (fun _ => some (toString (71581349 : Int))) rfl
  have hseconds : offsetSeconds ⟨"", "", 71581349⟩ = .ok (-86356) := rfl
  refine ⟨hleast, hseconds, hwraps hleast, hless, hexact.2 hless, hminutes, (hsame _ hminutes).2 ?_⟩
  rw [hstart, hseconds]
  exact ⟨_, rfl⟩

end Config

end SalesLedger
