import Mathlib.Algebra.Group.Int.Defs
import SalesLedger.Parameters.Normalize
import SalesLedger.Proofs.DateReading
import SalesLedger.Proofs.Strictness

/-!
# Numbers of rows

How many rows a value asks for, and which number a statement binds for them. `limitOf?_exact`: a
value asks for the number that it is exactly, up to the greatest of 64 bits, but for the doubles of
2^64, which ask for one row less; and the last value of a statement is that number, or the greatest
of 63 bits, and never below zero.

* `Denotes`: the number that a value is exactly; `IsOneBeyond`: the doubles of 2^64.
* `limitOfText?_eq_some_iff`, `limitOf?_integer_iff`, `limitOf?_real_iff`: texts, whole numbers and
  doubles.
-/

namespace SalesLedger

open Decimal Calendar

/-! ## Exact values -/

/-- A row of digits, with a plus sign before it or not, spells a number. -/
def Spells (cs : List Char) (n : Nat) : Prop :=
  ∃ digits, (cs = digits ∨ cs = '+' :: digits) ∧
    digits ≠ [] ∧ AreDigits digits ∧ Nat.ofDigitChars 10 digits 0 = n

/-- A value is a natural number exactly: a number as large, or a text that spells it between
blanks. -/
inductive Denotes : Json → Nat → Prop where
  | integer (n : Nat) : Denotes (.integer n) n
  | real {x : Float} {n : Nat} (hfinite : x.isFinite = true)
      (h : Binary64.units x = n * Binary64.unitsOfOne) : Denotes (.real x) n
  | text {s : String} {n : Nat} (h : Spells (Text.trim s).toList n) : Denotes (.text s) n

theorem Decimal.Binary64.exactInt?_eq_some_iff {x : Float} {n : Int} :
    exactInt? x = some n ↔ x.isFinite = true ∧ units x = n * unitsOfOne := by
  have hpos : (unitsOfOne : Int) ≠ 0 := Int.natCast_ne_zero.2 (Nat.ne_of_gt unitsOfOne_pos)
  unfold exactInt?
  simp only [Bool.and_eq_true, beq_iff_eq]
  constructor
  · intro h
    split at h
    · rename_i hwhole
      cases h
      exact ⟨hwhole.1, (Int.ediv_mul_cancel (Int.dvd_of_emod_eq_zero hwhole.2)).symm⟩
    · cases h
  · rintro ⟨hfinite, hunits⟩
    rw [if_pos ⟨hfinite, by rw [hunits, Int.mul_emod_left]⟩, hunits, Int.mul_ediv_cancel _ hpos]

/-! ## Each kind of value -/

theorem limitOfText?_eq_some_iff {s : String} {n : Nat} :
    limitOfText? s = some n ↔ Spells s.toList n ∧ n ≤ largestLimit := by
  have hplus : Text.isDigit '+' = false := by decide
  unfold limitOfText?
  simp only [Option.filter_eq_some_iff, decimal?_eq_some_iff, decide_eq_true_eq]
  refine and_congr_left fun _ => ?_
  split
  · rename_i rest hs
    rw [hs]
    constructor
    · exact fun h => ⟨rest, .inr rfl, h⟩
    · rintro ⟨digits, rfl | hrest, h⟩
      · have hdigit := h.2.1 '+' List.mem_cons_self
        rw [hplus] at hdigit
        cases hdigit
      · cases hrest
        exact h
  · rename_i hs
    constructor
    · exact fun h => ⟨s.toList, .inl rfl, h⟩
    · rintro ⟨digits, rfl | hrest, h⟩
      · exact h
      · exact absurd hrest (hs digits)

theorem limitOf?_integer_iff {m : Int} {n : Nat} :
    limitOf? (.integer m) = some n ↔ m = n ∧ n ≤ largestLimit := by
  rw [limitOf?]
  constructor
  · intro h
    split at h
    · cases h
      omega
    · cases h
  · rintro ⟨rfl, hn⟩
    rw [if_pos (by omega), Int.toNat_natCast]

/-- The doubles of 2^64, one more than 64 bits hold. -/
def IsOneBeyond (v : Json) : Prop :=
  ∃ x, v = .real x ∧ Denotes v (2 ^ 64)

theorem denotes_real_iff {x : Float} {n : Nat} :
    Denotes (.real x) n ↔ Binary64.exactInt? x = some (n : Int) := by
  rw [Binary64.exactInt?_eq_some_iff]
  constructor
  · rintro ⟨⟩
    exact ⟨‹_›, ‹_›⟩
  · exact fun h => .real h.1 h.2

theorem isOneBeyond_real_iff {x : Float} :
    IsOneBeyond (.real x) ↔ Binary64.exactInt? x = some (largestLimit + 1 : Int) := by
  rw [show (largestLimit + 1 : Int) = ((2 ^ 64 : Nat) : Int) from rfl, ← denotes_real_iff]
  constructor
  · rintro ⟨_, -, h⟩
    exact h
  · exact fun h => ⟨x, rfl, h⟩

theorem limitOf?_real_iff {x : Float} {n : Nat} : limitOf? (.real x) = some n ↔
    Denotes (.real x) n ∧ n ≤ largestLimit ∨ IsOneBeyond (.real x) ∧ n = largestLimit := by
  rw [denotes_real_iff, isOneBeyond_real_iff, limitOf?]
  cases Binary64.exactInt? x with
  | none => simp
  | some m =>
    simp only [Option.some.injEq]
    constructor
    · intro h
      split at h
      · cases h
        omega
      · cases h
    · rintro (⟨rfl, hn⟩ | ⟨rfl, rfl⟩)
      · rw [if_pos (by omega)]
        congr 1
        omega
      · rw [if_pos (by omega)]
        congr 1

/-- **A value asks for the number that it is**, but for the doubles of 2^64, which ask for one row
less. -/
theorem limitOf?_eq_some_iff {v : Json} {n : Nat} : limitOf? v = some n ↔
    Denotes v n ∧ n ≤ largestLimit ∨ IsOneBeyond v ∧ n = largestLimit := by
  cases v with
  | real x => exact limitOf?_real_iff
  | integer m =>
    rw [limitOf?_integer_iff]
    constructor
    · rintro ⟨rfl, hn⟩
      exact .inl ⟨.integer n, hn⟩
    · rintro (⟨⟨⟩, hn⟩ | ⟨⟨x, hx, -⟩, -⟩)
      · exact ⟨rfl, hn⟩
      · cases hx
  | text s =>
    rw [limitOf?, limitOfText?_eq_some_iff]
    constructor
    · exact fun h => .inl ⟨.text h.1, h.2⟩
    · rintro (⟨⟨⟩, hn⟩ | ⟨⟨x, hx, -⟩, -⟩)
      · exact ⟨‹_›, hn⟩
      · cases hx
  | _ =>
    constructor
    · intro h
      cases h
    · rintro (⟨⟨⟩, -⟩ | ⟨⟨x, hx, -⟩, -⟩)
      cases hx

theorem not_denotes_of_isOneBeyond {v : Json} (h : IsOneBeyond v) : ¬ Denotes v largestLimit := by
  have ⟨x, hv, _⟩ := h
  subst hv
  rw [isOneBeyond_real_iff] at h
  rw [denotes_real_iff, h, Option.some.injEq]
  omega

/-! ## Statements -/

namespace Query

open Sql

variable {p : ParameterSet} {schema : Schema} {today : Date} {shape : Shape}

theorem boundLimit_eq (n : Nat) :
    ∃ m : Int, Select.boundLimit n = .integer m ∧ 0 ≤ m ∧ m = min (n : Int) (2 ^ 63 - 1) :=
  ⟨_, rfl, by omega, rfl⟩

theorem bound_of_limit {n : Nat} {q : Compiled} (hlimit : p.limit = some n)
    (hq : compile p schema today shape = .ok q) :
    ∃ values, q.bound = values ++ [Select.boundLimit n] := by
  obtain ⟨-, rfl⟩ := compile_ok hq
  have hrow : rowLimit? p shape = some n := by
    cases shape <;> simp [rowLimit?, hlimit]
  simp only [Compiled.bound, Select.bound, compiled, hrow, Option.map_some, Option.toList_some]
  exact ⟨_, rfl⟩

theorem exists_compile_strict_iff :
    (∃ q, compile p schema today .strict = .ok q) ↔ ¬ LacksAxis p schema := by
  rw [← isRefused_strict_iff, compile]
  cases isRefused p schema .strict <;> simp

end Query

/-- **Numbers of rows.** A value asks for the number that it is exactly, if 64 bits hold it, just if
it is no double of 2^64; those ask for the greatest of 64 bits. A statement for a number of rows
binds it as its last value, or the greatest of 63 bits, and never one below zero. Lenient callers
always get a statement, strict ones where no axis is missing. -/
theorem limitOf?_exact (v : Json) (p : ParameterSet) (schema : Schema) (today : Date) (n : Nat) :
    ((∀ m, limitOf? v = some m ↔ Denotes v m ∧ m ≤ 2 ^ 64 - 1) ↔ ¬ IsOneBeyond v) ∧
    (IsOneBeyond v → limitOf? v = some (2 ^ 64 - 1)) ∧
    (p.limit = some n →
      (∃ m : Int, 0 ≤ m ∧ m = min (n : Int) (2 ^ 63 - 1) ∧
        ∀ shape q, Query.compile p schema today shape = .ok q →
          ∃ values, q.bound = values ++ [.integer m]) ∧
      (∃ q, Query.compile p schema today .lenient = .ok q) ∧
      ((∃ q, Query.compile p schema today .strict = .ok q) ↔ ¬ Query.LacksAxis p schema)) := by
  have hlargest : 2 ^ 64 - 1 = largestLimit := rfl
  rw [hlargest]
  have hbeyond : IsOneBeyond v → limitOf? v = some largestLimit :=
    fun h => limitOf?_eq_some_iff.2 (.inr ⟨h, rfl⟩)
  refine ⟨⟨fun hexact h => ?_, fun h m => ?_⟩, hbeyond, fun hlimit => ?_⟩
  · exact not_denotes_of_isOneBeyond h ((hexact _).1 (hbeyond h)).1
  · rw [limitOf?_eq_some_iff, or_iff_left fun hm => h hm.1]
  · obtain ⟨m, hbound, hnonneg, hm⟩ := Query.boundLimit_eq n
    refine ⟨⟨m, hnonneg, hm, fun shape q hq => ?_⟩, ⟨_, Query.compile_lenient p schema today⟩,
      Query.exists_compile_strict_iff⟩
    rw [← hbound]
    exact Query.bound_of_limit hlimit hq

/-- A set for the greatest number of rows. -/
def everyRow : ParameterSet := { ParameterSet.empty with limit := some (2 ^ 64 - 1) }

/-- The greatest number of 64 bits as a text, and a statement for as many rows; and a double that
asks for as many, although it is one more, while its digits as a text ask for nothing. -/
theorem limitOf?_exact_greatest :
    limitOf? (.text " +18446744073709551615 ") = some (2 ^ 64 - 1) ∧
    (∃ q values, Query.compile everyRow ⟨["item"]⟩ ⟨2025, 2, 20, by decide⟩ .lenient = .ok q ∧
      q.bound = values ++ [.integer (2 ^ 63 - 1)]) ∧
    IsOneBeyond (.real 18446744073709551616) ∧
    limitOf? (.real 18446744073709551616) = some (2 ^ 64 - 1) ∧
    limitOf? (.text "18446744073709551616") = none := by
  obtain ⟨hexact, -, hstatement⟩ := limitOf?_exact (.text " +18446744073709551615 ") everyRow
    ⟨["item"]⟩ ⟨2025, 2, 20, by decide⟩ (2 ^ 64 - 1)
  obtain ⟨⟨m, -, hm, hbound⟩, ⟨q, hq⟩, -⟩ := hstatement rfl
  obtain ⟨values, hvalues⟩ := hbound .lenient q hq
  have htext : ¬ IsOneBeyond (.text " +18446744073709551615 ") := fun ⟨_, h, _⟩ => nomatch h
  have hdigits : AreDigits "18446744073709551615".toList :=
    List.all_eq_true.1 (by decide +kernel : "18446744073709551615".toList.all Text.isDigit = true)
  have hspells : Spells (Text.trim " +18446744073709551615 ").toList (2 ^ 64 - 1) :=
    ⟨_, .inr (by decide +kernel), by decide +kernel, hdigits, by decide +kernel⟩
  have hbeyond : IsOneBeyond (.real 18446744073709551616) :=
    isOneBeyond_real_iff.2 (by decide +kernel)
  refine ⟨(hexact.2 htext _).2 ⟨.text hspells, Nat.le_refl _⟩, ⟨q, values, hq, ?_⟩, hbeyond,
    (limitOf?_exact _ everyRow ⟨[]⟩ ⟨2025, 2, 20, by decide⟩ 0).2.1 hbeyond, by decide +kernel⟩
  rw [hvalues, hm]
  rfl

end SalesLedger
