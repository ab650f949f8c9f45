import SalesLedger.Json.Skip
import SalesLedger.Steps

/-!
# Numbers and texts that are read or passed over

A number or a text that the reader of values takes is passed over just as well, up to the same
place. What is passed over may be more: a number without range, halves of pairs.

* `Numeral.skipNumber_of_read` and `Quoted.skip_of_read`: what is read is passed over.
* `length_lt_of_skipNumber`, `Quoted.length_lt_of_skip`: either takes one character at least.
-/

namespace SalesLedger.Json

variable {cs cs' rest : List Char} {c : Char} {v : Json} {positive : Bool} {digits : Nat}

/-! ## Numbers -/

namespace Numeral

open Text (digit? isDigit)

variable {exponent start before : Int}

theorem skipDigits_cons_of_isDigit (h : isDigit c = true) (cs : List Char) :
    skipDigits (c :: cs) = ((skipDigits cs).1 + 1, (skipDigits cs).2) := by
  obtain ⟨d, hd⟩ := Option.isSome_iff_exists.1 h
  rw [skipDigits, hd]

theorem skipDigits_cons_of_not_isDigit (h : isDigit c = false) (cs : List Char) :
    skipDigits (c :: cs) = (0, c :: cs) := by
  rw [skipDigits, Option.isSome_eq_false_iff.1 h |> Option.isNone_iff_eq_none.1]

/-- Digits that are gathered and then the digits that are left are all the first digits. -/
theorem skipDigits_eq_fill (n : Nat) (cs : List Char) :
    skipDigits cs = ((fill n cs).2.1 + (skipDigits (fill n cs).2.2).1,
      (skipDigits (fill n cs).2.2).2) := by
  induction cs generalizing n with
  | nil => rfl
  | cons c cs ih =>
    cases hc : digit? c with
    | none => simp only [fill, hc, Nat.zero_add]
    | some d =>
      by_cases hfull : n * 10 + d ≤ largest
      · simp only [fill, hc, hfull, if_true]
        rw [skipDigits, hc, ih (n * 10 + d)]
        simp only [Nat.add_right_comm]
      · simp only [fill, hc, hfull, if_false, Nat.zero_add]

theorem skipDigits_fill (n : Nat) (cs : List Char) :
    (skipDigits (fill n cs).2.2).2 = (skipDigits cs).2 := by
  rw [skipDigits_eq_fill n cs]

theorem rest_of_exponentDigits {n m : Nat} (h : exponentDigits n cs = .ok (m, rest)) :
    rest = (skipDigits cs).2 := by
  induction cs generalizing n with
  | nil =>
    cases h
    rfl
  | cons c cs ih =>
    cases hc : digit? c with
    | none =>
      simp only [exponentDigits, hc, Except.ok.injEq, Prod.mk.injEq] at h
      simp only [skipDigits, hc, h.2]
    | some d =>
      simp only [exponentDigits, hc] at h
      simp only [skipDigits, hc]
      split at h
      · exact ih h
      · cases h

theorem skipDigits_of_exponentDigits {n : Nat} (h : exponentDigits n cs = .error rest) :
    (skipDigits rest).2 = (skipDigits cs).2 := by
  induction cs generalizing n with
  | nil => cases h
  | cons c cs ih =>
    cases hc : digit? c with
    | none =>
      simp only [exponentDigits, hc] at h
      cases h
    | some d =>
      simp only [exponentDigits, hc] at h
      simp only [skipDigits, hc]
      split at h
      · exact ih h
      · rw [Except.error.inj h]

theorem rest_of_finish (h : finish positive digits exponent cs = .ok (v, rest)) : rest = cs := by
  unfold finish at h
  split at h
  · cases h
    rfl
  · cases h

/-- Whether an exponent counts up, and what follows its sign. -/
def exponentSign (cs : List Char) : Bool × List Char :=
  match cs with
  | '+' :: rest => (true, rest)
  | '-' :: rest => (false, rest)
  | _ => (true, cs)

/-- What follows the sign of an exponent. -/
def exponentValue (positive : Bool) (digits : Nat) (start : Int) (up : Bool) (cs : List Char) :
    Except Stop (Json × List Char) :=
  match cs with
  | [] => .error (.before .eofValue [])
  | c :: rest =>
    match digit? c with
    | none => .error (.at .invalidNumber (c :: rest))
    | some d =>
      match exponentDigits d rest with
      | .ok (n, rest) => finish positive digits (if up then start + n else start - n) rest
      | .error rest =>
        if digits ≠ 0 ∧ up then .error (.before .outOfRange rest)
        else .ok (.real (signed positive 0), (skipDigits rest).2)

theorem exponentPart_eq (positive : Bool) (digits : Nat) (start : Int) (cs : List Char) :
    exponentPart positive digits start cs =
      exponentValue positive digits start (exponentSign cs).1 (exponentSign cs).2 := by
  unfold exponentPart
  split
  rename_i up left hleft
  rw [show exponentSign cs = (up, left) from hleft]
  rfl

theorem exists_of_exponentValue {up : Bool}
    (h : exponentValue positive digits start up cs = .ok (v, rest)) :
    ∃ c left, cs = c :: left ∧ isDigit c = true ∧ rest = (skipDigits left).2 := by
  cases cs with
  | nil => cases h
  | cons c left =>
    cases hc : digit? c with
    | none =>
      simp only [exponentValue, hc] at h
      cases h
    | some d =>
      refine ⟨c, left, rfl, by rw [isDigit, hc, Option.isSome_some], ?_⟩
      cases hdigits : exponentDigits d left with
      | ok found =>
        simp only [exponentValue, hc, hdigits] at h
        rw [rest_of_finish h, ← rest_of_exponentDigits hdigits]
      | error after =>
        simp only [exponentValue, hc, hdigits] at h
        split at h
        · cases h
        · cases h
          exact skipDigits_of_exponentDigits hdigits

/-- Passes over what follows the sign of an exponent. -/
def skipExponentValue : List Char → Except Stop (List Char)
  | [] => .error (.before .invalidNumber [])
  | c :: rest =>
    if isDigit c then .ok (skipDigits rest).2 else .error (.at .invalidNumber (c :: rest))

theorem exponentSign_snd (cs : List Char) : (exponentSign cs).2 =
    match cs with
    | '+' :: rest => rest
    | '-' :: rest => rest
    | _ => cs := by
  unfold exponentSign
  split <;> rfl

theorem skipExponent_eq (cs : List Char) :
    skipExponent cs = skipExponentValue (exponentSign cs).2 := by
  rw [exponentSign_snd]
  rfl

/-- An exponent that is read is passed over. -/
theorem skipExponent_of_read (h : exponentPart positive digits start cs = .ok (v, rest)) :
    skipExponent cs = .ok rest := by
  rw [exponentPart_eq] at h
  obtain ⟨c, left, hleft, hc, rfl⟩ := exists_of_exponentValue h
  rw [skipExponent_eq, hleft]
  exact if_pos hc

theorem skipExponent?_of_read (h : afterDigits positive digits exponent cs = .ok (v, rest)) :
    skipExponent? cs = .ok rest := by
  cases cs with
  | nil => rw [rest_of_finish h]; rfl
  | cons c cs =>
    simp only [afterDigits] at h
    simp only [skipExponent?]
    split at h
    · rename_i hc
      rw [if_pos hc]
      exact skipExponent_of_read h
    · rename_i hc
      rw [if_neg hc, rest_of_finish h]

theorem skipFraction_of_read
    (h : fractionPart positive digits before cs = .ok (v, rest)) :
    skipFraction ('.' :: cs) = .ok rest := by
  have hskip : skipFraction ('.' :: cs) =
      if (skipDigits cs).1 = 0 then .error (.at .invalidNumber (skipDigits cs).2)
      else skipExponent? (skipDigits cs).2 := rfl
  rw [hskip, skipDigits_eq_fill digits cs]
  unfold fractionPart at h
  generalize fill digits cs = gathered at h ⊢
  obtain ⟨number, taken, left⟩ := gathered
  cases left with
  | nil =>
    simp only at h
    split at h
    · cases h
    · rename_i htaken
      simp only [skipDigits, Nat.add_zero, htaken, if_false]
      rw [rest_of_finish h]
      rfl
  | cons c left =>
    cases hc : isDigit c with
    | true =>
      simp only [hc, if_true] at h
      rw [skipDigits_cons_of_isDigit hc] at h ⊢
      exact skipExponent?_of_read h
    | false =>
      simp only [hc, Bool.false_eq_true, if_false] at h
      simp only [skipDigits_cons_of_not_isDigit hc, Nat.add_zero]
      split at h
      · cases h
      · rename_i htaken
        rw [if_neg htaken]
        exact skipExponent?_of_read h

theorem skipFraction_of_afterWhole {skipped : Nat}
    (h : afterWhole positive digits skipped cs = .ok (v, rest)) : skipFraction cs = .ok rest := by
  unfold afterWhole at h
  split at h
  · exact skipFraction_of_read h
  · rename_i c left hpoint
    have hskip : skipFraction (c :: left) = skipExponent? (c :: left) := by
      unfold skipFraction
      split
      · rename_i heq
        cases heq
        exact (hpoint rfl).elim
      · rfl
    rw [hskip, skipExponent?]
    split at h
    · rename_i hc
      rw [if_pos hc]
      exact skipExponent_of_read h
    · rename_i hc
      rw [if_neg hc]
      split at h
      · rw [rest_of_finish h]
      · cases h
        rfl
  · have hskip : skipFraction [] = .ok [] := rfl
    split at h
    · rw [rest_of_finish h, hskip]
    · cases h
      exact hskip

/-- A character is no digit, a zero or another digit. -/
theorem digit?_cases (c : Char) :
    digit? c = none ∨ digit? c = some 0 ∨ ∃ d, digit? c = some (d + 1) := by
  rcases digit? c with _ | _ | d
  · exact .inl rfl
  · exact .inr (.inl rfl)
  · exact .inr (.inr ⟨d, rfl⟩)

/-- **A number that is read is passed over.** -/
theorem skipNumber_of_read (h : read positive cs = .ok (v, rest)) : skipNumber cs = .ok rest := by
  unfold read at h
  unfold skipNumber
  cases cs with
  | nil => cases h
  | cons c left =>
    obtain hc | hc | ⟨d, hc⟩ := digit?_cases c
    · simp only [hc] at h
      cases h
    · simp only [hc] at h ⊢
      cases left with
      | nil => exact skipFraction_of_afterWhole h
      | cons d left =>
        dsimp only at h ⊢
        split at h
        · cases h
        · rename_i hd
          rw [if_neg hd]
          exact skipFraction_of_afterWhole h
    · simp only [hc] at h ⊢
      rw [← skipDigits_fill (d + 1) left]
      exact skipFraction_of_afterWhole h

/-! ### Values of numbers -/

theorem isSome_of_finish (h : finish positive digits exponent cs = .ok (v, rest)) :
    v.float?.isSome = true := by
  unfold finish at h
  split at h
  · cases h
    rfl
  · cases h

theorem isSome_of_exponentPart (h : exponentPart positive digits start cs = .ok (v, rest)) :
    v.float?.isSome = true := by
  rw [exponentPart_eq] at h
  unfold exponentValue at h
  split at h
  · cases h
  · split at h
    · cases h
    · split at h
      · exact isSome_of_finish h
      · split at h
        · cases h
        · cases h
          rfl

theorem isSome_of_afterDigits (h : afterDigits positive digits exponent cs = .ok (v, rest)) :
    v.float?.isSome = true := by
  unfold afterDigits at h
  split at h
  · split at h
    · exact isSome_of_exponentPart h
    · exact isSome_of_finish h
  · exact isSome_of_finish h

theorem isSome_of_fractionPart (h : fractionPart positive digits before cs = .ok (v, rest)) :
    v.float?.isSome = true := by
  unfold fractionPart at h
  generalize fill digits cs = gathered at h
  obtain ⟨number, taken, left⟩ := gathered
  simp only at h
  split at h
  · split at h
    · exact isSome_of_afterDigits h
    · split at h
      · cases h
      · exact isSome_of_afterDigits h
  · split at h
    · cases h
    · exact isSome_of_finish h

theorem isSome_whole (positive : Bool) (digits : Nat) :
    (afterWhole.whole positive digits).float?.isSome = true := by
  unfold afterWhole.whole
  split
  · rfl
  · split <;> rfl

theorem isSome_of_afterWhole {skipped : Nat}
    (h : afterWhole positive digits skipped cs = .ok (v, rest)) : v.float?.isSome = true := by
  unfold afterWhole at h
  split at h
  · exact isSome_of_fractionPart h
  · split at h
    · exact isSome_of_exponentPart h
    · split at h
      · exact isSome_of_finish h
      · cases h
        exact isSome_whole positive digits
  · split at h
    · exact isSome_of_finish h
    · cases h
      exact isSome_whole positive digits

/-- What is read as a number is a number. -/
theorem isSome_of_read (h : read positive cs = .ok (v, rest)) : v.float?.isSome = true := by
  unfold read at h
  split at h
  · cases h
  · split at h
    · cases h
    · split at h
      · split at h
        · cases h
        · exact isSome_of_afterWhole h
      · exact isSome_of_afterWhole h
    · exact isSome_of_afterWhole h

end Numeral

/-! ### What is left is shorter -/

open Numeral Text

theorem length_le_of_skipExponent (h : skipExponent cs = .ok rest) :
    rest.length ≤ cs.length := by
  have hsign : (exponentSign cs).2.length ≤ cs.length := by
    unfold exponentSign
    split <;> simp
  rw [skipExponent_eq] at h
  refine Nat.le_trans ?_ hsign
  cases hleft : (exponentSign cs).2 with
  | nil =>
    rw [hleft] at h
    cases h
  | cons c left =>
    rw [hleft, skipExponentValue] at h
    split at h
    · cases h
      exact Nat.le_succ_of_le (length_skipDigits_le left)
    · cases h

theorem length_le_of_skipExponent? (h : skipExponent? cs = .ok rest) :
    rest.length ≤ cs.length := by
  cases cs with
  | nil =>
    cases h
    exact Nat.le_refl _
  | cons c cs =>
    simp only [skipExponent?] at h
    split at h
    · exact Nat.le_succ_of_le (length_le_of_skipExponent h)
    · cases h
      exact Nat.le_refl _

theorem length_le_of_skipFraction (h : skipFraction cs = .ok rest) :
    rest.length ≤ cs.length := by
  unfold skipFraction at h
  split at h
  · rename_i left
    simp only at h
    split at h
    · cases h
    · have := length_skipDigits_le left
      have := length_le_of_skipExponent? h
      rw [List.length_cons]
      omega
  · exact length_le_of_skipExponent? h

theorem length_lt_of_skipNumber (h : skipNumber cs = .ok rest) : rest.length < cs.length := by
  cases cs with
  | nil => cases h
  | cons c cs =>
    rw [List.length_cons, Nat.lt_succ_iff]
    simp only [skipNumber] at h
    split at h
    · cases h
    · split at h
      · split at h
        · cases h
        · exact length_le_of_skipFraction h
      · cases h
        exact Nat.le_refl _
    · exact Nat.le_trans (length_le_of_skipFraction h) (length_skipDigits_le cs)

/-! ## Texts -/

namespace Quoted

variable {n m : Nat} {d : Char} {ds : List Char} {s : String}

theorem length_of_mapM {α β : Type} {f : α → Option β} {xs : List α} {ys : List β}
    (h : xs.mapM f = some ys) : xs.length = ys.length := by
  induction xs generalizing ys with
  | nil =>
    cases h
    rfl
  | cons x xs ih =>
    simp only [List.mapM_cons, Option.bind_eq_bind, Option.bind_eq_some_iff, Option.pure_def,
      Option.some.injEq] at h
    obtain ⟨y, -, zs, hzs, rfl⟩ := h
    rw [List.length_cons, List.length_cons, ih hzs]

/-- Four digits are four characters. -/
theorem length_of_hexFour (h : hexFour cs = .ok (n, rest)) : cs.length = rest.length + 4 := by
  unfold hexFour at h
  split at h
  · cases h
  · split at h
    · rename_i a b c d hfour
      cases h
      have htaken : (cs.take 4).length = 4 := length_of_mapM hfour
      rw [List.length_take] at htaken
      rw [List.length_drop]
      omega
    · cases h

theorem length_lt_of_skipEscape (h : skipEscape cs = .ok rest) : rest.length < cs.length := by
  cases cs with
  | nil => cases h
  | cons c cs =>
    rw [List.length_cons]
    simp only [skipEscape] at h
    split at h
    · obtain ⟨found, hfour, rfl⟩ := map_eq_ok_iff.1 h
      have := length_of_hexFour hfour
      omega
    · split at h
      · cases h
        exact Nat.lt_succ_self _
      · cases h

/-- The second half of a pair is an escape of its own to a reader that passes over it. -/
theorem skipEscape_of_secondHalf (h : secondHalf n cs = .ok (d, rest)) :
    ∃ left, cs = '\\' :: left ∧ skipEscape left = .ok rest := by
  unfold secondHalf at h
  split at h
  · cases h
  · cases h
  · rename_i left
    obtain ⟨⟨m, after⟩, hfour, h⟩ := bind_eq_ok_iff.1 h
    simp only at h
    split at h
    · obtain ⟨-, rfl⟩ := Prod.mk.inj (Except.ok.inj h)
      exact ⟨_, rfl, map_eq_ok_iff.2 ⟨_, hfour, rfl⟩⟩
    · cases h
  · cases h
  · cases h

/-- An escape that is read is passed over, or two in a row are: the halves of a pair. -/
theorem skipEscape_of_read (h : escape cs = .ok (d, rest)) :
    skipEscape cs = .ok rest ∨
      ∃ left, skipEscape cs = .ok ('\\' :: left) ∧ skipEscape left = .ok rest := by
  cases cs with
  | nil => cases h
  | cons c cs =>
    simp only [escape] at h
    simp only [skipEscape]
    cases hc : c == 'u' with
    | false =>
      simp only [hc, Bool.false_eq_true, if_false] at h ⊢
      cases hletter : letter? c with
      | none =>
        rw [hletter] at h
        cases h
      | some e =>
        rw [hletter] at h
        cases h
        exact .inl rfl
    | true =>
      simp only [hc, if_true] at h ⊢
      obtain ⟨⟨n, left⟩, hfour, h⟩ := bind_eq_ok_iff.1 h
      have hskip : (·.2) <$> hexFour cs = .ok left := map_eq_ok_iff.2 ⟨_, hfour, rfl⟩
      simp only at h
      split at h
      · cases h
      · split at h
        · obtain ⟨after, rfl, hafter⟩ := skipEscape_of_secondHalf h
          exact .inr ⟨after, hskip, hafter⟩
        · cases h
          exact .inl hskip

theorem length_lt_of_skipChars (h : skipChars n cs = .ok rest) : rest.length < cs.length := by
  induction n generalizing cs with
  | zero => cases cs <;> cases h
  | succ n ih =>
    cases cs with
    | nil => cases h
    | cons c cs =>
      rw [List.length_cons]
      rw [skipChars] at h
      split at h
      · cases h
        exact Nat.lt_succ_self _
      · split at h
        · obtain ⟨left, hleft, h⟩ := bind_eq_ok_iff.1 h
          have := length_lt_of_skipEscape hleft
          have := ih h
          omega
        · split at h
          · cases h
          · exact Nat.lt_succ_of_lt (ih h)

theorem skipChars_escape {left : List Char} (h : skipEscape cs = .ok left) (n : Nat) :
    skipChars (n + 1) ('\\' :: cs) = skipChars n left := by
  have hskip : skipChars (n + 1) ('\\' :: cs) = skipEscape cs >>= skipChars n := rfl
  rw [hskip, h]
  rfl

/-- Characters that are read are passed over, whatever number of steps there is as long as there
is one for each character. -/
theorem skipChars_of_read (h : chars n cs = .ok (ds, rest)) (hm : cs.length ≤ m) :
    skipChars m cs = .ok rest := by
  induction n generalizing cs ds m with
  | zero => cases cs <;> cases h
  | succ n ih =>
    cases cs with
    | nil => cases h
    | cons c cs =>
      obtain ⟨m, rfl⟩ := Nat.exists_eq_succ_of_ne_zero (Nat.ne_of_gt (Nat.lt_of_lt_of_le
        (Nat.succ_pos cs.length) hm))
      have hcs : cs.length ≤ m := Nat.le_of_succ_le_succ hm
      rw [chars] at h
      split at h
      · rename_i hquote
        cases h
        rw [eq_of_beq hquote]
        rfl
      · rename_i hquote
        split at h
        · rename_i hslash
          obtain ⟨⟨d, left⟩, hleft, h⟩ := bind_eq_ok_iff.1 h
          obtain ⟨⟨es, after⟩, hchars, h⟩ := bind_eq_ok_iff.1 h
          cases h
          obtain rfl := eq_of_beq hslash
          obtain hskip | ⟨half, hskip, hother⟩ := skipEscape_of_read hleft
          · rw [skipChars_escape hskip]
            have := length_lt_of_skipEscape hskip
            exact ih hchars (by omega)
          · have hlt := length_lt_of_skipEscape hskip
            have hlt' := length_lt_of_skipEscape hother
            rw [List.length_cons] at hlt
            obtain ⟨m, rfl⟩ : ∃ k, m = k + 1 := ⟨m - 1, by omega⟩
            rw [skipChars_escape hskip, skipChars_escape hother]
            exact ih hchars (by omega)
        · rename_i hslash
          split at h
          · cases h
          · rename_i hcontrol
            obtain ⟨⟨es, after⟩, hchars, h⟩ := bind_eq_ok_iff.1 h
            cases h
            rw [skipChars, if_neg hquote, if_neg hslash, if_neg hcontrol]
            exact ih hchars hcs

/-- **A text that is read is passed over.** -/
theorem skip_of_read (h : read cs = .ok (s, rest)) : skip cs = .ok rest := by
  obtain ⟨⟨ds, left⟩, hchars, h⟩ := bind_eq_ok_iff.1 h
  cases h
  exact skipChars_of_read hchars (Nat.le_refl _)

theorem length_lt_of_skip (h : skip cs = .ok rest) : rest.length < cs.length :=
  length_lt_of_skipChars h

end Quoted

end SalesLedger.Json
