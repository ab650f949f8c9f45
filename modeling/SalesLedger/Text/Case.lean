import SalesLedger.Text.Ascii
import SalesLedger.Text.CaseTable

/-!
# Letter case

Two ways of reading a name without its case. `lowerAscii` knows the letters A to Z alone and is
used for fixed words; `lower` is Unicode's full lowercase mapping and is used for column names.
The full mapping gives one character two (a dotted capital I keeps its dot) and writes a capital
sigma by its place: at the end of a word it takes the final form.

Main statements: `lowerAscii_idem`, `equalAscii_refl`, `equalAscii_trans`.
-/

namespace SalesLedger.Text

/-- Membership in a table of inclusive ranges. -/
def inRanges (table : List (Nat × Nat)) (c : Char) : Bool :=
  table.any fun r => r.1 ≤ c.toNat && c.toNat ≤ r.2

/-! ## ASCII -/

/-- The text with A to Z in lower case. -/
def lowerAscii (s : String) : String :=
  String.ofList (s.toList.map lowerLetter)

/-- Two texts that differ at most in the case of the letters A to Z. -/
def equalAscii (s t : String) : Bool :=
  lowerAscii s == lowerAscii t

/-! ## The full mapping -/

/-- The lowercase partner of one character outside its context. -/
def lowerChar (c : Char) : List Char :=
  if c.toNat < 0x80 then [lowerLetter c]
  else if c.toNat == 0x130 then ['i', Char.ofNat 0x307]
  else
    match lowerRuns.find? fun r =>
        r.1 ≤ c.toNat && c.toNat ≤ r.2.1 && (c.toNat - r.1) % r.2.2.1 == 0 with
    | some r => [Char.ofNat (c.toNat + r.2.2.2).toNat]
    | none => [c]

/-- Whether the nearest character that is not looked through has a case. -/
def reachesCased (cs : List Char) : Bool :=
  match cs.dropWhile (inRanges caseIgnorableRanges) with
  | [] => false
  | c :: _ => inRanges casedRanges c

/-- The lowercase form of what follows, given the characters before it, nearest first. A capital
sigma after a cased character and not before one ends a word. -/
def lowerAfter : List Char → List Char → List Char
  | _, [] => []
  | before, c :: cs =>
    let here :=
      if c.toNat == 0x3a3 then
        if reachesCased before && !reachesCased cs then [Char.ofNat 0x3c2]
        else [Char.ofNat 0x3c3]
      else lowerChar c
    here ++ lowerAfter (c :: before) cs

/-- The lowercase form of a text. -/
def lower (s : String) : String :=
  String.ofList (lowerAfter [] s.toList)

/-! ## Laws -/

theorem lowerAscii_idem (s : String) : lowerAscii (lowerAscii s) = lowerAscii s := by
  simp [lowerAscii, Function.comp_def, lowerLetter_idem]

theorem equalAscii_iff {s t : String} : equalAscii s t = true ↔ lowerAscii s = lowerAscii t := by
  simp [equalAscii]

theorem equalAscii_refl (s : String) : equalAscii s s = true := by simp [equalAscii]

theorem equalAscii_symm {s t : String} (h : equalAscii s t = true) : equalAscii t s = true := by
  simp_all [equalAscii]

theorem equalAscii_trans {s t u : String} (h : equalAscii s t = true)
    (h' : equalAscii t u = true) : equalAscii s u = true := by
  simp_all [equalAscii]

end SalesLedger.Text
