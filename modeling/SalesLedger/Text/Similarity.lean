/-!
# How alike two names are

The Jaro-Winkler score behind "did you mean" hints. Two equal characters match when they stand
close enough to each other and neither is taken yet; the score averages the matched share of
either name with the share of matches that keep their order, and a common beginning lifts a score
that is already high.
-/

namespace SalesLedger.Text.Similarity

/-- Takes the first free character equal to `c` among those at distance `lo` to `hi` from the
front, and marks it as taken. -/
def take (c : Char) : Nat → Nat → List (Char × Bool) → Option (List (Char × Bool))
  | _, _, [] => none
  | _, 0, _ => none
  | 0, hi + 1, (d, taken) :: rest =>
    if c == d && !taken then some ((d, true) :: rest)
    else (take c 0 hi rest).map ((d, taken) :: ·)
  | lo + 1, hi + 1, entry :: rest => (take c lo hi rest).map (entry :: ·)

/-- The characters of the first name that found a partner, in order, and the second name with its
partners marked. Position `i` looks at most `reach` places to either side. -/
def pair (reach : Nat) : Nat → List Char → List (Char × Bool) → List Char × List (Char × Bool)
  | _, [], marks => ([], marks)
  | i, c :: cs, marks =>
    match take c (i - reach) (i + reach + 1) marks with
    | some marks' =>
      let (found, last) := pair reach (i + 1) cs marks'
      (c :: found, last)
    | none => pair reach (i + 1) cs marks

/-- The Jaro score, between 0 and 1. -/
def jaro (a b : List Char) : Float :=
  if a.isEmpty && b.isEmpty then 1
  else if a.isEmpty || b.isEmpty then 0
  else
    let reach := max a.length b.length / 2 - 1
    let (found, marks) := pair reach 0 a (b.map (·, false))
    let partners := (marks.filter (·.2)).map (·.1)
    let swaps := ((found.zip partners).filter fun p => p.1 != p.2).length / 2
    let matched := Float.ofNat found.length
    if found.isEmpty then 0
    else
      (matched / Float.ofNat a.length + matched / Float.ofNat b.length
        + Float.ofNat (found.length - swaps) / matched) / 3

/-- How many characters the two names begin with in common. -/
def commonPrefix : List Char → List Char → Nat
  | a :: as, b :: bs => if a == b then commonPrefix as bs + 1 else 0
  | _, _ => 0

/-- The Jaro-Winkler score: a score above 0.7 gains a tenth of what it lacks for each of the
first four characters in common. -/
def score (a b : List Char) : Float :=
  let base := jaro a b
  if base > 0.7 then base + 0.1 * Float.ofNat (commonPrefix (a.take 4) b) * (1 - base) else base

/-! ## Laws -/

theorem score_nil_nil : score [] [] = 1 := by decide

end SalesLedger.Text.Similarity
