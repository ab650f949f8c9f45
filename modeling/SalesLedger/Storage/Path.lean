/-!
# Paths

A path is written with slashes and means a place: a row of names from the top of the file system.
A path that does not begin at the top begins at the working directory. A dot means the same place
and two dots the place above.

Main statement: `getLast?_visited`, the way of a path ends at its place.
-/

namespace SalesLedger.Storage

/-- A place in the file system: the names on the way to it. -/
abbrev Place := List String

namespace Path

/-- A path to a file in a directory. -/
def join (dir file : String) : String :=
  if dir = "" then file
  else if dir.toList.getLast? = some '/' then dir ++ file
  else dir ++ "/" ++ file

/-- The pieces of a list between its separators. There is always one. -/
def pieces {α : Type} (separates : α → Bool) : List α → List (List α)
  | [] => [[]]
  | x :: xs =>
    if separates x then [] :: pieces separates xs
    else
      match pieces separates xs with
      | piece :: rest => (x :: piece) :: rest
      | [] => [[x]]

/-- The parts of a path between its slashes. -/
def parts (path : String) : List String :=
  (pieces (· == '/') path.toList).map String.ofList

/-- Whether a part of a path leads nowhere. -/
def isIdle (part : String) : Bool :=
  part = "" || part = "."

def names (path : String) : List String :=
  (parts path).filter fun part => !isIdle part

def endsInDot (path : String) : Bool :=
  ((parts path).filter (· ≠ "")).getLast? = some "."

/-- The path without its last name: that of the directory that it lies in. -/
def above (path : String) : String :=
  let rest := ((parts path).reverse.dropWhile isIdle).drop 1
  "/".intercalate (rest.dropWhile isIdle).reverse

/-- One name further: two dots go one place up. -/
def step (place : Place) (name : String) : Place :=
  if name = ".." then place.dropLast else place ++ [name]

/-- The place where a path begins. -/
def start (working : Place) (path : String) : Place :=
  if path.toList.head? = some '/' then [] else working

/-- The place that a path means from a working directory. -/
def place (working : Place) (path : String) : Place :=
  (names path).foldl step (start working path)

/-- The places that names lead through from a place, that place first. -/
def visited (here : Place) : List String → List Place
  | [] => [here]
  | name :: rest => here :: visited (step here name) rest

/-! ## Laws -/

theorem pieces_of_none {α : Type} {separates : α → Bool} {xs : List α}
    (h : ∀ x ∈ xs, separates x = false) : pieces separates xs = [xs] := by
  induction xs with
  | nil => rfl
  | cons x xs ih =>
    simp [pieces, h x (by simp), ih fun y hy => h y (by simp [hy])]

theorem visited_ne_nil (here : Place) (names : List String) : visited here names ≠ [] := by
  cases names <;> simp [visited]

theorem getLast?_visited (here : Place) (names : List String) :
    (visited here names).getLast? = some (names.foldl step here) := by
  induction names generalizing here with
  | nil => rfl
  | cons name rest ih =>
    rw [visited, List.getLast?_cons_of_ne_nil (visited_ne_nil _ _), ih, List.foldl_cons]

end Path

end SalesLedger.Storage
