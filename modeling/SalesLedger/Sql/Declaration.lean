import SalesLedger.Sql.Expression.Reader
import SalesLedger.Sql.Fault
import SalesLedger.Sql.Layout
import SalesLedger.Sql.Width

/-!
# Declarations of tables

A table as it is declared: columns with their types and rules, and then rules of the table, with
commas between them. A rule may have a name, which the rules behind it keep until a new one comes.
Where a text goes on with something that is no rule, the rest of it says nothing.

Main statements: `keys_withKey`, a key of columns that have one already is no new key, and
`columns_withPrimary`, a primary key leaves the columns as they are.
-/

namespace SalesLedger.Sql.Declaration

open Source (after? afterAll? afterSymbol? bracketed? name? word?)

/-! ## Pieces -/

/-- What becomes of a row that breaks a rule, as it may follow the rule. -/
def resolution? (cs : List Char) : Option Resolution × List Char :=
  match (afterAll? ["on", "conflict"] cs).bind word? with
  | some ("ignore", rest) => (some .ignore, rest)
  | some ("replace", rest) => (some .replace, rest)
  | some (_, rest) => (some .abort, rest)
  | none => (none, cs)

/-- A direction, upwards where none is said. -/
def direction (cs : List Char) : SortOrder × List Char :=
  match after? "desc" cs with
  | some rest => (.descending, rest)
  | none => (.ascending, Source.skip "asc" cs)

/-- A value as it is written where nothing else is: words stand for themselves. -/
def fallback? (cs : List Char) : Option (String × List Char) :=
  let quoted (s : String) : String := String.ofList (Token.quoteWith '\'' s.toList)
  match Source.next? cs with
  | some (.symbol '(', _) => (bracketed? cs).map fun (text, rest) => (String.ofList text, rest)
  | some (.symbol _, rest) =>
    (Expression.term? rest).map fun (_, rest) => (String.ofList (Source.span cs rest), rest)
  | some (.name n, rest) => some (quoted n, rest)
  | some (.word w, rest) =>
    some (if (Expression.constant? (Text.lowerAscii w)).isSome then w else quoted w, rest)
  | some (_, rest) => some (String.ofList (Source.span cs rest), rest)
  | none => none

/-- The items of a list with commas between them, within so many, and what follows them. -/
def items? {α : Type} (item? : List Char → Option (α × List Char)) :
    Nat → List Char → Option (List α × List Char)
  | 0, _ => none
  | fuel + 1, cs => do
    let (x, rest) ← item? cs
    match afterSymbol? ',' rest with
    | some rest =>
      let (xs, rest) ← items? item? fuel rest
      pure (x :: xs, rest)
    | none => pure ([x], rest)

/-- A list in brackets, which may end in a word, and what follows it; and whether the word is
there. -/
def listed? {α : Type} (item? : List Char → Option (α × List Char)) (last : String)
    (cs : List Char) : Option (List α × Bool × List Char) := do
  let rest ← afterSymbol? '(' cs
  let (xs, rest) ← items? item? (rest.length + 1) rest
  let behind := after? last rest
  pure (xs, behind.isSome, ← afterSymbol? ')' (behind.getD rest))

/-- Names in brackets, and what follows them. -/
def names? (cs : List Char) : Option (List String × List Char) :=
  (listed? name? "" cs).map fun (names, _, rest) => (names, rest)

def keyPart? (l : Layout) (cs : List Char) : Option (KeyPart × List Char) := do
  let (n, rest) ← name? cs
  let place ← l.index? n
  let (collation, rest) :=
    match (after? "collate" rest).bind name? with
    | some (c, rest) => ((Collation.ofName? c).getD .binary, rest)
    | none => (l.collationAt place, rest)
  let (direction, rest) := direction rest
  pure (⟨place, collation, direction⟩, rest)

/-- What becomes of rows that refer to one that goes, and what follows it. -/
def removal? (cs : List Char) : Option (Removal × List Char) :=
  match word? cs with
  | some ("cascade", rest) => some (.cascade, rest)
  | some ("restrict", rest) => some (.restrict, rest)
  | some ("no", rest) => (after? "action" rest).map fun rest => (.nothing, rest)
  | some ("set", rest) =>
    match word? rest with
    | some ("null", rest) => some (.clear, rest)
    | some ("default", rest) => some (.reset, rest)
    | _ => none
  | _ => none

/-- What becomes of the rows that refer to others, as a reference says it, within so many words, and
what follows it. Only the removal of a row is minded. -/
def removals : Nat → Removal → List Char → Removal × List Char
  | 0, removal, cs => (removal, cs)
  | fuel + 1, removal, cs =>
    match (after? "match" cs).bind name?, afterAll? ["on", "delete"] cs, after? "on" cs with
    | some (_, rest), _, _ => removals fuel removal rest
    | none, some rest, _ =>
      match removal? rest with
      | some (removal, rest) => removals fuel removal rest
      | none => (removal, cs)
    | none, none, some rest =>
      match (word? rest).bind fun (_, rest) => removal? rest with
      | some (_, rest) => removals fuel removal rest
      | none => (removal, cs)
    | none, none, none => (removal, cs)

/-- Whether a reference need not hold before the transaction ends, as it may be said of it. -/
def deferral? (cs : List Char) : Option (Bool × List Char) :=
  match after? "deferrable" cs, afterAll? ["not", "deferrable"] cs with
  | some rest, _ =>
    match (after? "initially" rest).bind word? with
    | some (w, rest) => some (w = "deferred", rest)
    | none => some (false, rest)
  | none, some rest =>
    match (after? "initially" rest).bind word? with
    | some (_, rest) => some (false, rest)
    | none => some (false, rest)
  | none, none => none

/-- Where columns at places refer to, and what follows it. -/
def reference? (places : List Nat) (cs : List Char) : Option (Reference × List Char) := do
  let (table, rest) ← name? cs
  let (targets, rest) := (names? rest).getD ([], rest)
  let (onRemoval, rest) := removals (rest.length + 1) .nothing rest
  pure ({ places, table, targets, onRemoval }, rest)

/-! ## Rules of a layout -/

/-- A layout with its last column changed. -/
def withLast (l : Layout) (f : Column → Column) : Layout :=
  { l with columns := l.columns.modify (l.columns.length - 1) f }

/-- A layout with one more key. What is said of a key that is there already is said of that one. -/
def withKey (l : Layout) (k : Key) : Layout :=
  if l.keys.any k.sameColumns then
    { l with
      keys := l.keys.map fun j =>
        if k.sameColumns j then
          { j with
            isPrimary := j.isPrimary || k.isPrimary
            resolution? := j.resolution?.or k.resolution? }
        else j }
  else { l with keys := l.keys ++ [k] }

/-- Whether a column is for the numbers of rows, if it is the primary key. -/
def isForNumbers (l : Layout) (place : Nat) : Bool :=
  l.columns[place]?.any fun c => Text.equalAscii c.type "integer"

/-- A layout with a primary key. A single column for whole numbers numbers the rows, if it may. -/
def withPrimary (l : Layout) (k : Key) (mayNumber isCounter : Bool) : Layout :=
  match k.parts with
  | [p] =>
    if mayNumber && isForNumbers l p.place then
      { l with numbering? := some ⟨p.place, isCounter, k.resolution, p.direction⟩ }
    else withKey l k
  | _ => withKey l k

/-- A layout whose last column compares texts in another way, also in the keys of that column. -/
def withCollation (l : Layout) (c : Collation) : Layout :=
  let last := l.columns.length - 1
  let l := withLast l fun column => { column with collation := c }
  { l with
    keys := l.keys.map fun k =>
      if k.places = [last] then { k with parts := k.parts.map fun p => { p with collation := c } }
      else k }

/-- A layout whose last reference is looked at when it is said. -/
def withDeferral (l : Layout) (isDeferred : Bool) : Layout :=
  { l with
    references :=
      l.references.modify (l.references.length - 1) fun r => { r with isDeferred } }

/-! ## Reading -/

/-- A table of which a part is read. -/
structure Draft where
  layout : Layout
  /-- The name that the next conditions have. -/
  label? : Option String := none

/-- The table with a changed layout. -/
def Draft.change (d : Draft) (f : Layout → Layout) : Draft :=
  { d with layout := f d.layout }

/-- The key of the last column alone. -/
def Draft.lastKey (d : Draft) (isPrimary : Bool) (direction : SortOrder)
    (resolution? : Option Resolution) : Key :=
  let last := d.layout.columns.length - 1
  ⟨[⟨last, d.layout.collationAt last, direction⟩], isPrimary, resolution?⟩

/-- A condition in brackets, and what follows it. A condition without a name is named by its
text. -/
def check? (d : Draft) (cs : List Char) : Option (Draft × List Char) :=
  (bracketed? cs).map fun (text, rest) =>
    let name := d.label?.getD (String.ofList (Source.unquoted (Source.trimmed text)))
    (d.change fun l => { l with checks := l.checks ++ [⟨name, String.ofList text⟩] }, rest)

/-- The last column worked out by an expression in brackets, and what follows it. -/
def computed? (d : Draft) (cs : List Char) : Option (Draft × List Char) :=
  (bracketed? cs).map fun (text, rest) =>
    let kept? := after? "stored" rest
    (d.change fun l => withLast l fun c =>
      { c with computed? := some (String.ofList text), isStored := kept?.isSome },
      kept?.getD (Source.skip "virtual" rest))

/-- A rule of the last column, whose first word is given, and what follows it. -/
def columnRule? (d : Draft) (first : String) (cs : List Char) : Option (Draft × List Char) :=
  match first with
  | "constraint" => (name? cs).map fun (n, rest) => ({ d with label? := some n }, rest)
  | "not" =>
    match after? "null" cs with
    | some rest =>
      let (r, rest) := resolution? rest
      some (d.change fun l => withLast l fun c => { c with required? := some (r.getD .abort) },
        rest)
    | none => none
  | "null" => some (d, (resolution? cs).2)
  | "primary" => do
    let (direction, rest) := direction (← after? "key" cs)
    let (r, rest) := resolution? rest
    let counted := after? "autoincrement" rest
    pure (d.change fun l => withPrimary l (d.lastKey true direction r) (direction = .ascending)
      counted.isSome, counted.getD rest)
  | "unique" =>
    let (r, rest) := resolution? cs
    some (d.change fun l => withKey l (d.lastKey false .ascending r), rest)
  | "check" => check? d cs
  | "default" =>
    (fallback? cs).map fun (text, rest) =>
      (d.change fun l => withLast l fun c => { c with fallback? := some text }, rest)
  | "collate" =>
    (name? cs).map fun (n, rest) =>
      (d.change fun l => withCollation l ((Collation.ofName? n).getD .binary), rest)
  | "references" =>
    (reference? [d.layout.columns.length - 1] cs).map fun (r, rest) =>
      (d.change fun l => { l with references := l.references ++ [r] }, rest)
  | "generated" => (afterAll? ["always", "as"] cs).bind (computed? d)
  | "as" => computed? d cs
  | _ => none

/-- A rule of the table, whose first word is given, and what follows it. -/
def tableRule? (d : Draft) (first : String) (cs : List Char) : Option (Draft × List Char) :=
  match first with
  | "constraint" => (name? cs).map fun (n, rest) => ({ d with label? := some n }, rest)
  | "primary" => do
    let (parts, isCounter, rest) ←
      listed? (keyPart? d.layout) "autoincrement" (← after? "key" cs)
    let (r, rest) := resolution? rest
    pure (d.change fun l => withPrimary l ⟨parts, true, r⟩ true isCounter, rest)
  | "unique" => do
    let (parts, _, rest) ← listed? (keyPart? d.layout) "" cs
    let (r, rest) := resolution? rest
    pure (d.change fun l => withKey l ⟨parts, false, r⟩, rest)
  | "check" => (check? d cs).map fun (d, rest) => (d, (resolution? rest).2)
  | "foreign" => do
    let (names, rest) ← names? (← after? "key" cs)
    let (r, rest) ← reference? (names.filterMap d.layout.index?) (← after? "references" rest)
    pure (d.change fun l => { l with references := l.references ++ [r] }, rest)
  | _ => none

/-- The rules that follow, within so many, each read as wanted, and what follows them. -/
def rules (rule? : Draft → String → List Char → Option (Draft × List Char)) :
    Nat → Draft → List Char → Draft × List Char
  | 0, d, cs => (d, cs)
  | fuel + 1, d, cs =>
    match deferral? cs with
    | some (isDeferred, rest) =>
      rules rule? fuel (d.change fun l => withDeferral l isDeferred) rest
    | none =>
      match (word? cs).bind fun (first, rest) => rule? d first rest with
      | some (d, rest) => rules rule? fuel d rest
      | none => (d, cs)

/-- A column with its rules, and what follows it. -/
def column? (l : Layout) (cs : List Char) : Option (Draft × List Char) := do
  let (name, rest) ← name? cs
  let (type, rest) := Source.type rest
  let type := String.ofList type
  let column : Column :=
    { name, type, affinity := Affinity.ofDeclared type, width := Width.ofDeclared type }
  let d : Draft := { layout := { l with columns := l.columns ++ [column] } }
  pure (rules columnRule? (rest.length + 1) d rest)

/-- Whether rules of the table begin here. -/
def opensRules (cs : List Char) : Bool :=
  (word? cs).any fun w => ["constraint", "primary", "unique", "check", "foreign"].contains w.1

/-- The rules of the table, which may have commas between them, within so many. A comma ends the
reach of a name. -/
def tableRules : Nat → Draft → List Char → Layout × List Char
  | 0, d, cs => (d.layout, cs)
  | fuel + 1, d, cs =>
    let (d, rest) := rules tableRule? (cs.length + 1) d cs
    match afterSymbol? ',' rest with
    | some rest => tableRules fuel { layout := d.layout } rest
    | none => (d.layout, rest)

/-- The columns and rules of a table, within so many, and what follows them. -/
def contents : Nat → Draft → List Char → Layout × List Char
  | 0, d, cs => (d.layout, cs)
  | fuel + 1, d, cs =>
    if opensRules cs then tableRules (fuel + 1) d cs
    else
      match column? d.layout cs with
      | some (d, rest) =>
        match afterSymbol? ',' rest with
        | some rest => contents fuel d rest
        | none => (d.layout, rest)
      | none => (d.layout, cs)

/-- A column that takes only cells of its type. One of a primary key has to have a value. -/
def strictColumn (l : Layout) (c : Column) (i : Nat) : Column :=
  let c := if Text.equalAscii c.type "any" then { c with affinity := .blob } else c
  if l.numberIndex? ≠ some i && l.primary?.any (fun k => k.places.contains i) then
    { c with required? := c.required?.or (some .abort) }
  else c

/-- A layout whose columns take only cells of their types. -/
def strict (l : Layout) : Layout :=
  { l with
    columns := l.columns.zipIdx.map fun (c, i) => strictColumn l c i
    isStrict := true }

/-- The key of a column that was to number the rows. -/
def numberKey (l : Layout) (n : Numbering) : Key :=
  { parts := [⟨n.place, l.collationAt n.place, n.direction⟩]
    isPrimary := true
    resolution? := if n.resolution = .abort then none else some n.resolution }

/-- A layout whose rows are kept by the primary key, all of whose columns have to have a value. -/
def keyed (l : Layout) : Layout :=
  let l :=
    match l.numbering? with
    | some n => withKey { l with numbering? := none } (numberKey l n)
    | none => l
  let places := (l.primary?.map Key.places).getD []
  { l with
    columns := l.columns.zipIdx.map fun (c, i) =>
      if places.contains i then { c with required? := c.required?.or (some .abort) } else c
    isKeyed := true }

/-- A layout with what is said of the table behind its columns, within so many words. -/
def options : Nat → Layout → List Char → Layout
  | 0, l, _ => l
  | fuel + 1, l, cs =>
    match after? "strict" cs, afterAll? ["without", "rowid"] cs with
    | some rest, _ => following fuel (strict l) rest
    | none, some rest => following fuel (keyed l) rest
    | none, none => l
where
  /-- The layout with what is said behind a comma. -/
  following (fuel : Nat) (l : Layout) (rest : List Char) : Layout :=
    match afterSymbol? ',' rest with
    | some rest => options fuel l rest
    | none => l

/-- The layout that a text declares, which may end with a closing bracket and more. -/
def layout (cs : List Char) : Layout :=
  let (l, rest) := contents (cs.length + 1) { layout := { columns := [] } } cs
  match afterSymbol? ')' rest with
  | some rest => options (rest.length + 1) l rest
  | none => l

end Declaration

/-- The layout of columns with the rest of their declarations. -/
def Layout.declare (columns : List (String × String)) : Layout :=
  Declaration.layout ((columns.map fun (name, rest) =>
    Token.quoteWith '"' name.toList ++ ' ' :: rest.toList).intersperse [',', ' ']).flatten

namespace Declaration

/-! ## Laws -/

theorem keys_withKey {l : Layout} {k : Key} (h : l.keys.any k.sameColumns = true) :
    (withKey l k).keys.length = l.keys.length := by
  rw [withKey, if_pos h, List.length_map]

theorem columns_withKey (l : Layout) (k : Key) : (withKey l k).columns = l.columns := by
  unfold withKey
  split <;> rfl

theorem columns_withPrimary (l : Layout) (k : Key) (mayNumber isCounter : Bool) :
    (withPrimary l k mayNumber isCounter).columns = l.columns := by
  unfold withPrimary
  split
  · split
    · rfl
    · exact columns_withKey l k
  · exact columns_withKey l k

end Declaration

end SalesLedger.Sql
