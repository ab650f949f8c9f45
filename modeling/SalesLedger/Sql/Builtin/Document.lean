import SalesLedger.Sql.Builtin.Text
import SalesLedger.Sql.Document.Binary
import SalesLedger.Sql.Document.Path
import SalesLedger.Sql.Document.Printer

/-!
# Functions of documents

The functions that build documents from values, look things up in them, edit and merge them, and
say whether something is one. A document is given as a text or in binary form, and a function that
answers with one does so in one of the two. A text counts as a document inside another only where it
is known to be one; any other text is a text there.

Main statements: `given_null`, nothing is no document, and `ofValue_text`, a text is a text inside a
document.
-/

namespace SalesLedger.Sql.Builtin

open Document (Found Edit)

/-! ## Documents from values -/

/-- The document that a value is, where it has to be one; none, where there is no value. -/
def given? (c : Cell) : Except ValueFault (Option Document) :=
  match c with
  | .null => .ok none
  | .blob bytes =>
    if Document.isBinary bytes then
      match Document.ofBinary? bytes with
      | some d => .ok (some d)
      | none => .error .badDocument
    else .error .badDocument
  | _ =>
    match Document.read (c.bytes?.getD []) with
    | .ok r => .ok (some r.document)
    | .error _ => .error .badDocument

def raw (bytes : List UInt8) : Document.Spelling := ⟨.raw, Text.Bytes.chars bytes⟩

/-- The document of bytes in binary form inside another. -/
def ofBinary (bytes : List UInt8) : Except ValueFault Document :=
  if Document.isBinary bytes then
    match Document.ofBinary? bytes with
    | some d => .ok d
    | none => .error .badDocument
  else .error .bytesInDocument

/-- The document that a text is known to be. -/
def ofKnown (bytes : List UInt8) : Except ValueFault Document :=
  match Document.read bytes with
  | .ok r => .ok r.document
  | .error _ => .error .badDocument

/-- A value as an item of a document that is built. -/
def ofValue (v : Value) : Except ValueFault Document :=
  match v.cell with
  | .null => .ok .null
  | .integer n => .ok (.number .whole (toString n).toList)
  | .real x =>
    let format : Format := { isFull := true, isZeroPadded := true, precision? := some 15 }
    .ok (.number .decimal (Format.double format (.shorter 'e') x))
  | .blob bytes => ofBinary bytes
  | c =>
    let bytes := c.bytes?.getD []
    if v.isDocument then ofKnown bytes else .ok (.text (raw bytes))

def ofPut (v : Value) : Except ValueFault Document :=
  match v.cell with
  | .real x =>
    if x.isFinite then .ok (.number .decimal (Decimal.Significant.text x).toList)
    else .ok (Document.infinite (x < 0))
  | _ => ofValue v

/-! ## Values from documents -/

/-- The form in which documents are answered. -/
inductive Form where
  | text
  | binary
  deriving Repr, DecidableEq

def answered (form : Form) (d : Document) : Value :=
  match form with
  | .text => ⟨Cell.ofBytes d.bytes, true⟩
  | .binary => ⟨.blob d.binary, false⟩

/-- A document that was built as a value. In binary form it is what its text reads as. -/
def built (form : Form) (d : Document) : Value :=
  match form, Document.read d.bytes with
  | .binary, .ok r => answered .binary r.document
  | _, _ => answered form d

/-- The whole number of digits, where 64 bits hold it, and otherwise the double. -/
def ofWhole (cs : List Char) : Value :=
  match Numeral.whole? cs with
  | some (n, true) => .integer n
  | _ => .ofCell (.real (Numeral.read cs).value)

/-- The whole number of hexadecimal digits in 64 bits with a sign. -/
def ofHexadecimal (cs : List Char) : Except ValueFault Value :=
  let (isNegative, cs) := Numeral.sign cs
  let ds := (cs.drop 2).dropWhile (· == '0')
  let n : Int := ((ds.foldl (fun n c => n * 16 + (Document.hexDigit? c).getD 0) 0 : Nat) : Int)
  if 16 < ds.length then .error .badDocument
  else
    let n := n.bmod 0x10000000000000000
    .ok (.integer (if isNegative then (-n).bmod 0x10000000000000000 else n))

/-- What a document says: its number or text, and otherwise the document itself. -/
def said (form : Form) (isKnown : Bool) (d : Document) : Except ValueFault Value :=
  match d with
  | .null => .ok .null
  | .truth b => .ok (.integer (if b then 1 else 0))
  | .number .whole cs => .ok (ofWhole cs)
  | .number .hexadecimal cs => ofHexadecimal cs
  | .number _ cs => .ok (.ofCell (.real (Numeral.read cs).value))
  | .text s => .ok (.ofBytes (Text.Bytes.ofChars s.content))
  | d =>
    let v := answered form d
    .ok { v with isDocument := v.isDocument && isKnown }

/-! ## Paths -/

/-- The characters of a path, up to a zero. -/
def pathChars? (c : Cell) : Option (List Char) :=
  c.bytes?.map fun bytes => Text.Bytes.chars (Text.Bytes.upToZero bytes)

/-- A path that is none. -/
def badPath (cs : List Char) : ValueFault :=
  let quoted := Format.doubled 0x27 (Text.Bytes.ofChars cs)
  .badPath ("'" ++ Text.Utf8.ofBytes quoted ++ "'")

/-- What stands at a path, which begins at the root. A path may be written otherwise than it is
shown. -/
def foundAs (shown cs : List Char) (d : Document) : Except ValueFault (Option Document) :=
  match cs with
  | '$' :: path =>
    match d.find path with
    | .here found => .ok (some found)
    | .nowhere => .ok none
    | .broken => .error (badPath shown)
  | _ => .error (badPath shown)

/-- What stands at a path, which begins at the root. -/
def foundAt (cs : List Char) (d : Document) : Except ValueFault (Option Document) :=
  foundAs cs cs d

/-- A path in short: a number, a label, or a step in brackets. -/
def shortPath (cs : List Char) : List Char :=
  if cs.head? = some '$' then cs
  else if cs.all Text.isDigit then '$' :: '[' :: (cs ++ [']'])
  else if cs.all fun d => Text.isLetter d || Text.isDigit d then '$' :: '.' :: cs
  else if cs.head? = some '[' && 3 ≤ cs.length && cs.getLast? = some ']' then '$' :: cs
  else '$' :: '.' :: '"' :: (cs ++ ['"'])

/-- What a function of a path says of a document. -/
def atPath (c : Cell) (d : Document) (say : Document → Except ValueFault Value) : Answer :=
  match pathChars? c with
  | none => .ok .null
  | some cs => do
    match ← foundAt cs d with
    | some found => say found
    | none => pure .null

/-! ## Building -/

def array (form : Form) (vs : List Value) : Answer := do
  pure (built form (.array (← vs.mapM ofValue)))

/-- Labels and values by turns as members. -/
def members : List Value → Except ValueFault (List (Document.Spelling × Document))
  | label :: v :: rest => do
    let d ← ofValue v
    pure ((raw (label.cell.bytes?.getD []), d) :: (← members rest))
  | _ => .ok []

/-- Whether labels and values by turns have texts for labels. -/
def areLabelled : List Value → Bool
  | label :: _ :: rest => label.cell.kind == "text" && areLabelled rest
  | _ => true

/-- Labels and values as an object. -/
def object (form : Form) (vs : List Value) : Answer :=
  if vs.length % 2 = 1 then .error .labelWithoutValue
  else if areLabelled vs then do pure (built form (.object (← members vs)))
  else .error .labelNotText

/-! ## Looking up -/

/-- What stands at a path; at several paths, a list of what stands there. -/
def extract (form : Form) (c : Cell) (paths : List Cell) : Answer := do
  match ← given? c, paths with
  | none, _ | _, [] => pure .null
  | some d, [path] => atPath path d (said form true)
  | some d, paths =>
    if paths.any (· = .null) then
      -- a path that is none fails only where it comes before one that is missing
      let before := (paths.takeWhile (· ≠ .null)).filterMap pathChars?
      let _ ← before.mapM fun cs => foundAt cs d
      pure .null
    else
      let found ← (paths.filterMap pathChars?).mapM fun cs => foundAt cs d
      pure (built form (.array (found.map fun d? => d?.getD .null)))

/-- What stands at a path in short: as a document, or as what it says. -/
def arrow (isSaid : Bool) (c path : Cell) : Answer := do
  match ← given? c, pathChars? path with
  | some d, some cs =>
    match ← foundAs cs (shortPath cs) d with
    | none => pure .null
    | some found => if isSaid then said .text false found else pure (answered .text found)
  | _, _ => pure .null

/-- The number of items of a list. -/
def arrayLength (d : Document) : Value :=
  match d with
  | .array items => .integer items.length
  | _ => .integer 0

/-! ## Editing -/

/-- A document that is edited at paths, one after the other; none, where it is removed itself. -/
def editedAll (make : Document → Edit) (function : String) :
    Document → List Value → Except ValueFault Document
  | d, path :: v :: rest => do
    match pathChars? path.cell with
    | none => editedAll make function d rest
    | some [] => throw (badPath [])
    | some (c :: cs) =>
      if c ≠ '$' then throw (badPath (c :: cs))
      else
        let new ← ofPut v
        match d.edit (make new) cs with
        | .here changed => editedAll make function (changed.getD d) rest
        | .nowhere => editedAll make function d rest
        | .broken => throw (badPath (c :: cs))
  | d, [] => .ok d
  | _, [_] => .error (.pathWithoutValue function)

/-- A document with values put at paths. -/
def edited (form : Form) (function : String) (make : Document → Edit) (vs : List Value) : Answer :=
  match vs with
  | [] => .ok .null
  | v :: rest =>
    if rest.length % 2 = 1 then .error (.pathWithoutValue function)
    else do
      match ← given? v.cell with
      | none => pure .null
      | some d => pure (answered form (← editedAll make function d rest))

/-- A document without what stands at paths; none, where it is removed itself, or where there is no
path. -/
def lessAll : Document → List Cell → Except ValueFault (Option Document)
  | d, [] => .ok (some d)
  | d, path :: rest =>
    match pathChars? path with
    | none => .ok none
    | some cs =>
      match cs with
      | '$' :: steps =>
        match d.edit .remove steps with
        | .here (some less) => lessAll less rest
        | .here none => .ok none
        | .nowhere => lessAll d rest
        | .broken => .error (badPath cs)
      | _ => .error (badPath cs)

/-- A document without what stands at paths. -/
def removed (form : Form) (vs : List Value) : Answer :=
  match vs with
  | [] => .ok .null
  | v :: paths => do
    match ← given? v.cell with
    | none => pure .null
    | some d =>
      match ← lessAll d (paths.map Value.cell) with
      | some less => pure (answered form less)
      | none => pure .null

/-- A document that another is merged into. -/
def patched (form : Form) (c patch : Cell) : Answer := do
  match ← given? c with
  | none => pure .null
  | some d =>
    match ← given? patch with
    | none => pure .null
    | some p => pure (answered form (d.merged p))

/-! ## Checking -/

/-- Whether a value is a document: a text that keeps to the strict format, or to the lenient one, or
bytes that look like one, or bytes that are one, as the bits of a number say. -/
def isValid (c flags : Cell) : Answer :=
  let f := wholeOf flags
  if f < 1 ∨ 15 < f then .error .unknownStrictness
  else
    let asks (bit : Nat) : Bool := f.toNat / bit % 2 = 1
    let truth (b : Bool) : Answer := .ok (.integer (if b then 1 else 0))
    match c with
    | .null => .ok .null
    | .blob bytes =>
      truth (Document.isBinary bytes && (asks 4 ||
        asks 8 && (Document.ofBinary? bytes).any Document.isSound))
    | _ =>
      match Document.read (c.bytes?.getD []) with
      | .ok r => truth (asks 2 || asks 1 && r.isStrict)
      | .error _ => truth false

/-- The character at which a text is found to be no document, from one on; zero, where it is one. -/
def errorPosition (c : Cell) : Value :=
  match c with
  | .null => .null
  | .blob bytes =>
    .integer (if Document.isBinary bytes && (Document.ofBinary? bytes).any Document.isSound then 0
      else 1)
  | _ =>
    let bytes := c.bytes?.getD []
    match Document.read bytes with
    | .ok _ => .integer 0
    | .error n => .integer (((bytes.take n).filter (!Text.Bytes.isTail ·)).length + 1)

/-! ## Names -/

/-- What is said of the document that a value is. -/
def onDocument (c : Cell) (say : Document → Except ValueFault Value) : Answer := do
  match ← given? c with
  | none => pure .null
  | some d => say d

/-- The function that builds or changes a document, by its name behind that of its form. -/
def making? (form : Form) (name : String) (vs : List Value) : Option Answer :=
  match name, vs with
  | "", [v] => some (removed form [v])
  | "_array", vs => some (array form vs)
  | "_object", vs => some (object form vs)
  | "_extract", [] => some (.ok .null)
  | "_extract", v :: paths => some (extract form v.cell (paths.map Value.cell))
  | "_remove", vs => some (removed form vs)
  | "_insert", vs => some (edited form "insert" .insert vs)
  | "_replace", vs => some (edited form "replace" .replace vs)
  | "_set", vs => some (edited form "set" .set vs)
  | "_patch", [v, patch] => some (patched form v.cell patch.cell)
  | _, _ => none

/-- The function of documents with a name, for arguments of its number. -/
def document? (name : String) (vs : List Value) : Option Answer :=
  match name, vs with
  | "->", [v, path] => some (arrow false v.cell path.cell)
  | "->>", [v, path] => some (arrow true v.cell path.cell)
  | "json_quote", [v] => some do pure (answered .text (← ofValue v))
  | "json_valid", [v] => some (isValid v.cell (.integer 1))
  | "json_valid", [v, flags] => some (isValid v.cell flags.cell)
  | "json_error_position", [v] => some (.ok (errorPosition v.cell))
  | "json_array_length", [v] => some (onDocument v.cell fun d => .ok (arrayLength d))
  | "json_array_length", [v, path] =>
    some (onDocument v.cell fun d => atPath path.cell d fun d => .ok (arrayLength d))
  | "json_type", [v] => some (onDocument v.cell fun d => .ok (.text d.kind))
  | "json_type", [v, path] =>
    some (onDocument v.cell fun d => atPath path.cell d fun d => .ok (.text d.kind))
  | _, _ =>
    if name.startsWith "jsonb" then making? .binary (String.ofList (name.toList.drop 5)) vs
    else if name.startsWith "json" then making? .text (String.ofList (name.toList.drop 4)) vs
    else none

/-! ## Laws -/

theorem given_null : given? .null = .ok none := rfl

theorem ofValue_text (s : String) :
    ofValue (.text s) = .ok (.text (raw (Text.Utf8.toBytes s))) := rfl

end SalesLedger.Sql.Builtin
