import SalesLedger.Sql.Collation
import SalesLedger.Sql.Fault
import SalesLedger.Sql.Format
import SalesLedger.Sql.Pattern
import SalesLedger.Sql.Value

/-!
# Functions of texts

The functions that expressions know of texts and bytes. A number counts as its text. Most functions
have no value where one of their arguments has none, and take a text up to its first zero where they
go through its characters.

Main statements: `part_whole`, the part from the start on is the whole, and `replaced_nothing`,
where nothing is found nothing is replaced.
-/

namespace SalesLedger.Sql.Builtin

/-- What a function says: a value, or why there is none. -/
abbrev Answer := Except ValueFault Value

/-- What is said of the bytes of a text. -/
def onBytes (c : Cell) (f : List UInt8 → Value) : Value :=
  match c.bytes? with
  | some bytes => f bytes
  | none => .null

/-- What is said of the bytes of two texts. -/
def onBoth (a b : Cell) (f : List UInt8 → List UInt8 → Value) : Value :=
  onBytes a fun s => onBytes b fun t => f s t

/-- The characters of a text up to its first zero. -/
def characters (bytes : List UInt8) : List (List UInt8) :=
  Text.Bytes.characters (Text.Bytes.upToZero bytes)

/-! ## Sizes and places -/

/-- The number of characters, or of bytes where it is bytes. -/
def length (c : Cell) : Value :=
  match c with
  | .null => .null
  | .blob bytes => .integer bytes.length
  | _ => onBytes c fun bytes => .integer (characters bytes).length

/-- The number of bytes. -/
def octetLength (c : Cell) : Value :=
  onBytes c fun bytes => .integer bytes.length

/-- The place of a row among others, from one on; zero, where it is not there. -/
def placeOf {α : Type} [BEq α] (sought : List α) : List α → Nat → Nat
  | [], n => if sought.isEmpty then n else 0
  | x :: xs, n => if sought.isPrefixOf (x :: xs) then n else placeOf sought xs (n + 1)

/-- The place of a text in another, in characters; in bytes, where both are bytes. -/
def instr (a b : Cell) : Value :=
  onBoth a b fun s t =>
    match a, b with
    | .blob _, .blob _ => .integer (placeOf t s 1)
    | _, _ =>
      .integer (if t.isEmpty then 1 else placeIn t (Text.Bytes.characters s) 1)
where
  /-- The number of the character that bytes begin at. -/
  placeIn (sought : List UInt8) : List (List UInt8) → Nat → Nat
    | [], _ => 0
    | c :: cs, n => if sought.isPrefixOf (c :: cs).flatten then n else placeIn sought cs (n + 1)

/-! ## Parts -/

/-- A part of a row: from a place on, counted from one or from the end, and of a length; below zero,
what comes before the place. -/
def part {α : Type} (xs : List α) (start : Int) (length? : Option Int) : List α :=
  let count : Int := xs.length
  let wanted : Int := (length?.getD (max 0x7fffffff count)).natAbs
  let (first, wanted) : Int × Int :=
    if start < 0 then
      if start + count < 0 then (0, max 0 (wanted + start + count)) else (start + count, wanted)
    else if 0 < start then (start - 1, wanted)
    else (0, max 0 (wanted - 1))
  let (first, wanted) : Int × Int :=
    if length?.any (· < 0) then
      if first < wanted then (0, first) else (first - wanted, wanted)
    else (first, wanted)
  (xs.drop first.toNat).take wanted.toNat

/-- A part of a text, or of bytes. -/
def substring (c start : Cell) (length? : Option Cell) : Value :=
  if start = .null ∨ length? = some .null then .null
  else
    let first := Format.narrow (wholeOf start)
    let count? := length?.map fun n => Format.narrow (wholeOf n)
    match c with
    | .blob [] => .null
    | .blob bytes => ⟨.blob (part bytes first count?), false⟩
    | _ => onBytes c fun bytes => .ofBytes (part (characters bytes) first count?).flatten

/-- A row without what it begins with of a set. No more than so many are cut off. -/
def trimStart (set : List (List UInt8)) : Nat → List UInt8 → List UInt8
  | 0, bytes => bytes
  | fuel + 1, bytes =>
    match if bytes.isEmpty then none else set.find? fun c => c.isPrefixOf bytes with
    | some c => trimStart set fuel (bytes.drop c.length)
    | none => bytes

/-- A row without what it ends with of a set. -/
def trimEnd (set : List (List UInt8)) (bytes : List UInt8) : List UInt8 :=
  (trimStart (set.map List.reverse) bytes.length bytes.reverse).reverse

/-- A text with an end cut as a set of characters says, which is a space where none is given. -/
def trim (cut : List (List UInt8) → List UInt8 → List UInt8) (c : Cell) (set? : Option Cell) :
    Value :=
  match set? with
  | none => onBytes c fun bytes => .ofBytes (cut [[0x20]] bytes)
  | some set => onBoth c set fun bytes set => .ofBytes (cut (characters set) bytes)

/-- A text with every place where another stands taken by a third. -/
def replaced (sought replacement : List UInt8) : Nat → List UInt8 → List UInt8
  | 0, bytes => bytes
  | _, [] => []
  | fuel + 1, b :: bs =>
    if sought.isPrefixOf (b :: bs) then
      replacement ++ replaced sought replacement fuel ((b :: bs).drop sought.length)
    else b :: replaced sought replacement fuel bs

/-- A text with another replaced in it. Where that is empty, the value stays what it is. -/
def replace (v : Value) (sought replacement : Cell) : Answer :=
  match v.cell.bytes?, sought.bytes?, replacement.bytes? with
  | some bytes, some s, replacement? =>
    if (Text.Bytes.upToZero s).isEmpty then .ok v
    else
      match replacement? with
      | some r =>
        let bytes := replaced s r bytes.length bytes
        if Format.longest < bytes.length then .error .tooLong else .ok (.ofBytes bytes)
      | none => .ok .null
  | _, _, _ => .ok .null

/-! ## Letters -/

/-- A letter A to Z of a text in upper case, and one in lower case. -/
def upperByte (b : UInt8) : UInt8 :=
  if 0x61 ≤ b.toNat ∧ b.toNat ≤ 0x7a then b - 0x20 else b
def lowerByte (b : UInt8) : UInt8 :=
  if 0x41 ≤ b.toNat ∧ b.toNat ≤ 0x5a then b + 0x20 else b

/-- The numbers of characters as a text. What is no character is the replacement. -/
def char (cs : List Cell) : Value :=
  .ofBytes (cs.flatMap fun c =>
    let n := wholeOf c
    Text.Bytes.ofNumber (if 0 ≤ n ∧ n ≤ 0x10ffff then n.toNat else 0xfffd))

/-- The number of the first character. -/
def unicode (c : Cell) : Value :=
  onBytes c fun bytes =>
    match characters bytes with
    | first :: _ => .integer (Text.Bytes.number first)
    | [] => .null

/-- The digit that a letter sounds as; none for vowels. -/
def soundDigit (b : UInt8) : Option Char :=
  let sounds : List (Char × String) :=
    [('1', "bfpv"), ('2', "cgjkqsxz"), ('3', "dt"), ('4', "l"), ('5', "mn"), ('6', "r")]
  let c := Text.lowerLetter (Char.ofNat (b.toNat % 0x80))
  (sounds.find? fun s => s.2.toList.contains c).map (·.1)

/-- The digits of letters, of which those that sound as the one before are left out. -/
def sounds (before : Option Char) : List UInt8 → List Char
  | [] => []
  | b :: bs =>
    match soundDigit b with
    | none => sounds none bs
    | some d => if before = some d then sounds before bs else d :: sounds (some d) bs

/-- How a text sounds: its first letter and three digits. -/
def soundex (c : Cell) : Value :=
  let bytes := Text.Bytes.upToZero (c.bytes?.getD [])
  match bytes.dropWhile fun b => !Text.isLetter (Char.ofNat b.toNat) with
  | [] => .text "?000"
  | b :: bs =>
    let digits := ((sounds (soundDigit b) bs) ++ ['0', '0', '0']).take 3
    .text (String.ofList (Char.ofNat (upperByte b).toNat :: digits))

/-! ## Digits -/

/-- Bytes as pairs of hexadecimal digits. -/
def hexOf (bytes : List UInt8) : List UInt8 :=
  Text.Bytes.ofChars (bytes.flatMap fun b =>
    let digit (n : Nat) : Char := (Nat.digitChar n).toUpper
    [digit (b.toNat / 16), digit (b.toNat % 16)])

/-- The value of a hexadecimal digit. -/
def hexDigit? (b : UInt8) : Option Nat :=
  let c := Text.lowerLetter (Char.ofNat b.toNat)
  match Text.digit? c with
  | some d => some d
  | none => if 'a' ≤ c ∧ c ≤ 'f' then some (c.toNat - 0x57) else none

/-- The bytes that pairs of hexadecimal digits spell, with characters of a set between them; none,
where anything else is there. There are no more steps than so many. -/
def ofHex? (ignored : List Nat) : Nat → List UInt8 → Option (List UInt8)
  | _, [] => some []
  | 0, _ => none
  | fuel + 1, b :: bs =>
    match hexDigit? b with
    | some high =>
      match bs with
      | d :: rest => do
        let low ← hexDigit? d
        pure (UInt8.ofNat (high * 16 + low) :: (← ofHex? ignored fuel rest))
      | [] => none
    | none =>
      match Text.Bytes.characters (b :: bs) with
      | c :: _ =>
        if ignored.contains (Text.Bytes.number c) then
          ofHex? ignored fuel ((b :: bs).drop c.length)
        else none
      | [] => none

/-- The bytes that a text of hexadecimal digits spells. -/
def unhex (c : Cell) (ignored? : Option Cell) : Value :=
  let ofDigits (ignored : List Nat) (bytes : List UInt8) : Value :=
    let bytes := Text.Bytes.upToZero bytes
    match ofHex? ignored bytes.length bytes with
    | some found => ⟨.blob found, false⟩
    | none => .null
  match ignored? with
  | none => onBytes c (ofDigits [])
  | some ignored => onBoth c ignored fun s t => ofDigits (Text.Bytes.numbers t) s

/-- The text of a double that reads back as it is: fifteen digits, or else twenty. -/
def floatChars (x : Float) : List Char :=
  let short := Format.double { isFull := true, isZeroPadded := true, precision? := some 15 }
    (.shorter 'e') x
  if (Numeral.read short).value == x then short
  else Format.double { isFull := true, precision? := some 20 } (.scientific 'e') x

/-- A value as a statement spells it. -/
def quote (c : Cell) : Value :=
  match c with
  | .null => .text "NULL"
  | .integer n => .text (toString n)
  | .real x => .text (String.ofList (floatChars x))
  | .blob bytes => .ofBytes (0x58 :: 0x27 :: (hexOf bytes ++ [0x27]))
  | .text _ | .malformed _ => .ofBytes (Format.quoted {} '\'' true c)

/-! ## Joining -/

/-- Texts joined by another. What is empty or nothing is left out. -/
def joined (separator : List UInt8) (cs : List Cell) : Value :=
  let parts := (cs.map fun c => c.bytes?.getD []).filter fun bytes => !bytes.isEmpty
  .ofBytes (separator.intercalate parts)

/-- A format with values put in. -/
def printf (cs : List Cell) : Answer :=
  match cs with
  | [] => .ok .null
  | format :: args =>
    match format.bytes? with
    | none => .ok .null
    | some bytes =>
      if Format.isSilent bytes args then .ok .null
      else
        match Format.write bytes args with
        | some text => .ok (.ofBytes text)
        | none => .ok .null

/-- So many zeros. -/
def zeros (c : Cell) : Answer :=
  let n := (wholeOf c).toNat
  if Format.longest < n then .error .tooLong else .ok ⟨.blob (List.replicate n 0), false⟩

/-! ## Patterns -/

/-- The greatest number of bytes in a pattern. -/
def longestPattern : Nat := 50000

/-- The numbers of a text's characters up to its first zero. -/
def numbers (bytes : List UInt8) : List Nat :=
  Text.Bytes.numbers (Text.Bytes.upToZero bytes)

/-- Whether a text fits a pattern, by a way to compare them. -/
def fits (compare : List Nat → List Nat → Bool) (pattern subject : Cell) : Answer :=
  if longestPattern < (pattern.bytes?.getD []).length then .error .patternTooLong
  else .ok (onBoth pattern subject fun p s =>
    .integer (if compare (numbers p) (numbers s) then 1 else 0))

/-- Whether a text fits a pattern of percent signs and low lines. -/
def like (pattern subject : Cell) (escape? : Option Cell) : Answer :=
  match escape? with
  | none => fits (Pattern.like none) pattern subject
  | some escape =>
    if longestPattern < (pattern.bytes?.getD []).length then .error .patternTooLong
    else
      match escape.bytes?.map numbers with
      | none => .ok .null
      | some [e] => fits (Pattern.like (some e)) pattern subject
      | some _ => .error .escapeNotSingle

/-- Whether a text fits a pattern of stars, question marks and sets. -/
def glob (pattern subject : Cell) : Answer :=
  fits Pattern.glob pattern subject

/-! ## Names -/

/-- The function of texts with a name, for arguments of its number. -/
def text? (name : String) (args : List Value) : Option Answer :=
  match name, args.map Value.cell with
  | "length", [c] => some (.ok (length c))
  | "octet_length", [c] => some (.ok (octetLength c))
  | "instr", [a, b] => some (.ok (instr a b))
  | "substr", [c, n] | "substring", [c, n] => some (.ok (substring c n none))
  | "substr", [c, n, m] | "substring", [c, n, m] => some (.ok (substring c n (some m)))
  | "ltrim", [c] => some (.ok (trim (fun s b => trimStart s b.length b) c none))
  | "ltrim", [c, s] => some (.ok (trim (fun s b => trimStart s b.length b) c (some s)))
  | "rtrim", [c] => some (.ok (trim trimEnd c none))
  | "rtrim", [c, s] => some (.ok (trim trimEnd c (some s)))
  | "trim", [c] => some (.ok (trim (fun s b => trimEnd s (trimStart s b.length b)) c none))
  | "trim", [c, s] => some (.ok (trim (fun s b => trimEnd s (trimStart s b.length b)) c (some s)))
  | "replace", [_, b, c] => args.head?.map fun v => replace v b c
  | "upper", [c] => some (.ok (onBytes c fun bytes => .ofBytes (bytes.map upperByte)))
  | "lower", [c] => some (.ok (onBytes c fun bytes => .ofBytes (bytes.map lowerByte)))
  | "char", cs => some (.ok (char cs))
  | "unicode", [c] => some (.ok (unicode c))
  | "soundex", [c] => some (.ok (soundex c))
  | "hex", [c] => some (.ok (.ofBytes (hexOf (c.bytes?.getD []))))
  | "unhex", [c] => some (.ok (unhex c none))
  | "unhex", [c, s] => some (.ok (unhex c (some s)))
  | "quote", [c] => some (.ok (quote c))
  | "concat", c :: cs => some (.ok (joined [] (c :: cs)))
  | "concat_ws", s :: c :: cs => some (.ok (onBytes s fun separator => joined separator (c :: cs)))
  | "printf", cs | "format", cs => some (printf cs)
  | "zeroblob", [c] => some (zeros c)
  | "like", [p, s] => some (like p s none)
  | "like", [p, s, e] => some (like p s (some e))
  | "glob", [p, s] => some (glob p s)
  | _, _ => none

/-! ## Laws -/

theorem part_whole {α : Type} (xs : List α) : part xs 1 none = xs := by
  have hm :
      ((max 0x7fffffff (xs.length : Int)).natAbs : Int) = max 0x7fffffff (xs.length : Int) := by
    omega
  have hl : xs.length ≤ (max 0x7fffffff (xs.length : Int)).toNat := by omega
  simp [part, hm, List.take_of_length_le hl]

theorem replaced_nothing {sought bytes : List UInt8} (replacement : List UInt8) (fuel : Nat)
    (h : ∀ rest, rest <:+ bytes → sought.isPrefixOf rest = false) :
    replaced sought replacement fuel bytes = bytes := by
  induction bytes generalizing fuel with
  | nil => cases fuel <;> rfl
  | cons b bs ih =>
    cases fuel with
    | zero => rfl
    | succ fuel =>
      have hb := h (b :: bs) (List.suffix_refl _)
      rw [replaced, if_neg (by simp [hb]), ih fuel fun rest hr => h rest (hr.trans (by simp))]

theorem hexOf_nil : hexOf [] = [] := rfl

end SalesLedger.Sql.Builtin
