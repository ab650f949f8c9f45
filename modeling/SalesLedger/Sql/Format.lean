import SalesLedger.Decimal.Digits
import SalesLedger.Sql.Scalar
import SalesLedger.Text.Bytes

/-!
# Formats

Texts with values put in. A percent sign in a format begins a directive: signs that say how, a least
width, a precision, and a letter for what is written. A value is taken for each directive and for
each star in it; where there are no more, a number is zero and a text is empty. A directive that
nobody knows ends the text.

Widths and precisions count bytes, or characters behind an exclamation mark. Formats are read byte
by byte, each byte as the character with its number.

Main statement: `write_plain`, a format without directives is written as it is.
-/

namespace SalesLedger.Sql

/-- How a directive writes its value. -/
structure Format where
  isLeft : Bool := false
  /-- What a number has before it that is not below zero. -/
  sign? : Option Char := none
  /-- Numbers show their base, or their point in any case. -/
  isAlternate : Bool := false
  /-- Numbers show more digits, and at least one behind the point; texts count characters. -/
  isFull : Bool := false
  isZeroPadded : Bool := false
  /-- Whole digits come in groups of three. -/
  isGrouped : Bool := false
  width : Nat := 0
  precision? : Option Nat := none

namespace Format

/-! ## Reading directives -/

/-- The greatest number of bytes in a text. -/
def longest : Nat := 1000000000

/-- The whole number of the next value, and the values behind it. -/
def nextInt : List Cell → Int × List Cell
  | [] => (0, [])
  | c :: cs => (wholeOf c, cs)

/-- A whole number as 32 bits with a sign hold it. -/
def narrow (n : Int) : Int := n.bmod 0x100000000

/-- The number that digits spell, in 31 bits, and what follows them. -/
def digits (cs : List Char) : Nat × List Char :=
  ((Text.decimal? (cs.takeWhile Text.isDigit)).getD 0 % 0x100000000 % 0x80000000,
    cs.dropWhile Text.isDigit)

/-- A sign that says how a value is written. -/
def flag? (f : Format) (c : Char) : Option Format :=
  if c == '-' then some { f with isLeft := true }
  else if c == '+' || c == ' ' then some { f with sign? := some c }
  else if c == '#' then some { f with isAlternate := true }
  else if c == '!' then some { f with isFull := true }
  else if c == '0' then some { f with isZeroPadded := true }
  else if c == ',' then some { f with isGrouped := true }
  else none

/-- Whether a precision or a mark of length may follow a width. -/
def goesOn : List Char → Bool
  | c :: _ => c == '.' || c == 'l'
  | [] => false

/-- Reads a directive up to its letter. Gives what follows, and the values that are left. -/
def directive : Nat → Format → List Cell → List Char → Format × List Cell × List Char
  | 0, f, args, cs => (f, args, cs)
  | _, f, args, [] => (f, args, [])
  | fuel + 1, f, args, c :: cs =>
    match f.flag? c with
    | some f => directive fuel f args cs
    | none =>
      if c == '*' then
        let (n, args) := nextInt args
        let n := narrow n
        let width := if -0x7fffffff ≤ n then n.natAbs else 0
        let f := { f with width, isLeft := f.isLeft || n < 0 }
        if goesOn cs then directive fuel f args cs else (f, args, cs)
      else if Text.isDigit c then
        let (width, rest) := digits (c :: cs)
        if goesOn rest then directive fuel { f with width } args rest
        else ({ f with width }, args, rest)
      else if c == '.' then
        match cs with
        | '*' :: rest =>
          let (n, args) := nextInt args
          let n := narrow n
          let precision? := if -0x7fffffff ≤ n then some n.natAbs else none
          ({ f with precision? }, args, unmarked rest)
        | _ =>
          let (n, rest) := digits cs
          ({ f with precision? := some n }, args, unmarked rest)
      else (f, args, unmarked (c :: cs))
where
  /-- What follows the marks of length, of which there are two at most. -/
  unmarked (cs : List Char) : List Char :=
    match cs with
    | 'l' :: 'l' :: rest => rest
    | 'l' :: rest => rest
    | _ => cs

/-! ## Whole numbers -/

/-- Digits in groups of three, with commas between them. -/
def grouped (ds : List Char) : List Char :=
  (ds.zipIdx.flatMap fun (d, i) =>
    if 0 < i ∧ (ds.length - i) % 3 = 0 then [',', d] else [d])

/-- The digits of a number to a base. -/
def digitsOf (base n : Nat) : List Char :=
  Nat.toDigits base n

/-- The ending of an ordinal number. -/
def ordinalEnding (n : Nat) : List Char :=
  if n / 10 % 10 = 1 then ['t', 'h']
  else
    match n % 10 with
    | 1 => ['s', 't']
    | 2 => ['n', 'd']
    | 3 => ['r', 'd']
    | _ => ['t', 'h']

/-- A whole number: its sign, what stands before its digits, the digits and an ending. -/
def whole (f : Format) (sign : List Char) (base ds ending : List Char) : List Char :=
  let asked := f.precision?.getD 0
  let least := if f.isZeroPadded then max asked (f.width - sign.length) else asked
  let body := List.replicate (least - (ds.length + ending.length)) '0' ++ ds ++ ending
  sign ++ base ++ (if f.isGrouped then grouped body else body)

/-- A whole number with a sign. -/
def signed (f : Format) (n : Int) : List Char :=
  let sign := if n < 0 then ['-'] else f.sign?.toList
  f.whole sign [] (digitsOf 10 n.natAbs) []

def ordinal (f : Format) (n : Int) : List Char :=
  let sign := if n < 0 then ['-'] else f.sign?.toList
  { f with isGrouped := false }.whole sign [] (digitsOf 10 n.natAbs) (ordinalEnding n.natAbs)

/-- A whole number without a sign: one below zero counts from the end of 64 bits. -/
def unsigned (n : Int) : Nat := (n % 0x10000000000000000).toNat

/-- A whole number to another base, in capital letters or not. -/
def based (f : Format) (base : Nat) (mark : List Char) (isCapital : Bool) (n : Int) : List Char :=
  let n := unsigned n
  let ds := digitsOf base n
  let ds := if isCapital then ds.map Char.toUpper else ds
  { f with isGrouped := false }.whole [] (if f.isAlternate ∧ n ≠ 0 then mark else []) ds []

/-! ## Doubles -/

/-- How a double is written. -/
inductive Way where
  /-- With all digits before the point. -/
  | positional
  /-- With one digit before the point, and a power of ten behind a letter. -/
  | scientific (letter : Char)
  /-- As it is shorter. -/
  | shorter (letter : Char)

/-- What stands behind the letter of a power of ten. -/
def power (e : Int) : List Char :=
  let ds := Nat.toDigits 10 e.natAbs
  (if e < 0 then '-' else '+') :: (List.replicate (2 - ds.length) '0' ++ ds)

/-- A fraction without the zeros at its end, and without its point where nothing is left; in full, a
zero stays. -/
def withoutZeros (isFull : Bool) (cs : List Char) : List Char :=
  match cs.reverse.dropWhile (· == '0') with
  | '.' :: rest => if isFull then rest.reverse ++ ['.', '0'] else rest.reverse
  | kept => kept.reverse

/-- Digits with `before` of them before the point and `behind` behind it. -/
def placed (f : Format) (cutZeros : Bool) (d : Decimal.Digits) (before : Int) (behind : Nat) :
    List Char :=
  let digit (i : Nat) : Char := ((d.digits[i]?).map Nat.digitChar).getD '0'
  let whole : List Char :=
    if before ≤ 0 then ['0'] else (List.range before.toNat).map digit
  let whole := if f.isGrouped then grouped whole else whole
  let hasPoint := 0 < behind || f.isAlternate || f.isFull
  let zeros := min behind (-before).toNat
  let fraction := List.replicate zeros '0' ++
    (List.range (behind - zeros)).map fun i => digit (before.toNat + i)
  let text := whole ++ (if hasPoint then ['.'] else []) ++ fraction
  if cutZeros && hasPoint then withoutZeros f.isFull text else text

/-- The digits of a finite double with a point or a power of ten, without a sign. -/
def magnitude (f : Format) (way : Way) (precision : Nat) (d : Decimal.Digits) : List Char :=
  let e := d.point - 1
  let scientific (cutZeros : Bool) (behind : Nat) (letter : Char) : List Char :=
    f.placed cutZeros d 1 behind ++ letter :: power e
  match way with
  | .positional => f.placed f.isFull d d.point precision
  | .scientific letter => scientific f.isFull precision letter
  | .shorter letter =>
    if e < -4 ∨ precision - 1 < e then scientific (!f.isAlternate) (precision - 1) letter
    else f.placed (!f.isAlternate) d d.point ((precision : Int) - 1 - e).toNat

/-- Zeros between a sign and what follows it, up to the width. -/
def zeroPadded (f : Format) (sign body : List Char) : List Char :=
  if f.isZeroPadded && !f.isLeft then
    sign ++ List.replicate (f.width - (sign.length + body.length)) '0' ++ body
  else sign ++ body

/-- A double. Padded with zeros, an infinite one has a thousand digits. -/
def double (f : Format) (way : Way) (x : Float) : List Char :=
  let precision := f.precision?.getD 6
  let (precision, wanted) : Nat × Decimal.Precision :=
    match way with
    | .positional => (precision, .places precision)
    | .scientific _ => (precision, .significant (precision + 1))
    | .shorter _ => (max precision 1, .significant (max precision 1))
  let sign := if x < 0 then ['-'] else f.sign?.toList
  match Decimal.Digits.of? x wanted (if f.isFull then 26 else 16) with
  | some d => f.zeroPadded sign (f.magnitude way precision d)
  | none =>
    if f.isZeroPadded then f.zeroPadded sign (f.magnitude way precision ⟨x < 0, [9], 1000⟩)
    else sign ++ ['I', 'n', 'f']

/-! ## Texts -/

/-- The first bytes, or the first characters, up to a zero. -/
def beginning (isFull : Bool) (count? : Option Nat) (bytes : List UInt8) : List UInt8 :=
  let bytes := Text.Bytes.upToZero bytes
  match count? with
  | none => bytes
  | some n =>
    if isFull then ((Text.Bytes.characters bytes).take n).flatten else bytes.take n

/-- Every quote written twice. -/
def doubled (quote : UInt8) (bytes : List UInt8) : List UInt8 :=
  bytes.flatMap fun b => if b = quote then [b, b] else [b]

/-- How many characters begin among bytes. -/
def openings (bytes : List UInt8) : Nat :=
  bytes.countP fun b => !Text.Bytes.isTail b

/-- Bytes filled up with spaces to the width, of bytes or of characters. -/
def padded (f : Format) (countsCharacters : Bool) (bytes : List UInt8) : List UInt8 :=
  let size := if countsCharacters then openings bytes else bytes.length
  let fill := List.replicate (f.width - size) 0x20
  if f.isLeft then bytes ++ fill else fill ++ bytes

def text (f : Format) (c : Cell) : List UInt8 :=
  f.padded f.isFull (beginning f.isFull f.precision? (c.bytes?.getD []))

/-- The text of a value with its quotes written twice, in quotes or not. Nothing is a word. -/
def quoted (f : Format) (quote : Char) (isEnclosed : Bool) (c : Cell) : List UInt8 :=
  let mark := UInt8.ofNat quote.toNat
  match c.bytes? with
  | some bytes =>
    let body := doubled mark (beginning f.isFull f.precision? bytes)
    f.padded f.isFull (if isEnclosed then mark :: (body ++ [mark]) else body)
  | none =>
    let word := Text.Utf8.toBytes (if isEnclosed then "NULL" else "(NULL)")
    f.padded f.isFull (beginning f.isFull f.precision? word)

/-- The first character of a text, as often as the precision says; a zero, where there is none. A
byte that begins no character has no width where it stands alone or at the end. -/
def character (f : Format) (c : Cell) : List UInt8 :=
  let first : List UInt8 :=
    match c.bytes?.getD [] with
    | [] => [0]
    | b :: bs =>
      if 0xc0 ≤ b.toNat then b :: (bs.takeWhile Text.Bytes.isTail).take 3 else [b]
  let count := max 1 (f.precision?.getD 1)
  let repeated := (List.replicate count first).flatten
  let last := if 1 < count && !f.isLeft then 1 else openings first
  let fill := List.replicate (f.width - (count - 1 + last)) 0x20
  if f.isLeft then repeated ++ fill else fill ++ repeated

/-! ## Writing -/

/-- ASCII characters filled up with spaces to the width. -/
def line (f : Format) (cs : List Char) : List UInt8 :=
  f.padded false (Text.Bytes.ofChars cs)

/-- What a directive writes for a value; nothing, where nobody knows its letter. -/
def write? (f : Format) (letter : Char) (c : Cell) : Option (List UInt8) :=
  match letter with
  | 'd' | 'i' => some (f.line (f.signed (wholeOf c)))
  | 'r' => some (f.line (f.ordinal (wholeOf c)))
  | 'u' => some (f.line (f.whole [] [] (digitsOf 10 (unsigned (wholeOf c))) []))
  | 'x' => some (f.line (f.based 16 ['0', 'x'] false (wholeOf c)))
  | 'X' => some (f.line (f.based 16 ['0', 'X'] true (wholeOf c)))
  | 'p' => some (f.line (f.based 16 ['0', 'x'] true (wholeOf c)))
  | 'o' => some (f.line (f.based 8 ['0'] false (wholeOf c)))
  | 'f' => some (f.line (f.double .positional (floatOf c)))
  | 'e' => some (f.line (f.double (.scientific 'e') (floatOf c)))
  | 'E' => some (f.line (f.double (.scientific 'E') (floatOf c)))
  | 'g' => some (f.line (f.double (.shorter 'e') (floatOf c)))
  | 'G' => some (f.line (f.double (.shorter 'E') (floatOf c)))
  | 's' | 'z' => some (f.text c)
  | 'q' => some (f.quoted '\'' false c)
  | 'Q' => some (f.quoted '\'' true c)
  | 'w' => some (f.quoted '"' false c)
  | 'c' => some (f.character c)
  | _ => none

/-- Whether what a directive writes is longer than any text: it is too wide, or has too many digits
or copies of a character. -/
def isTooLong (f : Format) (letter : Char) : Bool :=
  longest ≤ f.width ||
    ['d', 'i', 'u', 'x', 'X', 'o', 'p', 'c'].contains letter &&
      f.precision?.any fun n => longest ≤ n + 10

/-- The format with values put in, within so many characters. Nothing, where it is too long. -/
def writeWithin : Nat → List Cell → List Char → Option (List UInt8)
  | 0, _, _ => some []
  | _, _, [] => some []
  | _, _, ['%'] => some [0x25]
  | fuel + 1, args, '%' :: cs =>
    let (f, args, rest) := directive cs.length {} args cs
    match rest with
    | [] => some []
    | letter :: rest =>
      if letter == '%' then (writeWithin fuel args rest).map (f.line ['%'] ++ ·)
      else if letter == 'n' then writeWithin fuel args rest
      else if f.isTooLong letter then none
      else
        match f.write? letter (args.headD .null) with
        | none => some []
        | some bytes => (writeWithin fuel args.tail rest).map (bytes ++ ·)
  | fuel + 1, args, c :: cs =>
    (writeWithin fuel args cs).map (UInt8.ofNat c.toNat :: ·)

/-- Whether a format says nothing at all: it is empty, or begins with a directive that nobody
knows. -/
def isSilent (format : List UInt8) (args : List Cell) : Bool :=
  match Text.Bytes.chars (Text.Bytes.upToZero format) with
  | [] => true
  | ['%'] => false
  | '%' :: cs =>
    let (f, _, rest) := directive cs.length {} args cs
    match rest with
    | [] => true
    | letter :: _ => !(letter == '%' || letter == 'n' || (f.write? letter .null).isSome)
  | _ => false

/-- A format with values put in. -/
def write (format : List UInt8) (args : List Cell) : Option (List UInt8) :=
  let cs := Text.Bytes.chars (Text.Bytes.upToZero format)
  writeWithin cs.length args cs

/-! ## Laws -/

theorem writeWithin_plain (args : List Cell) (cs : List Char) (h : ∀ c ∈ cs, c ≠ '%') :
    writeWithin cs.length args cs = some (Text.Bytes.ofChars cs) := by
  induction cs with
  | nil => rfl
  | cons c cs ih =>
    have hc : c ≠ '%' := h c (by simp)
    rw [List.length_cons, writeWithin, ih fun d hd => h d (by simp [hd])]
    · rfl
    · rintro ⟨rfl⟩
      exact absurd rfl hc
    · exact fun heq => absurd heq hc

theorem write_plain (args : List Cell) (format : List UInt8)
    (h : ∀ b ∈ format, b ≠ 0 ∧ b ≠ 0x25) : write format args = some format := by
  have hzero : Text.Bytes.upToZero format = format := by
    exact Text.Bytes.upToZero_eq fun b hb => (h b hb).1
  rw [write, hzero, writeWithin_plain, Text.Bytes.ofChars_chars]
  intro c hc
  obtain ⟨b, hb, rfl⟩ := List.mem_map.1 hc
  intro heq
  have hn : b.toNat = 0x25 := by
    have := congrArg Char.toNat heq
    rwa [Text.toNat_ofNat (by have := b.toNat_lt; omega)] at this
  exact (h b hb).2 (UInt8.toNat_inj.1 hn)

end Format

end SalesLedger.Sql
