import SalesLedger.Text.Ascii
import SalesLedger.Text.Bytes

/-!
# Documents

Values that hold values, as a text or bytes describe them: nothing, truth, numbers, texts, lists,
and members under labels. Numbers and texts are kept as they were spelled. All spellings are bytes,
each looked at as the character with its number.

Main statements: `content_raw`, a raw spelling spells itself, and `content_of_plain`, so does one
without escapes.
-/

namespace SalesLedger.Sql

namespace Document

/-- How a number is spelled. -/
inductive Numeral where
  /-- Digits, with a minus sign before them or not. -/
  | whole
  | hexadecimal
  /-- With a point or a power of ten. -/
  | decimal
  /-- With a point that has no digits on one of its sides. -/
  | bare
  deriving Repr, DecidableEq

/-- How a text is spelled. -/
inductive Script where
  /-- As it is between its quotes, without escapes. -/
  | plain
  /-- With escapes that every reader knows. -/
  | escaped
  /-- With escapes that only lenient readers know. -/
  | loose
  /-- As it is, whatever it holds. -/
  | raw
  deriving Repr, DecidableEq

/-- The spelling of a text. -/
structure Spelling where
  script : Script
  chars : List Char
  deriving Repr, DecidableEq

end Document

/-- A document. -/
inductive Document where
  | null
  | truth (b : Bool)
  | number (form : Document.Numeral) (cs : List Char)
  | text (s : Document.Spelling)
  | array (items : List Document)
  | object (members : List (Document.Spelling × Document))

namespace Document

/-- The name of a document's kind. -/
def kind : Document → String
  | null => "null"
  | truth true => "true"
  | truth false => "false"
  | number .whole _ | number .hexadecimal _ => "integer"
  | number _ _ => "real"
  | text _ => "text"
  | array _ => "array"
  | object _ => "object"

/-- The number that is greater than all, as documents spell it. -/
def infinite (isNegative : Bool) : Document :=
  .number .decimal ((if isNegative then ['-'] else []) ++ ['9', 'e', '9', '9', '9'])

/-! ## Characters -/

/-- The value of a hexadecimal digit. -/
def hexDigit? (c : Char) : Option Nat :=
  match Text.digit? c with
  | some d => some d
  | none =>
    let n := (Text.lowerLetter c).toNat
    if 0x61 ≤ n ∧ n ≤ 0x66 then some (n - 0x57) else none

/-- The number that so many hexadecimal digits spell, and what follows them. -/
def hex? (count : Nat) (cs : List Char) : Option (Nat × List Char) :=
  let ds := cs.take count
  if ds.length = count then
    (ds.mapM hexDigit?).map fun values => (values.foldl (fun n d => n * 16 + d) 0, cs.drop count)
  else none

/-- The bytes of a character, each looked at as a character. -/
def bytesOf (n : Nat) : List Char :=
  Text.Bytes.chars (Text.Bytes.ofNumber n)

/-- What follows a line separator or paragraph separator. -/
def afterSeparator? : List Char → Option (List Char)
  | a :: b :: c :: rest =>
    if a.toNat = 0xe2 ∧ b.toNat = 0x80 ∧ (c.toNat = 0xa8 ∨ c.toNat = 0xa9) then some rest else none
  | _ => none

/-- What follows the end of a line. -/
def afterLine? (cs : List Char) : Option (List Char) :=
  match cs with
  | '\r' :: '\n' :: rest => some rest
  | '\r' :: rest => some rest
  | '\n' :: rest => some rest
  | _ => afterSeparator? cs

/-! ## What a text says -/

/-- The characters that letters behind a backslash stand for. -/
def letterEscapes : List (Char × Nat) :=
  [('b', 8), ('f', 12), ('n', 10), ('r', 13), ('t', 9), ('v', 11), ('0', 0), ('\'', 0x27),
    ('"', 0x22), ('/', 0x2f), ('\\', 0x5c)]

/-- The character of an escape behind its backslash, and what follows. Of two halves of a character
that follow each other, one is made. The end of a line says nothing, unless nothing follows it. -/
def escape (cs : List Char) : List Char × List Char :=
  match cs with
  | 'u' :: rest =>
    match hex? 4 rest with
    | none => ([], [])
    | some (n, rest) =>
      match if n / 0x400 = 0x36 then secondHalf? rest else none with
      | some (m, rest) => (bytesOf ((n % 0x400) * 0x400 + m % 0x400 + 0x10000), rest)
      | none => (bytesOf n, rest)
  | 'x' :: rest =>
    match hex? 2 rest with
    | some (n, rest) => (bytesOf n, rest)
    | none => ([], [])
  | _ =>
    match afterLine? cs with
    | some [] => ([Char.ofNat 0], [])
    | some rest => ([], rest)
    | none =>
      (((cs.head?.bind fun c => letterEscapes.lookup c).map bytesOf).getD [], cs.drop 1)
where
  /-- The second half of a character in an escape of its own. -/
  secondHalf? : List Char → Option (Nat × List Char)
    | '\\' :: 'u' :: rest =>
      match hex? 4 rest with
      | some (n, rest) => if n / 0x400 = 0x37 then some (n, rest) else none
      | none => none
    | _ => none

/-- A text without its escapes, within so many characters. -/
def unescaped : Nat → List Char → List Char
  | 0, cs => cs
  | _, [] => []
  | fuel + 1, c :: cs =>
    if c = '\\' then (escape cs).1 ++ unescaped fuel (escape cs).2 else c :: unescaped fuel cs

def Spelling.content (s : Spelling) : List Char :=
  match s.script with
  | .raw | .plain => s.chars
  | _ => unescaped s.chars.length s.chars

/-- Whether a text is spelled without escapes. -/
def Spelling.isLiteral (s : Spelling) : Bool :=
  s.script = .raw || s.script = .plain

/-- What counts of a label that may have escapes: its content up to the first zero. -/
def Spelling.label (s : Spelling) : List Char :=
  s.content.takeWhile fun c => c.toNat != 0

/-- Whether two labels are the same. -/
def Spelling.same (s t : Spelling) : Bool :=
  if s.isLiteral && t.isLiteral then s.chars == t.chars else s.label == t.label

/-! ## Laws -/

theorem content_raw (cs : List Char) : (⟨.raw, cs⟩ : Spelling).content = cs := rfl

theorem unescaped_of_plain {cs : List Char} (h : ∀ c ∈ cs, c ≠ '\\') (fuel : Nat) :
    unescaped fuel cs = cs := by
  induction cs generalizing fuel with
  | nil => cases fuel <;> rfl
  | cons c cs ih =>
    cases fuel with
    | zero => rfl
    | succ fuel =>
      rw [unescaped, if_neg (h c (by simp)), ih fun d hd => h d (by simp [hd])]

theorem content_of_plain {cs : List Char} (h : ∀ c ∈ cs, c ≠ '\\') (script : Script) :
    (⟨script, cs⟩ : Spelling).content = cs := by
  cases script with
  | plain => rfl
  | raw => rfl
  | escaped => exact unescaped_of_plain h _
  | loose => exact unescaped_of_plain h _

theorem same_self (s : Spelling) : s.same s = true := by
  unfold Spelling.same
  split <;> simp

end Document

end SalesLedger.Sql
