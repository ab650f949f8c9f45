import SalesLedger.Calendar.DateText
import SalesLedger.Decimal.Signed64
import SalesLedger.Tenant
import SalesLedger.Text.Case

/-!
# Arguments

What the arguments of a command line ask for. Options begin with two hyphens and take their value
from the next argument or after an equals sign; two hyphens alone end them. The three options that
say where ledgers are and what day it is may stand before the command or after it, and count as
they stand after it. An argument that is out of place makes the whole line unusable.

Main statements: `scan_positional`, arguments without a hyphen at their start are left as they are.
-/

namespace SalesLedger.CommandLine

/-! ## Options -/

/-- The options that are known at one place of a line. -/
structure Known where
  valued : List String
  flags : List String
  deriving Repr, DecidableEq

/-- Options with their values, and the other arguments. -/
structure Scanned where
  options : List (String × String)
  others : List String
  deriving Repr, DecidableEq

/-- Whether an argument looks like an option. A hyphen alone does not. -/
def looksLikeOption (arg : String) : Bool :=
  match arg.toList with
  | '-' :: _ :: _ => true
  | _ => false

/-- An option as it is written: its name, and its value if an equals sign gives one. -/
def splitOption (arg : String) : String × Option String :=
  let cs := arg.toList
  let name := String.ofList (cs.takeWhile fun c => c != '=')
  match cs.dropWhile fun c => c != '=' with
  | [] => (name, none)
  | _ :: value => (name, some (String.ofList value))

/-- Tells options from other arguments. -/
def scan (known : Known) : List String → Option Scanned
  | [] => some ⟨[], []⟩
  | arg :: rest =>
    if arg = "--" then some ⟨[], rest⟩
    else if looksLikeOption arg then
      let (name, value?) := splitOption arg
      if known.valued.contains name then
        match value?, rest with
        | some value, rest => do
          let s ← scan known rest
          some { s with options := (name, value) :: s.options }
        | none, value :: rest =>
          if looksLikeOption value then none
          else do
            let s ← scan known rest
            some { s with options := (name, value) :: s.options }
        | none, [] => none
      else if known.flags.contains name && value?.isNone then do
        let s ← scan known rest
        some { s with options := (name, "") :: s.options }
      else none
    else do
      let s ← scan known rest
      some { s with others := arg :: s.others }

/-- The options before a command, the command, and what follows it. -/
def scanHead (known : Known) :
    List String → Option (List (String × String) × String × List String)
  | [] => none
  | arg :: rest =>
    if looksLikeOption arg then
      let (name, value?) := splitOption arg
      if known.valued.contains name then
        match value?, rest with
        | some value, rest => do
          let (options, tail) ← scanHead known rest
          some ((name, value) :: options, tail)
        | none, value :: rest =>
          if looksLikeOption value then none
          else do
            let (options, tail) ← scanHead known rest
            some ((name, value) :: options, tail)
        | none, [] => none
      else none
    else some ([], arg, rest)

theorem scan_positional (known : Known) {args : List String}
    (h : ∀ arg ∈ args, looksLikeOption arg = false) : scan known args = some ⟨[], args⟩ := by
  induction args with
  | nil => rfl
  | cons arg rest ih =>
    have harg := h arg (by simp)
    have hdashes : arg ≠ "--" := by
      rintro rfl
      exact absurd harg (by decide)
    simp [scan, harg, hdashes, ih fun a ha => h a (by simp [ha])]

/-- Whether no option is given twice. -/
def eachOnce (options : List (String × String)) : Bool :=
  (options.map (·.1)).Nodup

/-! ## Values -/

/-- The whole number of 64 bits that a text spells. -/
def count? (s : String) : Option { n : Int // Fits64 n } :=
  (Text.signed? s.toList).bind fun n => if h : Fits64 n then some ⟨n, h⟩ else none

/-- The double nearest to a number with an exponent of ten. -/
def decimal (digits : Nat) (exponent : Int) : Float :=
  if digits = 0 then 0
  else
    let magnitude : Int := (Nat.toDigits 10 digits).length + exponent
    if 310 < magnitude then 1 / 0
    else if magnitude < -330 then 0
    else Float.ofScientific digits (exponent < 0) exponent.natAbs

/-- The exponent at the end of a number, if it is well written. -/
def exponent? : List Char → Option Int
  | [] => some 0
  | c :: rest => if c == 'e' || c == 'E' then Text.signed? rest else none

/-- The number without sign that digits spell, with a point among them or not. -/
def decimalPoint? (cs : List Char) : Option Float := do
  let whole := cs.takeWhile Text.isDigit
  let rest := cs.dropWhile Text.isDigit
  let (fraction, rest) : List Char × List Char :=
    match rest with
    | '.' :: more => (more.takeWhile Text.isDigit, more.dropWhile Text.isDigit)
    | _ => ([], rest)
  let digits ← Text.decimal? (whole ++ fraction)
  let exponent ← exponent? rest
  some (decimal digits (exponent - (fraction.length : Int)))

/-- The number without sign that a text spells. -/
def magnitude? (cs : List Char) : Option Float :=
  let word := Text.lowerAscii (String.ofList cs)
  if word = "inf" || word = "infinity" then some (1 / 0)
  else if word = "nan" then some (0 / 0)
  else decimalPoint? cs

/-- The number that a text spells. -/
def price? (s : String) : Option Float :=
  match s.toList with
  | '-' :: rest => (magnitude? rest).map fun x => -x
  | '+' :: rest => magnitude? rest
  | cs => magnitude? cs

/-- The date that a text spells. -/
def date? (s : String) : Option Calendar.Date :=
  (Calendar.Date.readLoose s).toOption

/-- The tenant that a text names. -/
def tenant? (s : String) : Option Tenant :=
  (Tenant.parse s).toOption

/-- A path: any text but the empty one. -/
def path? (s : String) : Option String :=
  if s = "" then none else some s

/-! ## Lines -/

/-- What a line asks to be done. -/
inductive Command where
  | prepare (tenant : Tenant)
  | addSale (tenant : Tenant) (item : String) (price : Float)
      (inStock sold : { n : Int // Fits64 n }) (date : Option Calendar.Date)
  | query (tenant : Tenant) (params : String)
  | chart (tenant : Tenant) (params : String)
  | dashboard (tenant : Tenant)
  | recent (tenant : Tenant)
  | compile (tenant : Tenant) (params : String) (strict : Bool)

def Command.tenant : Command → Tenant
  | prepare t | addSale t .. | query t _ | chart t _ | dashboard t | recent t | compile t .. => t

/-- A line: a command, and the options that every command has. -/
structure Line where
  dataDir : Option String
  masterPath : Option String
  today : Option Calendar.Date
  command : Command

/-- The options that every command has. -/
def everywhere : List String := ["--data-dir", "--master-db", "--today"]

def known : String → Option Known
  | "init" | "dashboard" | "recent" => some ⟨everywhere, []⟩
  | "add-sale" => some ⟨"--date" :: everywhere, []⟩
  | "query" | "chart" => some ⟨"--params" :: everywhere, []⟩
  | "compile" => some ⟨"--params" :: everywhere, ["--strict"]⟩
  | _ => none

/-- The value of an option that has to be well written where it is given. -/
def optional {α : Type} (read : String → Option α) : Option String → Option (Option α)
  | some s => (read s).map some
  | none => some none

/-- The command of a name, its options and its other arguments. -/
def command? (name : String) (s : Scanned) : Option Command :=
  match name, s.others with
  | "init", [phone] => do some (.prepare (← tenant? phone))
  | "dashboard", [phone] => do some (.dashboard (← tenant? phone))
  | "recent", [phone] => do some (.recent (← tenant? phone))
  | "query", [phone] => do some (.query (← tenant? phone) (← s.options.lookup "--params"))
  | "chart", [phone] => do some (.chart (← tenant? phone) (← s.options.lookup "--params"))
  | "compile", [phone] => do
    some (.compile (← tenant? phone) (← s.options.lookup "--params")
      (s.options.lookup "--strict").isSome)
  | "add-sale", [phone, item, price, inStock, sold] => do
    some (.addSale (← tenant? phone) item (← price? price) (← count? inStock) (← count? sold)
      (← optional date? (s.options.lookup "--date")))
  | _, _ => none

/-- Whether the value of an option that every command has is well written. -/
def wellWritten (name value : String) : Bool :=
  if name = "--today" then (date? value).isSome else (path? value).isSome

/-- Whether an argument is the option that asks which version the program is. -/
def isVersionOption (arg : String) : Bool :=
  match arg.toList with
  | '-' :: 'V' :: _ => true
  | _ => arg = "--version"

/-- Whether the version is asked for before a command, behind nothing but usable options, where some
were there before. -/
def asksVersion (seen : List String) : List String → Bool
  | [] => false
  | arg :: rest =>
    isVersionOption arg ||
      let (name, value?) := splitOption arg
      everywhere.contains name && !seen.contains name &&
        match value?, rest with
        | some value, rest => wellWritten name value && asksVersion (name :: seen) rest
        | none, value :: rest =>
          !looksLikeOption value && wellWritten name value && asksVersion (name :: seen) rest
        | none, [] => false

/-- What the arguments ask for, if they are usable. -/
def Line.parse (args : List String) : Option Line := do
  let (before, name, rest) ← scanHead ⟨everywhere, []⟩ args
  let s ← scan (← known name) rest
  if !eachOnce before || !eachOnce s.options then none
  let command ← command? name s
  -- options before the command have to be well written even where they do not count
  let dataDirBefore ← optional path? (before.lookup "--data-dir")
  let masterBefore ← optional path? (before.lookup "--master-db")
  let todayBefore ← optional date? (before.lookup "--today")
  let dataDir ← optional path? (s.options.lookup "--data-dir")
  let masterPath ← optional path? (s.options.lookup "--master-db")
  let today ← optional date? (s.options.lookup "--today")
  some
    { dataDir := dataDir.or dataDirBefore
      masterPath := masterPath.or masterBefore
      today := today.or todayBefore
      command := command }

end SalesLedger.CommandLine
