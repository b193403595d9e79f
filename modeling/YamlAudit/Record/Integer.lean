import YamlAudit.Record.Plain
import YamlAudit.Record.Issue
import YamlAudit.Decimal.Numeral

/-!
# Record — Integer

Integers in exchanged data.  Booleans count as zero and one, and a floating point number without a
fractional part is the integer it equals as long as it fits in 64 bits.  A text is an integer when it
is, blanks around it aside, an optional sign and digits with single underscores between them, and
perhaps a fraction of zeros only.  In front of its first other digit there may be any zeros,
underscores behind the first of them, and then a minus sign as well (`plainNumeral?`).
-/

namespace YamlAudit

/-- Decimal digits of ASCII. -/
def isPlainDigit (c : Char) : Bool := '0' ≤ c && c ≤ '9'

/-- What is left of a number whose leading zeros, the last of which is `last`, have been gone past. -/
def afterZeros? (last : Char) : List Char → Option (List Char)
  | [] => some [last]
  | c :: rest =>
    if c = '0' ∨ c = '_' then afterZeros? c rest
    else if c = '.' then some (last :: c :: rest)
    else if isPlainDigit c || c = '-' then some (c :: rest)
    else none

/-- A number without its leading zeros; a zero by itself or in front of a fraction is kept. -/
def withoutZeros? (cs : List Char) : Option (List Char) :=
  match cs with
  | [] => none
  | c :: rest =>
    if c = '0' then afterZeros? c rest
    else if isPlainDigit c || c = '-' then some cs
    else none

/-- A number without a fraction of zeros, point included. -/
def withoutZeroFraction (cs : List Char) : List Char :=
  match cs.dropWhile (· ≠ '.') with
  | '.' :: fraction => if fraction.all (· = '0') then cs.takeWhile (· ≠ '.') else cs
  | _ => cs

/-- Whether two underscores stand side by side, `c` being in front. -/
def hasDoubleLine : Char → List Char → Bool
  | _, [] => false
  | c, d :: rest => (c = '_' && d = '_') || hasDoubleLine d rest

/-- A number without underscores, if none of them is at an end or next to another. -/
def withoutLines (cs : List Char) : List Char :=
  if cs.head? = some '_' || cs.getLast? = some '_' || hasDoubleLine ' ' cs then cs
  else cs.filter (· ≠ '_')

/-- A text as a plain numeral of the same value, together with whether it has a minus sign in front. -/
def plainNumeral? (cs : List Char) : Option (Bool × List Char) :=
  let (negative, unsigned) := match trimBlanks cs with
    | '+' :: '-' :: _ => (false, [])
    | '+' :: rest => (false, rest)
    | '-' :: rest => (true, rest)
    | rest => (false, rest)
  (withoutZeros? unsigned).map fun rest => (negative, withoutLines (withoutZeroFraction rest))

/-- The integer that a text stands for. -/
def integerOfText (s : String) : Checked Int :=
  if s.toList.any fun c => isSurrogate (codePoint c) then .issue .notUnicode
  else match plainNumeral? s.toList with
  | none => .issue .integerText
  | some (negative, cs) =>
    let (minus, ds) := match negative, cs with
      | false, '-' :: rest => (true, rest)
      | _, _ => (negative, cs)
    let run := ds.takeWhile isPlainDigit
    if digitLimit < run.length then .issue .integerSize
    else if run.isEmpty || run.length < ds.length then .issue .integerText
    else
      let n := ofDigits (run.map fun c => c.toNat - '0'.toNat)
      .ok (if minus then -(n : Int) else n)

/-- The integer a finite number without fraction equals. -/
def integerOfFloat (x : Float) : Checked Int :=
  if x.floor != x then .issue .fraction
  else if (-9223372036854775808.0 : Float) < x && x < 9223372036854775808.0 then
    .ok x.toInt64.toInt
  else .issue .integerSize

/-- Reads an integer. -/
def readInteger : Plain → Checked Int
  | .int n => .ok n
  | .bool b => .ok (if b then 1 else 0)
  | .float x => integerOfFloat x
  | .text s => integerOfText s
  | _ => .issue .notInteger

/-- Reads a text. -/
def readText : Plain → Checked String
  | .text s => .ok s
  | _ => .issue .notString

end YamlAudit
