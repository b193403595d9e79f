import YamlAudit.Decimal.Nearest
import YamlAudit.Text.Alphanumeric
import YamlAudit.Text.Blank
import YamlAudit.Text.Quoted

/-!
# Decimal — Numeral

Numerals as numbers.  White space around a numeral is ignored and the digits may be those of any
script.  An integer may have a sign and, in base two, eight and sixteen, the mark of its base, but not
too many decimal digits; a floating point number may have a fraction and an exponent, or be the word
for infinity or for no number.
-/

namespace YamlAudit

-- powers are those of the core library, whatever else is in scope
attribute [local instance (2000)] instPowNat

/-- The value of a decimal digit of any script. -/
def decimalDigit? (c : Char) : Option Nat :=
  if '0' ≤ c && c ≤ '9' then some (c.toNat - '0'.toNat)
  else match decimalDigitRanges.ranges.find? (fun r => r.1 ≤ c.toNat && c.toNat ≤ r.2) with
    | some r => some ((c.toNat - r.1) % 10)
    | none => none

/-- The value of a digit in bases up to sixteen. -/
def baseDigit? (base : Nat) (c : Char) : Option Nat :=
  let d := match decimalDigit? c with
    | some d => some d
    | none =>
      if 'a' ≤ c && c ≤ 'f' then some (c.toNat - 'a'.toNat + 10)
      else if 'A' ≤ c && c ≤ 'F' then some (c.toNat - 'A'.toNat + 10)
      else none
  d.bind fun d => if d < base then some d else none

/-- Splits off a sign. -/
def signOf (cs : List Char) : Bool × List Char :=
  match cs with
  | '-' :: rest => (true, rest)
  | '+' :: rest => (false, rest)
  | _ => (false, cs)

/-! ### Integers -/

/-- How many decimal digits an integer may have to be read or written. -/
def digitLimit : Nat := 4300

/-- Why a numeral stands for no integer. -/
inductive NumeralFault where
  | malformed
  /-- It has more decimal digits than are read. -/
  | tooManyDigits (count : Nat)
  deriving DecidableEq, Repr

/-- The wording of the limit on digits. -/
def digitLimitText : String :=
  "Exceeds the limit (" ++ toString digitLimit ++ " digits) for integer string conversion"

/-- The remedy for numbers beyond the limit. -/
def digitLimitRemedy : String := "; use sys.set_int_max_str_digits() to increase the limit"

/-- The wording of a fault in a numeral, which is shown up to a length. -/
def NumeralFault.message (base : Nat) (numeral : List Char) : NumeralFault → String
  | malformed =>
    "invalid literal for int() with base " ++ toString base ++ ": "
      ++ String.ofList ((quoted (String.ofList numeral)).toList.take 200)
  | tooManyDigits count =>
    digitLimitText ++ ": value has " ++ toString count ++ " digits" ++ digitLimitRemedy

/-- Goes past the mark of a base, which an underscore may follow. -/
def dropBaseMark (base : Nat) (cs : List Char) : List Char :=
  let dropLine : List Char → List Char
    | '_' :: rest => rest
    | rest => rest
  match base, cs with
  | 2, '0' :: 'b' :: rest | 2, '0' :: 'B' :: rest => dropLine rest
  | 8, '0' :: 'o' :: rest | 8, '0' :: 'O' :: rest => dropLine rest
  | 16, '0' :: 'x' :: rest | 16, '0' :: 'X' :: rest => dropLine rest
  | _, _ => cs

/-- Digits with single underscores between them; `line` says that an underscore may come next. -/
def digitsFrom? (base : Nat) : Bool → List Char → Option (List Nat)
  | line, [] => if line then some [] else none
  | line, '_' :: rest => if line then digitsFrom? base false rest else none
  | _, c :: rest =>
    (baseDigit? base c).bind fun d => (digitsFrom? base true rest).map (d :: ·)

/-- The integer a numeral stands for.  Too many digits are refused whatever follows them; powers of
two as a base know no limit. -/
def readNumeral (base : Nat) (numeral : List Char) : Except NumeralFault Int :=
  let (negative, unsigned) := signOf (numeral.dropWhile isBlank)
  let body := dropBaseMark base unsigned
  let run := body.takeWhile fun c => c == '_' || (baseDigit? base c).isSome
  match digitsFrom? base false run with
  | none => .error .malformed
  | some ds =>
    if base = 10 && digitLimit < ds.length then .error (.tooManyDigits ds.length)
    else if !(body.drop run.length).all isBlank then .error .malformed
    else
      let n := ds.foldl (fun n d => base * n + d) 0
      .ok (if negative then -(n : Int) else n)

/-- An integer has too many decimal digits to be written. -/
structure TooManyDigits where
  deriving DecidableEq, Repr

/-- The wording of an integer with too many digits. -/
def TooManyDigits.message (_ : TooManyDigits) : String := digitLimitText ++ digitLimitRemedy

/-- Whether an integer has too many decimal digits to be written. -/
def isOverlong (n : Int) : Bool := 10 ^ digitLimit ≤ n.natAbs

/-! ### Floating point numbers -/

/-- The number `digits · 10 ^ exponent` rounded to a floating point number. -/
def floatOfDecimal (digits : Nat) (exponent : Int) : Float :=
  let size : Int := (Nat.toDigits 10 digits).length
  if digits = 0 || size + exponent < -400 then 0.0
  else if 400 < size + exponent then 1.0 / 0.0
  else if 0 ≤ exponent then nearestFloat (digits * 10 ^ exponent.toNat) 1
  else nearestFloat digits (10 ^ (-exponent).toNat)

/-- The digits in front of something else, with single underscores allowed between them. -/
def takeDigits : List Char → List Nat × List Char
  | '_' :: c :: rest =>
    match decimalDigit? c with
    | some d => let (ds, rest) := takeDigits rest; (d :: ds, rest)
    | none => ([], '_' :: c :: rest)
  | c :: rest =>
    match decimalDigit? c with
    | some d => let (ds, rest) := takeDigits rest; (d :: ds, rest)
    | none => ([], c :: rest)
  | [] => ([], [])

/-- Digits that begin with a digit. -/
def leadingDigits (cs : List Char) : List Nat × List Char :=
  match cs with
  | '_' :: _ => ([], cs)
  | _ => takeDigits cs

/-- The number that a list of digits stands for. -/
def ofDigits (ds : List Nat) : Nat := ds.foldl (fun n d => 10 * n + d) 0

/-- The exponent at the end of a numeral. -/
def exponentPart? (cs : List Char) : Option Int :=
  match cs with
  | [] => some 0
  | e :: rest =>
    if e == 'e' || e == 'E' then
      let (negative, rest) := signOf rest
      match leadingDigits rest with
      | ([], _) => none
      | (ds, []) => some (if negative then -(ofDigits ds : Int) else ofDigits ds)
      | _ => none
    else none

/-- The number an unsigned decimal stands for. -/
def decimalNumeral? (cs : List Char) : Option Float :=
  let (whole, rest) := leadingDigits cs
  let (fraction, rest) := match rest with
    | '.' :: rest => leadingDigits rest
    | _ => ([], rest)
  if whole.isEmpty && fraction.isEmpty then none
  else (exponentPart? rest).map fun e =>
    floatOfDecimal (ofDigits (whole ++ fraction)) (e - fraction.length)

/-- The floating point number a numeral stands for. -/
def floatNumeral? (cs : List Char) : Option Float :=
  let (negative, cs) := signOf (trimBlanks cs)
  let word := String.ofList (cs.map Char.toLower)
  let x :=
    if word = "inf" || word = "infinity" then some (1.0 / 0.0 : Float)
    else if word = "nan" then some (0.0 / 0.0 : Float)
    else decimalNumeral? cs
  x.map fun x => if negative then -x else x

end YamlAudit
