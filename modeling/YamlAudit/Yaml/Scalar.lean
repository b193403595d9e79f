import YamlAudit.Yaml.Fault
import YamlAudit.Yaml.ScalarType
import YamlAudit.Value.Literal
import YamlAudit.Decimal.Numeral
import YamlAudit.Text.Base64
import YamlAudit.Text.LetterCase

/-!
# Yaml — Scalar

The values of scalars.  The type of a scalar, be it told by a tag or inferred, says how its text is
read; a text that cannot be read so is refused with the reason (`Refusal`).  Underscores in numbers
are ignored, and the old version knows base sixty and octal numbers with a leading zero.
-/

namespace YamlAudit.Yaml

/-- Why a value cannot be had from a text. -/
inductive Refusal where
  | integer (base : Nat) (numeral : List Char) (fault : NumeralFault)
  | float (text : String)
  /-- A place of a number in base sixty that is worth too much. -/
  | placeValue
  | severalExponents
  | boolean (text : String)
  /-- There is no text where at least one character is needed. -/
  | noText
  | calendar (fault : CalendarFault)
  /-- A key occurs twice in an ordered map. -/
  | repeatedKey
  /-- A key has a container in it. -/
  | unhashable (kind : Unhashable)
  /-- A value that a message is to show. -/
  | overlong (e : TooManyDigits)
  /-- The calls that make it lie deeper inside one another than calls may. -/
  | exhausted
  deriving DecidableEq, Repr

/-- The wording of a calendar fault. -/
def calendarMessage : CalendarFault → String
  | .year n => "year " ++ toString n ++ " is out of range"
  | .month => "month must be in 1..12"
  | .day => "day is out of range for month"
  | .hour => "hour must be in 0..23"
  | .minute => "minute must be in 0..59"
  | .second => "second must be in 0..59"
  | .offset minutes =>
    "offset must be a timedelta strictly between -timedelta(hours=24) and timedelta(hours=24), not "
      ++ spanLiteral minutes ++ "."
  | .pastTheEnd => "date value out of range"

/-- The wording of a refusal. -/
def Refusal.message : Refusal → String
  | integer base numeral fault => fault.message base numeral
  | float text => "could not convert string to float: " ++ quoted text
  | placeValue => "int too large to convert to float"
  | severalExponents => "too many values to unpack (expected 2)"
  | boolean text => quoted text
  | noText => "string index out of range"
  | calendar fault => calendarMessage fault
  | repeatedKey => ""
  | unhashable kind => "unhashable type: " ++ quoted kind.name
  | overlong e => e.message
  | exhausted => "maximum recursion depth exceeded"

/-- Why a value cannot be built. -/
inductive BuildError where
  | fault (f : Fault)
  | refusal (r : Refusal)
  deriving DecidableEq

/-! ### Truth values and numbers -/

/-- The truth value of a word, in whichever case. -/
def readBool (value : String) : Except Refusal Value :=
  let word := String.ofList (lowerCaseAll value.toList)
  if ["yes", "y", "true", "on"].contains word then .ok (.bool true)
  else if ["no", "n", "false", "off"].contains word then .ok (.bool false)
  else .error (.boolean word)

/-- The integer of a numeral. -/
def readInBase (base : Nat) (cs : List Char) : Except Refusal Int :=
  (readNumeral base cs).mapError (.integer base cs)

/-- Parts between colons. -/
def splitAt (c : Char) (cs : List Char) : List (List Char) :=
  match cs with
  | [] => [[]]
  | d :: rest =>
    let parts := splitAt c rest
    if d == c then [] :: parts
    else (d :: parts.headD []) :: parts.tail

/-- The text of a number without underscores and without its sign. -/
def unsignedText (cs : List Char) : Except Refusal (Bool × List Char) :=
  match cs with
  | [] => .error .noText
  | '-' :: rest => .ok (true, rest)
  | '+' :: rest => .ok (false, rest)
  | _ => .ok (false, cs)

/-- The integer without a sign that a text stands for. -/
def readUnsigned (old : Bool) (cs : List Char) : Except Refusal Int :=
  match cs with
  | ['0'] => .ok 0
  | '0' :: 'b' :: rest => readInBase 2 rest
  | '0' :: 'x' :: rest => readInBase 16 rest
  | '0' :: 'o' :: rest => readInBase 8 rest
  | _ =>
    if !old then readInBase 10 cs
    else match cs with
      | [] => .error .noText
      | '0' :: _ => readInBase 8 cs
      | _ =>
        if cs.contains ':' then
          (splitAt ':' cs).foldlM (fun n part => return 60 * n + (← readInBase 10 part)) 0
        else readInBase 10 cs

/-- The integer a text stands for. -/
def readInt (old : Bool) (value : String) : Except Refusal Value := do
  let (negative, cs) ← unsignedText (value.toList.filter (· != '_'))
  let n ← readUnsigned old cs
  return .int (if negative then -n else n)

/-- The floating point number of a numeral. -/
def readDecimal (cs : List Char) : Except Refusal Float :=
  match floatNumeral? cs with
  | some x => .ok x
  | none => .error (.float (String.ofList cs))

/-- The sum of the places of a number in base sixty, the last of them first; `value` is what a one is
worth at the next place. -/
def sumPlaces (value : Int) (sum : Float) : List Float → Except Refusal Float
  | [] => .ok sum
  | digit :: rest =>
    match floatOfInt? value with
    | some unit => sumPlaces (60 * value) (sum + digit * unit) rest
    | none => .error .placeValue

/-- The floating point number without a sign that a text in lower case stands for. -/
def readUnsignedFloat (old : Bool) (cs : List Char) : Except Refusal Float := do
  if cs == ".inf".toList then return 1.0 / 0.0
  else if old && cs.contains ':' then
    sumPlaces 1 0.0 (← (splitAt ':' cs).mapM readDecimal).reverse
  else if old && 1 < cs.count 'e' then .error .severalExponents
  else readDecimal cs

/-- The floating point number a text stands for; a result that is no number gets the mark `mark`,
unless it is written by its name. -/
def readFloat (old : Bool) (mark : NanMark) (value : String) : Except Refusal Value := do
  let (negative, cs) ← unsignedText (lowerCaseAll (value.toList.filter (· != '_')))
  if cs == ".nan".toList then return .nan .named
  let x ← readUnsignedFloat old cs
  return .ofFloat mark (if negative then -x else x)

/-! ### Dates -/

/-- The number that decimal digits stand for. -/
def numberOf (cs : List Char) : Nat := cs.foldl (fun n c => 10 * n + (c.toNat - '0'.toNat)) 0

/-- The number written by the digits that `rest` follows. -/
def numberBefore (cs rest : List Char) : Nat := numberOf (cs.take (cs.length - rest.length))

/-- A time of day and a zone as they are written. -/
structure TimeText where
  hour : Nat
  minute : Nat
  second : Nat
  fraction : List Char
  zone : Option Zone

/-- A date as it is written, with the time behind it. -/
structure DateText where
  year : Nat
  month : Nat
  day : Nat
  time : Option TimeText

/-- Reads a time zone at the end of a text. -/
def zoneText? (cs : List Char) : Option Zone :=
  let cs := cs.dropWhile isSpaceOrTab
  if !isZoneForm cs then none
  else match cs with
    | sign :: rest =>
      if sign == 'Z' then some ⟨0, "Z"⟩
      else do
        let after ← someDigits? rest
        let minutes : Int := 60 * numberBefore rest after + numberOf after.tail
        some ⟨if sign == '-' then -minutes else minutes, String.ofList cs⟩
    | [] => none

/-- Reads a time of day at the end of a text. -/
def timeText? (cs : List Char) : Option TimeText := do
  let h ← someDigits? cs
  let m ← exactChar? ':' h
  let n ← exactDigits? 2 m
  let s ← exactChar? ':' n
  let after ← exactDigits? 2 s
  let (fraction, rest) := match after with
    | '.' :: rest => (rest.takeWhile isDigit, rest.dropWhile isDigit)
    | _ => ([], after)
  let zone ← if rest.isEmpty then some none else (zoneText? rest).map some
  return ⟨numberBefore cs h, numberBefore m n, numberBefore s after, fraction, zone⟩

/-- Reads a date, with a time or without. -/
def dateText? (cs : List Char) : Option DateText := do
  let a ← exactDigits? 4 cs
  let b ← exactChar? '-' a
  let c ← someDigits? b
  let d ← exactChar? '-' c
  let rest ← someDigits? d
  let time ← if rest.isEmpty then some none
    else ((dateTimeGap? rest).bind timeText?).map some
  return ⟨numberBefore cs a, numberBefore b c, numberBefore d rest, time⟩

/-- The microseconds of a fraction of a second: the seventh digit rounds, the others after the sixth
do not matter. -/
def microseconds (fraction : List Char) : Nat :=
  let six := fraction.take 6
  let n := numberOf (six ++ List.replicate (6 - six.length) '0')
  if (fraction.drop 6).head?.any ('4' < ·) then n + 1 else n

/-- The day or the moment that was written. -/
def DateText.value (t : DateText) : Except CalendarFault Value := do
  match t.time with
  | none => return .date (← Date.of? t.year t.month t.day)
  | some time =>
    if let some z := time.zone then
      if 24 * 60 ≤ z.minutes.natAbs then throw (.offset z.minutes)
    let date ← Date.of? t.year t.month t.day
    let n := microseconds time.fraction
    if n < 1000000 then
      return .moment (← Moment.of? date time.hour time.minute time.second n time.zone)
    else
      let m ← Moment.of? date time.hour time.minute time.second 0 time.zone
      return .moment (← m.nextSecond?)

/-- The day or the moment a text stands for. -/
def readTimestamp (place : Mark) (value : String) : Except BuildError Value :=
  match dateText? (withoutFinalFeed value.toList) with
  | none => .error (.fault (.bare (.badTimestamp value) place))
  | some t => t.value.mapError fun f => .refusal (.calendar f)

/-! ### Bytes -/

/-- The bytes a text in base64 stands for. -/
def readBinary (place : Mark) (value : String) : Except BuildError Value :=
  let cs := value.toList
  let before := cs.takeWhile fun c => c.toNat < 0x80
  let foreign := (cs.drop before.length).takeWhile fun c => 0x80 ≤ c.toNat
  if !foreign.isEmpty then
    .error (.fault (.bare (.notAscii foreign before.length) place))
  else match decodeBase64 cs with
    | .ok bytes => .ok (.bytes bytes)
    | .error f => .error (.fault (.bare (.badBase64 f.message) place))

end YamlAudit.Yaml
