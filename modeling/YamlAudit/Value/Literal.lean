import YamlAudit.Value.Basic
import YamlAudit.Decimal.Numeral
import YamlAudit.Decimal.Shortest

/-!
# Value — Literal

Values as they stand in messages.  Texts are quoted, numbers have as many digits as it takes to read
them back, containers are written out at every place they are referred to; inside itself a container
is three dots between its brackets.  A value with an integer of too many digits in it is not written
(`Datum.literal?`, `Datum.text?`).
-/

namespace YamlAudit

/-- Floating point numbers are positional from 10⁻⁴ on and below 10¹⁶. -/
def literalStyle : NumeralStyle := ⟨-4, 16, 2, "inf", "nan"⟩

/-- The text of a floating point number. -/
def floatText (x : Float) : String := literalStyle.write (floatValue x)

/-- Items between brackets, with a comma and a space between them. -/
def listed (items : List String) : String := ", ".intercalate items

/-- A date as in `2001-01-31`. -/
def Date.text (d : Date) : String :=
  paddedDigits 4 d.year ++ "-" ++ paddedDigits 2 d.month ++ "-" ++ paddedDigits 2 d.day

/-- An offset as in `+05:30`. -/
def Zone.offsetText (z : Zone) : String :=
  let n := z.minutes.natAbs
  (if z.minutes < 0 then "-" else "+") ++ paddedDigits 2 (n / 60) ++ ":" ++ paddedDigits 2 (n % 60)

/-- A moment as in `2001-01-31T12:00:00.5+05:30`, with six places after the point or none at all. -/
def Moment.text (m : Moment) (separator : String) : String :=
  let fraction :=
    if m.microsecond = 0 then "" else "." ++ paddedDigits 6 m.microsecond
  m.date.text ++ separator ++ paddedDigits 2 m.hour ++ ":" ++ paddedDigits 2 m.minute ++ ":"
    ++ paddedDigits 2 m.second ++ fraction ++ ((m.zone.map Zone.offsetText).getD "")

/-- A span of minutes in days and seconds. -/
def spanLiteral (minutes : Int) : String :=
  let days := minutes.fdiv 1440
  let seconds := minutes.fmod 1440 * 60
  let parts := (if days = 0 then [] else ["days=" ++ toString days])
    ++ (if seconds = 0 then [] else ["seconds=" ++ toString seconds])
  "datetime.timedelta(" ++ (if parts.isEmpty then "0" else listed parts) ++ ")"

/-- The literal of a date. -/
def Date.literal (d : Date) : String :=
  "datetime.date(" ++ listed [toString d.year, toString d.month, toString d.day] ++ ")"

/-- The literal of a moment; a time without seconds is written without them. -/
def Moment.literal (m : Moment) : String :=
  let tail :=
    if m.microsecond ≠ 0 then [toString m.second, toString m.microsecond]
    else if m.second ≠ 0 then [toString m.second]
    else []
  let zone := match m.zone with
    | none => []
    | some z => ["tzinfo=datetime.timezone(" ++ listed [spanLiteral z.minutes, quoted z.name] ++ ")"]
  "datetime.datetime(" ++ listed ([toString m.date.year, toString m.date.month, toString m.date.day,
    toString m.hour, toString m.minute] ++ tail ++ zone) ++ ")"

/-- Text between curly brackets. -/
def braced (s : String) : String := "\x7b" ++ s ++ "\x7d"

/-- The literal of a tuple whose items have these literals. -/
def tupled : List String → String
  | [item] => "(" ++ item ++ ",)"
  | items => "(" ++ listed items ++ ")"

mutual

/-- The literal of a value in which containers are written as `container` says. -/
def Value.literalWith (container : Nat → String) : Value → String
  | .null => "None"
  | .bool b => if b then "True" else "False"
  | .int n => toString n
  | .float x => floatText x
  | .nan _ => literalStyle.notANumber
  | .text t => quoted t
  | .bytes bs => quotedBytes bs
  | .date d => d.literal
  | .moment m => m.literal
  | .tuple items => tupled (literalsWith container items)
  | .ref n => container n

/-- The literals of several values. -/
def literalsWith (container : Nat → String) : List Value → List String
  | [] => []
  | v :: rest => v.literalWith container :: literalsWith container rest

end

/-- The literal of a container inside the containers `around`; `write` writes what lies inside. -/
def Store.literalOf (s : Store) (write : List Nat → Value → String) (around : List Nat) (n : Nat) :
    String :=
  let inside := write (n :: around)
  let again := around.contains n
  match s.get n with
  | .list items => if again then "[...]" else "[" ++ listed (items.map inside) ++ "]"
  | .mapping es =>
    if again then braced "..."
    else braced (listed (es.map fun e => inside e.1 ++ ": " ++ inside e.2))
  | .ordered es =>
    if again then "..."
    else if es.isEmpty then "ordereddict()"
    else
      let pairs := es.map fun e => "(" ++ inside e.1 ++ ", " ++ inside e.2 ++ ")"
      "ordereddict([" ++ listed pairs ++ "])"
  | .set items =>
    if again then "set(...)"
    else if items.isEmpty then "set()"
    else braced (listed (items.map inside))

/-- The literal of a value whose containers are in `s`, inside the containers `around`, with room for
some containers inside one another. -/
def literalFrom (s : Store) : Nat → List Nat → Value → String
  | 0, _, v => v.literalWith fun _ => "..."
  | room + 1, around, v => v.literalWith (s.literalOf (literalFrom s room) around)

/-- Room for all containers of a store inside one another, and for one of them again. -/
def Store.room (s : Store) : Nat := s.containers.size + 1

/-- The literal of a datum. -/
def Datum.literal (d : Datum) : String := literalFrom d.store d.store.room [] d.value

/-- A datum as plain text: a text is itself, dates and moments are written as usual, and all else is
as in its literal. -/
def Datum.text (d : Datum) : String :=
  match d.value with
  | .text t => t
  | .date day => day.text
  | .moment m => m.text " "
  | _ => d.literal

mutual

/-- Whether an integer in the literal of a value has too many digits, if `container` says it of those in
containers. -/
def Value.isOverlongWith (container : Nat → Bool) : Value → Bool
  | .int n => isOverlong n
  | .tuple items => anyOverlongWith container items
  | .ref n => container n
  | _ => false

/-- Whether one in the literals of several values has. -/
def anyOverlongWith (container : Nat → Bool) : List Value → Bool
  | [] => false
  | v :: rest => v.isOverlongWith container || anyOverlongWith container rest

end

/-- Whether an integer in the literal of a container has too many digits; `ask` tells of what lies
inside, and inside itself nothing of it is written. -/
def Store.isOverlongOf (s : Store) (ask : List Nat → Value → Bool) (around : List Nat) (n : Nat) :
    Bool :=
  let inside := ask (n :: around)
  !around.contains n && match s.get n with
    | .list items | .set items => items.any inside
    | .mapping es | .ordered es => es.any fun e => inside e.1 || inside e.2

/-- Whether an integer in the literal of a value has too many digits, with room for some containers
inside one another. -/
def overlongFrom (s : Store) : Nat → List Nat → Value → Bool
  | 0, _, v => v.isOverlongWith fun _ => false
  | room + 1, around, v => v.isOverlongWith (s.isOverlongOf (overlongFrom s room) around)

/-- Whether an integer in the literal of a datum has too many digits. -/
def Datum.isOverlong (d : Datum) : Bool := overlongFrom d.store d.store.room [] d.value

/-- The literal of a datum, unless an integer in it has too many digits. -/
def Datum.literal? (d : Datum) : Except TooManyDigits String :=
  if d.isOverlong then .error ⟨⟩ else .ok d.literal

/-- A datum as plain text, unless an integer in it has too many digits. -/
def Datum.text? (d : Datum) : Except TooManyDigits String :=
  if d.isOverlong then .error ⟨⟩ else .ok d.text

end YamlAudit
