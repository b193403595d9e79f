import YamlAudit.Yaml.Token

/-!
# Yaml — ScalarType

The type of a scalar that is not told by a tag.  Its first character says which forms are looked at
and the first form that fits gives the type; a text that fits none stays a text.  A line feed at the
very end is not looked at.  The two versions of the language know different forms.
-/

namespace YamlAudit.Yaml

/-- The types a scalar can have. -/
inductive ScalarType where
  | bool
  | float
  | int
  | merge
  | null
  | timestamp
  | value
  | yaml
  | text
  deriving DecidableEq, Repr

/-- The tag of a type. -/
def ScalarType.tag : ScalarType → String
  | bool => "tag:yaml.org,2002:bool"
  | float => "tag:yaml.org,2002:float"
  | int => "tag:yaml.org,2002:int"
  | merge => "tag:yaml.org,2002:merge"
  | null => "tag:yaml.org,2002:null"
  | timestamp => "tag:yaml.org,2002:timestamp"
  | value => "tag:yaml.org,2002:value"
  | yaml => "tag:yaml.org,2002:yaml"
  | text => "tag:yaml.org,2002:str"

/-! ### Forms -/

/-- Goes past a sign. -/
def dropSign (cs : List Char) : List Char :=
  match cs with
  | '-' :: rest | '+' :: rest => rest
  | _ => cs

/-- Digits and underscores. -/
def isDigitOrLine (c : Char) : Bool := isDigit c || c == '_'

/-- The words for truth values. -/
def isBoolForm (old : Bool) (cs : List Char) : Bool :=
  let word := String.ofList cs
  ["true", "True", "TRUE", "false", "False", "FALSE"].contains word
    || (old && ["y", "Y", "yes", "Yes", "YES", "n", "N", "no", "No", "NO", "on", "On", "ON", "off",
      "Off", "OFF"].contains word)

/-- An exponent; its sign may be obligatory. -/
def isExponent (needsSign : Bool) (cs : List Char) : Bool :=
  match cs with
  | e :: rest =>
    let digits := dropSign rest
    (e == 'e' || e == 'E') && (!needsSign || digits.length < rest.length) && !digits.isEmpty
      && digits.all isDigit
  | [] => false

/-- Groups of at most two digits below sixty, a colon in front of each, then `final`. -/
def isBaseSixty (final : List Char → Bool) : Nat → List Char → Bool
  | 0, _ => false
  | fuel + 1, ':' :: d :: rest =>
    let more (cs : List Char) : Bool := final cs || isBaseSixty final fuel cs
    isDigit d && (more rest || match rest with
      | e :: rest => d ≤ '5' && isDigit e && more rest
      | [] => false)
  | _, _ => false

/-- A number in base sixty: at least two groups, then `final`. -/
def isBaseSixtyForm (final : List Char → Bool) (cs : List Char) : Bool :=
  isBaseSixty final (cs.length + 1) (cs.dropWhile isDigitOrLine)

/-- Floating point numbers. -/
def isFloatForm (old : Bool) (cs : List Char) : Bool :=
  let body := dropSign cs
  let word := String.ofList body
  let afterWhole := body.dropWhile isDigitOrLine
  let startsWithDigit := isDigit (body.headD '\x00')
  let pointed := match afterWhole with
    | '.' :: rest =>
      let rest := rest.dropWhile isDigitOrLine
      rest.isEmpty || isExponent false rest
    | _ => false
  let pointOnly := match body with
    | '.' :: c :: rest =>
      let rest := rest.dropWhile isDigitOrLine
      isDigitOrLine c && (rest.isEmpty || isExponent true rest)
    | _ => false
  let unsigned := body.length == cs.length
  (startsWithDigit && (pointed || isExponent false afterWhole))
    || (pointOnly && (!old || unsigned))
    || (old && startsWithDigit && isBaseSixtyForm (fun rest =>
      rest.head? == some '.' && rest.tail.all isDigitOrLine) body)
    || [".inf", ".Inf", ".INF"].contains word
    || (unsigned && [".nan", ".NaN", ".NAN"].contains word)

/-- At least one character, all of a class. -/
def isRunOf (p : Char → Bool) (cs : List Char) : Bool := !cs.isEmpty && cs.all p

/-- Digits below `base`, and underscores. -/
def isBaseDigit (base : Nat) (c : Char) : Bool :=
  c == '_' || (hexDigit? c).any (· < base)

/-- Integers. -/
def isIntForm (old : Bool) (cs : List Char) : Bool :=
  let body := dropSign cs
  let marked (mark : Char) (base : Nat) : Bool := match body with
    | '0' :: c :: rest => c == mark && isRunOf (isBaseDigit base) rest
    | _ => false
  let positive : Bool := '1' ≤ body.headD '\x00' && body.headD '\x00' ≤ '9'
  marked 'b' 2 || marked 'x' 16 || isRunOf (isBaseDigit 8) body
    || (if old then
        body == ['0'] || (positive && (body.all isDigitOrLine || isBaseSixtyForm List.isEmpty body))
      else marked 'o' 8 || isRunOf isDigitOrLine body)

/-- Exactly `n` digits, and what follows them. -/
def exactDigits? (n : Nat) (cs : List Char) : Option (List Char) :=
  if (cs.take n).length == n && (cs.take n).all isDigit then some (cs.drop n) else none

/-- One or two digits, and what follows them. -/
def someDigits? (cs : List Char) : Option (List Char) :=
  (exactDigits? 2 cs).orElse fun _ => exactDigits? 1 cs

/-- One character, and what follows it. -/
def exactChar? (c : Char) (cs : List Char) : Option (List Char) :=
  if cs.head? == some c then some cs.tail else none

/-- The place between a date and a time: a letter, or white space. -/
def dateTimeGap? (cs : List Char) : Option (List Char) :=
  match cs with
  | 'T' :: rest | 't' :: rest => some rest
  | c :: _ => if isSpaceOrTab c then some (cs.dropWhile isSpaceOrTab) else none
  | [] => none

/-- A time zone, white space in front of it included, at the end of a text. -/
def isZoneForm (cs : List Char) : Bool :=
  match cs.dropWhile isSpaceOrTab with
  | ['Z'] => true
  | c :: rest =>
    (c == '+' || c == '-') && match someDigits? rest with
      | some [] => true
      | some (':' :: rest) => exactDigits? 2 rest == some []
      | _ => false
  | [] => false

/-- A time of day at the end of a text. -/
def isTimeForm (cs : List Char) : Bool :=
  let rest? := do
    let rest ← exactChar? ':' (← someDigits? cs)
    let rest ← exactChar? ':' (← exactDigits? 2 rest)
    exactDigits? 2 rest
  match rest? with
  | none => false
  | some rest =>
    let rest := match rest with
      | '.' :: rest => rest.dropWhile isDigit
      | _ => rest
    rest.isEmpty || isZoneForm rest

/-- A date in two-digit months and days, or a date and a time. -/
def isTimestampForm (cs : List Char) : Bool :=
  let dayOnly := do
    let rest ← exactChar? '-' (← exactDigits? 4 cs)
    let rest ← exactChar? '-' (← exactDigits? 2 rest)
    exactDigits? 2 rest
  let withTime := do
    let rest ← exactChar? '-' (← exactDigits? 4 cs)
    let rest ← exactChar? '-' (← someDigits? rest)
    dateTimeGap? (← someDigits? rest)
  dayOnly == some [] || withTime.any isTimeForm

/-- The words for no value, the empty one included. -/
def isNullForm (cs : List Char) : Bool :=
  ["", "~", "null", "Null", "NULL"].contains (String.ofList cs)

/-! ### Choice -/

/-- Whether a character may begin a scalar of a type. -/
def mayBegin (old : Bool) (first : Option Char) (type : ScalarType) : Bool :=
  let among (s : String) : Bool := first.any s.toList.contains
  match type with
  | .bool => if old then among "yYnNtTfFoO" else among "tTfF"
  | .float => among "-+0123456789."
  | .int => among "-+0123456789"
  | .merge => among "<"
  | .null => first.isNone || among "~nN"
  | .timestamp => among "0123456789"
  | .value => among "="
  | .yaml => among "!&*"
  | .text => false

/-- Whether a text has the form of a type. -/
def hasForm (old : Bool) (cs : List Char) : ScalarType → Bool
  | .bool => isBoolForm old cs
  | .float => isFloatForm old cs
  | .int => isIntForm old cs
  | .merge => cs == ['<', '<']
  | .null => isNullForm cs
  | .timestamp => isTimestampForm cs
  | .value => cs == ['=']
  | .yaml => cs == ['!'] || cs == ['&'] || cs == ['*']
  | .text => false

/-- The types in the order in which they are tried. -/
def scalarTypes : List ScalarType :=
  [.bool, .float, .int, .merge, .null, .timestamp, .value, .yaml]

/-- A text without a line feed at its end. -/
def withoutFinalFeed (cs : List Char) : List Char :=
  if cs.getLast? == some '\n' then cs.dropLast else cs

/-- The type of a scalar without a tag. -/
def ScalarType.infer (old : Bool) (value : String) : ScalarType :=
  let cs := value.toList
  let form := withoutFinalFeed cs
  match scalarTypes.find? fun t => mayBegin old cs.head? t && hasForm old form t with
  | some t => t
  | none => .text

end YamlAudit.Yaml
