import YamlAudit.Pattern.Flaw
import YamlAudit.Schema.Uri.Host
import YamlAudit.Value.Compare

/-!
# Schema — Fault

What in a schema can keep it from being applied.  A schema that was looked through beforehand is in
order as far as its keywords are known; but schemas that only references lead to were not, and neither
were names and patterns, so that a keyword can meet a value of any kind there.
-/

namespace YamlAudit

/-- Why a reference leads nowhere. -/
inductive Unresolved where
  /-- No such place in a document. -/
  | nowhere (pointer document : String)
  | noAnchor (name document : String)
  /-- A fragment that is neither an anchor nor a pointer. -/
  | badAnchor (name : String)
  /-- No document of that name. -/
  | noDocument (reference : String)
  /-- A document on the way that was never found. -/
  | lostDocument (name : String)
  deriving DecidableEq, Repr

namespace Unresolved

/-- The kind of a reference that leads nowhere. -/
def label : Unresolved → String
  | nowhere _ _ => "PointerToNowhere"
  | noAnchor _ _ => "NoSuchAnchor"
  | badAnchor _ => "InvalidAnchor"
  | noDocument _ => "Unresolvable"
  | lostDocument _ => "NoSuchResource"

/-- The wording of a reference that leads nowhere. -/
def message : Unresolved → String
  | nowhere pointer document =>
    quoted pointer ++ " does not exist within " ++ document
      ++ (if pointer = "/" then
        ". The pointer '/' is a valid JSON Pointer but it points to an empty string property ''. "
          ++ "If you intended to point to the entire resource, you should use '#'."
        else "")
  | noAnchor name document => quoted name ++ " does not exist within " ++ document
  | badAnchor name =>
    "'#" ++ name ++ "' is not a valid anchor, neither as a plain name anchor nor as a JSON Pointer. "
      ++ "You may have intended to use '#/" ++ name
      ++ "', as the slash is required *before each segment* of a JSON pointer."
  | noDocument reference => reference
  | lostDocument name => quoted name

end Unresolved

/-- How a number is held against a limit. -/
inductive Relation where
  | less
  | greater
  | atMost
  | atLeast
  deriving DecidableEq, Repr

namespace Relation

/-- The sign of a relation. -/
def sign : Relation → String
  | less => "<"
  | greater => ">"
  | atMost => "<="
  | atLeast => ">="

/-- Whether a relation holds of two numbers with an order. -/
def holdsFor : Relation → Ordering → Bool
  | less, o => o == .lt
  | greater, o => o == .gt
  | atMost, o => o != .gt
  | atLeast, o => o != .lt

end Relation

/-- What keeps a schema from being applied.  A `kind` is the name of the kind of a value. -/
inductive SchemaFault where
  /-- A reference that leads nowhere, met while it is applied or while it is only looked at. -/
  | reference (u : Unresolved) (applied : Bool)
  /-- A name that is none. -/
  | name (u : UriFault)
  /-- A name in bytes, the first of which that is not ASCII stands at a position. -/
  | nameBytes (byte : UInt8) (position : Nat)
  /-- A step into a list that is no position. -/
  | position (step : String) (fault : NumeralFault)
  /-- A step into a value that has no parts. -/
  | noParts (kind : String)
  /-- A step by name into something with positions. -/
  | positionNeeded (kind : String)
  /-- A value without what is asked of it. -/
  | lacks (kind word : String)
  /-- A value in which nothing can be found. -/
  | notSearchable (kind : String)
  /-- Something other than a text looked for in a text. -/
  | notInText (kind : String)
  /-- A text held against bytes, in general and at their beginning. -/
  | needsBytes
  | needsBytesInFront
  /-- A value that cannot be a key. -/
  | unhashable (kind : String)
  /-- Patterns that are not several values. -/
  | notJoinable
  /-- Patterns among which one is no text. -/
  | patternAmong (position : Nat) (kind : String)
  /-- A pattern that is no text, or one of bytes. -/
  | patternKind
  | patternBytes
  | badPattern (flaw : Flaw) (source : String)
  /-- Values without an order. -/
  | unordered (relation : Relation) (left right : String)
  /-- Values that cannot be divided by one another. -/
  | undivided (left right : String)
  | quotient (q : QuotientFault)
  | unknownType (type schema value : String)
  /-- A list was needed for its length. -/
  | noLength (kind : String)
  /-- A list was needed for its items. -/
  | noItems (kind : String)
  /-- A message would have an integer with too many digits in it. -/
  | overlong (e : TooManyDigits)
  /-- Schemas that go round in circles. -/
  | endless
  deriving DecidableEq, Repr

/-- The wording of a fault. -/
def SchemaFault.message : SchemaFault → String
  | reference u applied => if applied then u.label ++ ": " ++ u.message else u.message
  | name u => u.message
  | nameBytes byte place =>
    "'ascii' codec can't decode byte 0x" ++ String.ofList (hexDigits 2 byte.toNat) ++ " in position "
      ++ toString place ++ ": ordinal not in range(128)"
  | position step fault => fault.message 10 step.toList
  | noParts kind => "'" ++ kind ++ "' object is not subscriptable"
  | positionNeeded "str" => "string indices must be integers, not 'str'"
  | positionNeeded kind => kind ++ " indices must be integers or slices, not str"
  | lacks kind word => "'" ++ kind ++ "' object has no attribute '" ++ word ++ "'"
  | notSearchable kind => "argument of type '" ++ kind ++ "' is not iterable"
  | notInText kind => "'in <string>' requires string as left operand, not " ++ kind
  | needsBytes => "a bytes-like object is required, not 'str'"
  | needsBytesInFront => "startswith first arg must be bytes or a tuple of bytes, not str"
  | unhashable kind => "unhashable type: '" ++ kind ++ "'"
  | notJoinable => "can only join an iterable"
  | patternAmong place kind =>
    "sequence item " ++ toString place ++ ": expected str instance, " ++ kind ++ " found"
  | patternKind => "first argument must be string or compiled pattern"
  | patternBytes => "cannot use a bytes pattern on a string-like object"
  | badPattern flaw source => flaw.message source
  | unordered relation left right =>
    "'" ++ relation.sign ++ "' not supported between instances of '" ++ left ++ "' and '" ++ right
      ++ "'"
  | undivided left right =>
    "unsupported operand type(s) for %: '" ++ left ++ "' and '" ++ right ++ "'"
  | quotient q => q.message
  | unknownType type schema value =>
    let indented (s : String) : String := s.replace "\n" "\n    "
    "Unknown type " ++ type ++ " for validator with schema:\n    " ++ indented schema
      ++ "\n\nWhile checking instance:\n    " ++ indented value
  | noLength kind => "object of type '" ++ kind ++ "' has no len()"
  | noItems kind => "'" ++ kind ++ "' object is not iterable"
  | overlong e => e.message
  | endless => "maximum recursion depth exceeded"

end YamlAudit
