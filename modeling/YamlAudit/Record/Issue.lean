import YamlAudit.RangeMap.Basic

/-!
# Record — Issue

What can be wrong with exchanged data that is to be read as a record.  An `Issue` is a cause and the
path to the offending part; reading collects every issue of a value in the order of its fields
(`Checked.both`).
-/

namespace YamlAudit

/-- Why a piece of data cannot be read. -/
inductive IssueCause where
  | missing
  /-- A text that is not the decimal form of an integer. -/
  | integerText
  /-- An integer too large to be taken from a text or a floating point number. -/
  | integerSize
  /-- A floating point number with a fractional part where an integer is wanted. -/
  | fraction
  | notInteger
  | notString
  /-- A text with halves of surrogate pairs. -/
  | notUnicode
  | notList
  | notTuple
  /-- Something other than the fields of a record of that name. -/
  | notRecord (name : String)
  | unknownAspect
  /-- The fields are sound but do not fit together. -/
  | inconsistent (message : String)
  | frozen
  deriving DecidableEq, Repr, Inhabited

namespace IssueCause

/-- The short name of a cause. -/
def label : IssueCause → String
  | missing => "missing"
  | integerText => "int_parsing"
  | integerSize => "int_parsing_size"
  | fraction => "int_from_float"
  | notInteger => "int_type"
  | notString => "string_type"
  | notUnicode => "string_unicode"
  | notList => "list_type"
  | notTuple => "tuple_type"
  | notRecord _ => "model_type"
  | unknownAspect => "enum"
  | inconsistent _ => "value_error"
  | frozen => "frozen_instance"

/-- The wording of a cause. -/
def message : IssueCause → String
  | missing => "Field required"
  | integerText => "Input should be a valid integer, unable to parse string as an integer"
  | integerSize => "Unable to parse input string as an integer, exceeded maximum size"
  | fraction => "Input should be a valid integer, got a number with a fractional part"
  | notInteger => "Input should be a valid integer"
  | notString => "Input should be a valid string"
  | notUnicode => "Input should be a valid string, unable to parse raw data as a unicode string"
  | notList => "Input should be a valid list"
  | notTuple => "Input should be a valid tuple"
  | notRecord name => "Input should be a valid dictionary or instance of " ++ name
  | unknownAspect => "Input should be 'key', 'value-start', 'value-end' or 'meta'"
  | inconsistent text => "Value error, " ++ text
  | frozen => "Instance is frozen"

end IssueCause

/-- A cause and where in the data it lies. -/
structure Issue where
  path : List Segment
  cause : IssueCause
  deriving DecidableEq, Repr, Inhabited

/-- A value that was read, or all that is wrong with the data. -/
abbrev Checked (α : Type) := Except (List Issue) α

namespace Checked

/-- One issue at the data itself. -/
def issue {α : Type} (cause : IssueCause) : Checked α := .error [⟨[], cause⟩]

/-- The same result for data that lies one step further down. -/
def under {α : Type} (segment : Segment) : Checked α → Checked α
  | .ok a => .ok a
  | .error issues => .error (issues.map fun i => { i with path := segment :: i.path })

/-- Two results together; the issues of the first come first. -/
def both {α β : Type} : Checked α → Checked β → Checked (α × β)
  | .ok a, .ok b => .ok (a, b)
  | .ok _, .error ys => .error ys
  | .error xs, .ok _ => .error xs
  | .error xs, .error ys => .error (xs ++ ys)

/-- The results for the items of a list, from position `n` on. -/
def each {α β : Type} (read : α → Checked β) (n : Nat) : List α → Checked (List β)
  | [] => .ok []
  | a :: rest =>
    (both ((read a).under (.index n)) (each read (n + 1) rest)).map fun p => p.1 :: p.2

end Checked

end YamlAudit
