import YamlAudit.Schema.Fault
import YamlAudit.Value.Layout

/-!
# Schema — Operand

What can be asked of a value of any kind: its entries, what stands under a word, what can be gone
through in it, its size, whether something is found in it, and how it compares.  Each question has an
answer for some kinds of values and is a fault for all others.
-/

namespace YamlAudit

/-- Whether some characters stand together in others. -/
def hasStretch (part : List Char) : List Char → Bool
  | [] => part.isEmpty
  | c :: rest => part.isPrefixOf (c :: rest) || hasStretch part rest

namespace Datum

/-- The name of the kind of a value. -/
def kindName (d : Datum) : String :=
  match d.value with
  | .null => "NoneType"
  | .bool _ => "bool"
  | .int _ => "int"
  | .float _ | .nan _ => "float"
  | .text _ => "str"
  | .bytes _ => "bytes"
  | .date _ => "datetime.date"
  | .moment _ => "datetime.datetime"
  | .tuple _ => "tuple"
  | .ref n => (d.store.get n).kind.name

/-- Whether a value is a mapping. -/
def isMapping (d : Datum) : Bool := d.entries?.isSome

/-- The items of a list, a tuple or bytes. -/
def sequence? (d : Datum) : Option (List Value) := d.store.sequence? d.value

/-- The entries of a mapping, asked for by a word. -/
def entriesBy (d : Datum) (word : String) : Except SchemaFault (List (Value × Value)) :=
  match d.entries? with
  | some es => .ok es
  | none => .error (.lacks d.kindName word)

/-- The entries of a mapping. -/
def entries (d : Datum) : Except SchemaFault (List (Value × Value)) := d.entriesBy "items"

/-- What stands under a word of a mapping. -/
def under (d : Datum) (word : String) : Except SchemaFault (Option Datum) :=
  (d.entriesBy "get").map fun es => (lookupKey (.text word) es).map d.sibling

/-- What can be gone through in a value: items, keys or characters. -/
def parts (d : Datum) : Except SchemaFault (List Value) :=
  match d.value with
  | .text t => .ok (t.toList.map fun c => .text (String.singleton c))
  | _ => match d.sequence? with
    | some items => .ok items
    | none => match d.container? with
      | some (.mapping es) | some (.ordered es) => .ok (es.map Prod.fst)
      | some (.set items) | some (.list items) => .ok items
      | none => .error (.noItems d.kindName)

/-- The number of parts of a value. -/
def size (d : Datum) : Except SchemaFault Nat :=
  match d.parts with
  | .ok parts => .ok parts.length
  | .error _ => .error (.noLength d.kindName)

/-- A value as a key. -/
def asKey (d : Datum) : Except SchemaFault Value :=
  match d.value.unhashable? d.store with
  | some kind => .error (.unhashable kind.name)
  | none => .ok d.value

/-- Whether a key is found in a value: among its keys or items, or a text in a text. -/
def finds (d : Datum) (key : Value) : Except SchemaFault Bool :=
  match d.value, key with
  | .text whole, .text part => .ok (hasStretch part.toList whole.toList)
  | .text _, _ => .error (.notInText (d.sibling key).kindName)
  | .bytes _, _ => .error .needsBytes
  | _, _ => match d.parts with
    | .ok parts => .ok (parts.any fun part => part.sameKey key)
    | .error _ => .error (.notSearchable d.kindName)

/-- What stands under a word, if the word is found in a value. -/
def found? (d : Datum) (word : String) : Except SchemaFault (Option Datum) := do
  if !(← d.finds (.text word)) then return none
  match d.entries? with
  | some es => return (lookupKey (.text word) es).map d.sibling
  | none => match d.container? with
    | some (.set _) => throw (.noParts d.kindName)
    | _ => throw (.positionNeeded d.kindName)

/-- Whether a value counts as true. -/
def isTruthy (d : Datum) : Bool :=
  match d.value with
  | .null => false
  | .bool b => b
  | .int n => n != 0
  | .float x => x != 0.0
  | _ => match d.parts with
    | .ok parts => !parts.isEmpty
    | .error _ => true

/-- Whether a number stands in a relation to a value. -/
def compares (d : Datum) (relation : Relation) (limit : Datum) : Except SchemaFault Bool :=
  if d.value.isNumber && limit.value.isNumber then
    .ok (((d.value.order? limit.value).map relation.holdsFor).getD false)
  else .error (.unordered relation d.kindName limit.kindName)

/-- Whether a number is a multiple of a value. -/
def isMultiple (d step : Datum) : Except SchemaFault Bool :=
  match step.value with
  | .float _ | .nan _ => (d.value.isMultipleOfFloat step.value).mapError .quotient
  | .int n => (d.value.isMultipleOfInt n).mapError .quotient
  | .bool b => (d.value.isMultipleOfInt (if b then 1 else 0)).mapError .quotient
  | _ => .error (.undivided d.kindName step.kindName)

/-- The literal of a value in a message. -/
def said (d : Datum) : Except SchemaFault String := d.literal?.mapError .overlong

/-- A value as plain text in a message. -/
def told (d : Datum) : Except SchemaFault String := d.text?.mapError .overlong

end Datum

/-- The literals of several values of a store, with commas between them. -/
def saidAll (s : Store) (values : List Value) : Except SchemaFault String := do
  return listed (← values.mapM fun v => Datum.said ⟨s, v⟩)

end YamlAudit
