import YamlAudit.Schema.Operand
import YamlAudit.Schema.Uri

/-!
# Schema — Draft

The drafts of the schema language.  A draft decides which words of a schema are keywords and what
they mean (`Draft.rule?`), which types there are (`Draft.hasType?`), where in a schema there are
further schemas (`Draft.subschemas`), and how a schema is named (`Draft.nameOf`, `Draft.anchorsOf`).
-/

namespace YamlAudit

/-- A draft of the schema language. -/
inductive Draft where
  | draft3
  | draft4
  | draft6
  | draft7
  | draft201909
  | draft202012
  deriving DecidableEq, Repr, Inhabited

namespace Draft

/-- All drafts. -/
def all : List Draft := [draft3, draft4, draft6, draft7, draft201909, draft202012]

/-- The name of the schema of schemas of a draft. -/
def uri : Draft → String
  | draft3 => "http://json-schema.org/draft-03/schema"
  | draft4 => "http://json-schema.org/draft-04/schema"
  | draft6 => "http://json-schema.org/draft-06/schema"
  | draft7 => "http://json-schema.org/draft-07/schema"
  | draft201909 => "https://json-schema.org/draft/2019-09/schema"
  | draft202012 => "https://json-schema.org/draft/2020-12/schema"

/-- The draft for schemas that do not name one. -/
def latest : Draft := draft202012

/-- The draft with a name; the name may be spelled in any way. -/
def ofName? (name : String) : Except SchemaFault (Option Draft) := do
  let u ← (Uri.normal name).mapError .name
  return all.find? fun d => d.uri = u

/-- The draft with a name that is spelled as usual. -/
def ofUri? (name : String) : Option Draft := all.find? fun d => d.uri = Uri.trimmed name

/-- The draft that a value names, if there is one of that name; a value that counts as nothing names
none. -/
def named? (name : Datum) : Except SchemaFault (Option Draft) := do
  let key ← name.asKey
  match key with
  | .text t => ofName? t
  | .bytes bs => match bs.zipIdx.find? fun b => 0x80 ≤ b.1 with
    | some (byte, n) => throw (.nameBytes byte n)
    | none => return none
  | _ => if name.isTruthy then throw (.lacks name.kindName "decode") else return none

/-- A draft up to which a reference hides all else that stands beside it. -/
def referencesHide : Draft → Bool
  | draft3 | draft4 | draft6 | draft7 => true
  | draft201909 | draft202012 => false

end Draft

/-! ### Keywords -/

/-- What a keyword asks for. -/
inductive Rule where
  | reference
  | dynamicReference
  | recursiveReference
  /-- What lies behind the items that have a schema of their own. -/
  | additionalItems
  | additionalProperties
  | allOf
  | anyOf
  | oneOf
  | not
  | const
  /-- Some item is valid. -/
  | contains
  /-- As many items are valid as two other keywords say. -/
  | containsCounted
  | dependentRequired
  | dependentSchemas
  /-- Names or a schema for objects with a member. -/
  | dependencies
  /-- The same, where a single name may stand for itself. -/
  | looseDependencies
  | disallow
  | enum
  | exclusiveMaximum
  | exclusiveMinimum
  | extends
  | format
  | condition
  /-- A schema for all items behind the leading ones. -/
  | items
  /-- A schema for each item or one for all of them. -/
  | itemsByPosition
  | maxItems
  | maxLength
  | maxProperties
  | maximum
  /-- A maximum that another keyword may exclude. -/
  | maximumOrBelow
  | minItems
  | minLength
  | minProperties
  | minimum
  /-- A minimum that another keyword may exclude. -/
  | minimumOrAbove
  | multipleOf
  | pattern
  | patternProperties
  | leadingItems
  | properties
  /-- Schemas that may themselves ask for their member. -/
  | propertiesOrRequired
  | propertyNames
  | required
  | type
  /-- Types among which there may be schemas. -/
  | typeOrSchema
  | unevaluatedItems
  | unevaluatedProperties
  | uniqueItems
  deriving DecidableEq, Repr

namespace Draft

/-- The keywords with the same meaning in all drafts. -/
def commonRules : List (String × Rule) :=
  [("$ref", .reference), ("additionalProperties", .additionalProperties), ("enum", .enum),
    ("format", .format), ("maxItems", .maxItems), ("maxLength", .maxLength),
    ("minItems", .minItems), ("minLength", .minLength), ("pattern", .pattern),
    ("patternProperties", .patternProperties), ("uniqueItems", .uniqueItems)]

/-- The keywords that came with draft 4. -/
def rulesSince4 : List (String × Rule) :=
  commonRules ++ [("allOf", .allOf), ("anyOf", .anyOf), ("maxProperties", .maxProperties),
    ("minProperties", .minProperties), ("multipleOf", .multipleOf), ("not", .not),
    ("oneOf", .oneOf), ("properties", .properties), ("required", .required), ("type", .type)]

/-- The keywords that came with draft 6. -/
def rulesSince6 : List (String × Rule) :=
  rulesSince4 ++ [("const", .const), ("exclusiveMaximum", .exclusiveMaximum),
    ("exclusiveMinimum", .exclusiveMinimum), ("maximum", .maximum), ("minimum", .minimum),
    ("propertyNames", .propertyNames)]

/-- The keywords that came with draft 2019-09. -/
def rulesSince201909 : List (String × Rule) :=
  rulesSince6 ++ [("contains", .containsCounted), ("dependentRequired", .dependentRequired),
    ("dependentSchemas", .dependentSchemas), ("if", .condition),
    ("unevaluatedItems", .unevaluatedItems), ("unevaluatedProperties", .unevaluatedProperties)]

/-- The keywords of a draft. -/
def rules : Draft → List (String × Rule)
  | draft3 => commonRules ++ [("additionalItems", .additionalItems),
      ("dependencies", .looseDependencies), ("disallow", .disallow), ("divisibleBy", .multipleOf),
      ("extends", .extends), ("items", .itemsByPosition), ("maximum", .maximumOrBelow),
      ("minimum", .minimumOrAbove), ("properties", .propertiesOrRequired), ("type", .typeOrSchema)]
  | draft4 => rulesSince4 ++ [("additionalItems", .additionalItems), ("dependencies", .dependencies),
      ("items", .itemsByPosition), ("maximum", .maximumOrBelow), ("minimum", .minimumOrAbove)]
  | draft6 => rulesSince6 ++ [("additionalItems", .additionalItems), ("contains", .contains),
      ("dependencies", .dependencies), ("items", .itemsByPosition)]
  | draft7 => rulesSince6 ++ [("additionalItems", .additionalItems), ("contains", .contains),
      ("dependencies", .dependencies), ("if", .condition), ("items", .itemsByPosition)]
  | draft201909 => rulesSince201909 ++ [("$recursiveRef", .recursiveReference),
      ("additionalItems", .additionalItems), ("items", .itemsByPosition)]
  | draft202012 => rulesSince201909 ++ [("$dynamicRef", .dynamicReference), ("items", .items),
      ("prefixItems", .leadingItems)]

/-- What a word of a schema asks for, if it is a keyword. -/
def rule? (d : Draft) (word : Value) : Option Rule :=
  match word with
  | .text name => d.rules.lookup name
  | _ => none

/-! ### Types -/

/-- Whether a floating point number is a whole number. -/
def isWhole (x : Float) : Bool :=
  match floatValue x with
  | .finite q => q.ratio.isMultipleOf (.ofInt 1)
  | _ => false

/-- Whether a value is of a type, if there is such a type.  Up to draft 4 whole floating point
numbers are no integers. -/
def hasType? (d : Draft) (v : Datum) (type : String) : Option Bool :=
  match type with
  | "null" => some (match v.value with | .null => true | _ => false)
  | "boolean" => some (match v.value with | .bool _ => true | _ => false)
  | "integer" => some (match v.value with
      | .int _ => true
      | .float x => isWhole x && d ≠ draft3 && d ≠ draft4
      | _ => false)
  | "number" => some (match v.value with | .int _ | .float _ | .nan _ => true | _ => false)
  | "string" => some (match v.value with | .text _ => true | _ => false)
  | "array" => some v.items?.isSome
  | "object" => some v.entries?.isSome
  | "any" => if d = draft3 then some true else none
  | _ => none

/-! ### Schemas within schemas -/

/-- Keywords with a schema as their value. -/
def schemaWords : Draft → List String
  | draft3 => []
  | draft4 => ["not"]
  | draft6 => ["additionalItems", "additionalProperties", "contains", "not", "propertyNames"]
  | draft7 => ["additionalItems", "additionalProperties", "contains", "else", "if", "not",
      "propertyNames", "then"]
  | draft201909 => ["additionalItems", "additionalProperties", "contains", "contentSchema", "else",
      "if", "not", "propertyNames", "then", "unevaluatedItems", "unevaluatedProperties"]
  | draft202012 => ["additionalProperties", "contains", "contentSchema", "else", "if", "items",
      "not", "propertyNames", "then", "unevaluatedItems", "unevaluatedProperties"]

/-- Keywords with a list of schemas. -/
def listWords : Draft → List String
  | draft3 => ["extends"]
  | draft202012 => ["allOf", "anyOf", "oneOf", "prefixItems"]
  | _ => ["allOf", "anyOf", "oneOf"]

/-- Keywords with schemas under names. -/
def memberWords : Draft → List String
  | draft3 | draft4 | draft6 | draft7 => ["definitions", "patternProperties", "properties"]
  | draft201909 | draft202012 =>
    ["$defs", "definitions", "dependentSchemas", "patternProperties", "properties"]

/-- The schemas directly within a schema that is a mapping. -/
def subschemas (d : Draft) (schema : Datum) : Except SchemaFault (List Value) := do
  let member (word : String) : Option Datum := schema.member? word
  let values (v : Datum) : Except SchemaFault (List Value) :=
    (v.entriesBy "values").map fun es => es.map Prod.snd
  let under (words : List String) : List Datum := words.filterMap member
  let direct := (under d.schemaWords).map Datum.value
  let listed ← (under d.listWords).mapM Datum.parts
  let named ← (under d.memberWords).mapM values
  let items ← match member "items" with
    | some v =>
      if d = draft202012 || v.value matches .null then pure []
      else match v.value, v.sequence? with
        | .text _, _ | _, some _ => v.parts
        | _, none => pure [v.value]
    | none => pure []
  let dependencies ← match member "dependencies" with
    | some v =>
      if d = draft201909 || d = draft202012 || v.value matches .null then pure []
      else match ← values v with
        | first :: rest => pure (if (v.sibling first).isMapping then first :: rest else [])
        | [] => pure []
    | none => pure []
  let additional :=
    if d = draft3 || d = draft4 then
      ((under ["additionalItems", "additionalProperties"]).filter Datum.isMapping).map Datum.value
    else []
  return direct ++ listed.flatten ++ named.flatten ++ items ++ dependencies ++ additional

/-- Whether the steps from a schema lead to a schema, as far as the keywords on the way tell;
`mapping` says whether a mapping is there. -/
def leadsToSchema (d : Draft) (mapping : Bool) : List Value → Bool
  | [] => true
  | .text word :: rest =>
    if mapping && ((word = "items" && d ≠ draft202012)
        || (word = "dependencies" && d.referencesHide)) then true
    else if d.schemaWords.contains word
        || ((d = draft3 || d = draft4) && (word = "additionalItems" || word = "additionalProperties"))
      then leadsToSchema d mapping rest
    else if d.memberWords.contains word || d.listWords.contains word then
      match rest with
      | [] => false
      | _ :: rest => leadsToSchema d mapping rest
    else false
  | _ => false

/-! ### Names -/

/-- The word that gives a schema its name. -/
def nameWord : Draft → String
  | draft3 | draft4 => "id"
  | _ => "$id"

/-- Whether a schema is a boolean and may be one. -/
def isPlain (d : Draft) (schema : Datum) : Bool :=
  match schema.value with
  | .bool _ => d ≠ draft3 && d ≠ draft4
  | _ => false

/-- What stands under a word of a schema, if it is not null. -/
def said? (schema : Datum) (word : String) : Except SchemaFault (Option Datum) := do
  match ← schema.under word with
  | some v => return (if v.value matches .null then none else some v)
  | none => return none

/-- The name a schema gives itself.  Up to draft 7 a reference has none, and a bare fragment is an
anchor. -/
def nameOf (d : Draft) (schema : Datum) : Except SchemaFault (Option String) := do
  if d.isPlain schema then return none
  if d.referencesHide && (← schema.finds (.text "$ref")) then return none
  match ← said? schema d.nameWord with
  | none => return none
  | some name => match name.value with
    | .text t =>
      return (if d.referencesHide && t.toList.head? = some '#' then none else some (Uri.trimmed t))
    | .bytes _ => throw (if d.referencesHide then .needsBytesInFront else .needsBytes)
    | _ => throw (.lacks name.kindName (if d.referencesHide then "startswith" else "rstrip"))

/-- The anchor under a word of a schema; what is no text is the name of none. -/
def anchorUnder (schema : Datum) (word : String) : Except SchemaFault (Option String) := do
  match ← said? schema word with
  | none => return none
  | some name => match ← name.asKey with
    | .text t => return some t
    | _ => return none

/-- The anchors of a schema, and whether they are dynamic. -/
def anchorsOf (d : Draft) (schema : Datum) : Except SchemaFault (List (String × Bool)) := do
  if d.isPlain schema then return []
  if d.referencesHide then
    match ← schema.under d.nameWord with
    | none => return []
    | some name => match name.value with
      | .text t => match t.toList with
        | '#' :: rest => return [(String.ofList rest, false)]
        | _ => return []
      | .bytes _ => throw .needsBytesInFront
      | _ => throw (.lacks name.kindName "startswith")
  else
    let plain ← anchorUnder schema "$anchor"
    let dynamic ← if d = draft202012 then anchorUnder schema "$dynamicAnchor" else pure none
    return plain.toList.map (·, false) ++ dynamic.toList.map (·, true)

/-- The draft of a schema that is applied within one of draft `d`. -/
def within (d : Draft) (schema : Datum) : Except SchemaFault Draft := do
  if schema.value matches .bool _ then return d
  match ← schema.found? "$schema" with
  | some name => return (← named? name).getD d
  | none => return d

/-- The draft of a schema that is searched for names within one of draft `d`. -/
def searchedWithin (d : Draft) (schema : Datum) : Except SchemaFault Draft := do
  if !schema.isMapping then return d
  match ← said? schema "$schema" with
  | none => return d
  | some name => match name.value with
    | .text t => return (ofUri? t).getD d
    | .bytes _ => throw .needsBytes
    | _ => throw (.lacks name.kindName "rstrip")

end Draft

end YamlAudit
