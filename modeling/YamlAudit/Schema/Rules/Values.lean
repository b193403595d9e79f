import YamlAudit.Schema.Site

/-!
# Schema.Rules — Values

Keywords about a single value: its type, the values it may have, the size of a number, the length and
the form of a text.
-/

namespace YamlAudit.Rules

/-! ### Types -/

/-- The types a keyword names, a single one or several. -/
def namedTypes (s : Site) : Except SchemaFault (List Value) :=
  match s.rule with
  | .text _ => .ok [s.rule]
  | _ => s.asked.parts

/-- Whether the value is of a type that is named in a schema. -/
def isOfType (s : Site) (schema : Datum) (type : Value) : Except SchemaFault Bool := do
  let known := match ← (schema.sibling type).asKey with
    | .text name => s.scope.draft.hasType? s.given name
    | _ => none
  match known with
  | some b => return b
  | none =>
    throw (.unknownType (schema.sibling type).literal schema.layout s.given.layout)

/-- Whether a condition holds of some item; the items after it are not looked at. -/
def anyOk {α : Type} (holds : α → Except SchemaFault Bool) : List α → Except SchemaFault Bool
  | [] => .ok false
  | a :: rest => do if ← holds a then return true else anyOk holds rest

/-- The value is of one of some types. -/
def type (s : Site) : Verdict :=
  .onOk (namedTypes s) fun types =>
    .onOk (anyOk (isOfType s (s.ruleDatum s.schema)) types) fun holds =>
      s.demand holds fun _ => s.remarkOn " is not of type " types

/-- The literal of a type or of the name of a schema among types. -/
def typeLiteral (schema : Datum) (type : Value) : Except SchemaFault String :=
  let d := schema.sibling type
  match (d.member? "name").map Datum.said with
  | some (.ok name) => .ok name
  | _ => d.said

/-- The value is of one of the types named in a schema or valid under one of the schemas among
them. -/
def typesOrSchemas (a : Applier) (s : Site) (schema : Datum) (types : List Value) : Verdict :=
  let holds (type : Value) : Except SchemaFault Bool :=
    match type with
    | .text "any" => .ok true
    | _ =>
      if s.isSchemaMapping type then do
        return (← (s.descend a type s.subject none).complete).isEmpty
      else isOfType s schema type
  .onOk (anyOk holds types) fun holds => s.demand holds fun _ => do
    return (← s.given.said) ++ " is not of type " ++ listed (← types.mapM (typeLiteral schema))

/-- The value is of one of some types or valid under one of the schemas among them. -/
def typeOrSchema (a : Applier) (s : Site) : Verdict :=
  .onOk (namedTypes s) (typesOrSchemas a s (s.ruleDatum s.schema))

/-! ### Given values -/

/-- Whether a value of the schema is alike the value. -/
def isAlike (s : Site) (v : Value) : Bool := alikeAcross s.registry.store s.data v s.subject

/-- The value is a given one. -/
def const (s : Site) : Verdict :=
  s.demand (isAlike s s.rule) fun _ => do return (← s.asked.said) ++ " was expected"

/-- The value is one of some given ones. -/
def enum (s : Site) : Verdict :=
  .onOk s.asked.parts fun values =>
    s.demand (values.any (isAlike s)) fun _ => s.remarkOn " is not one of " [s.rule]

/-! ### Numbers -/

/-- A number does not lie beyond a limit. -/
def limit (s : Site) (beyond : Relation) (relation side : String) : Verdict :=
  if !s.isA "number" then .clean
  else .onOk (s.given.compares beyond s.asked) fun crossed =>
    s.demand (!crossed) fun _ =>
      s.remarkOn (" is " ++ relation ++ " the " ++ side ++ " of ") [s.rule]

/-- A number is not below a limit. -/
def minimum (s : Site) : Verdict := limit s .less "less than" "minimum"

/-- A number is not above a limit. -/
def maximum (s : Site) : Verdict := limit s .greater "greater than" "maximum"

/-- A number is above a limit. -/
def exclusiveMinimum (s : Site) : Verdict := limit s .atMost "less than or equal to" "minimum"

/-- A number is below a limit. -/
def exclusiveMaximum (s : Site) : Verdict := limit s .atLeast "greater than or equal to" "maximum"

/-- Whether another keyword of the schema is switched on. -/
def switchedOn (s : Site) (word : String) : Bool :=
  ((s.beside? word).map Datum.isTruthy).getD false

/-- A number is not below a limit that another keyword may exclude. -/
def minimumOrAbove (s : Site) : Verdict :=
  if switchedOn s "exclusiveMinimum" then exclusiveMinimum s else minimum s

/-- A number is not above a limit that another keyword may exclude. -/
def maximumOrBelow (s : Site) : Verdict :=
  if switchedOn s "exclusiveMaximum" then exclusiveMaximum s else maximum s

/-- A number is a multiple of another. -/
def multipleOf (s : Site) : Verdict :=
  if !s.isA "number" then .clean
  else .onOk (s.given.isMultiple s.asked) fun holds =>
    s.demand holds fun _ => s.remarkOn " is not a multiple of " [s.rule]

/-! ### Sizes and texts -/

/-- A size as a datum. -/
def sizeDatum (s : Site) (size : Nat) : Datum := s.dataDatum (.int size)

/-- A size is not below a limit. -/
def least (s : Site) (size : Nat) (otherwise : String) : Verdict :=
  .onOk ((sizeDatum s size).compares .less s.asked) fun below =>
    s.demand (!below) fun _ =>
      s.remark (if s.rule.sameNumber (.int 1) then " should be non-empty" else otherwise)

/-- A size is not above a limit. -/
def most (s : Site) (size : Nat) (otherwise : String) : Verdict :=
  .onOk ((sizeDatum s size).compares .greater s.asked) fun above =>
    s.demand (!above) fun _ =>
      s.remark (if s.rule.sameNumber (.int 0) then " is expected to be empty" else otherwise)

/-- The number of characters, if the value is a text. -/
def textLength? (s : Site) : Option Nat :=
  match s.subject with
  | .text t => some t.length
  | _ => none

/-- A text is not too short. -/
def minLength (s : Site) : Verdict :=
  match textLength? s with
  | some n => least s n " is too short"
  | none => .clean

/-- A text is not too long. -/
def maxLength (s : Site) : Verdict :=
  match textLength? s with
  | some n => most s n " is too long"
  | none => .clean

/-- A text has a stretch that a pattern matches. -/
def pattern (s : Site) : Verdict :=
  match s.subject with
  | .text t =>
    .onOk (Site.pattern s.asked) fun p =>
      s.demand (p.foundIn t) fun _ => s.remarkOn " does not match " [s.rule]
  | _ => .clean

/-- A text has a format.  The only one that is looked at is that of patterns. -/
def format (s : Site) : Verdict :=
  match s.formats, s.rule, s.subject with
  | true, .text "regex", .text t =>
    match PatternSearch.ofText t with
    | .ok _ => .clean
    | .error flaw =>
      if flaw.cause.isReported then s.violation (s.remark " is not a 'regex'")
      else .stop (.badPattern flaw t)
  | _, _, _ => .clean

end YamlAudit.Rules
