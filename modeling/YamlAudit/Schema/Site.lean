import YamlAudit.Pattern.Search
import YamlAudit.Schema.Registry
import YamlAudit.Schema.Verdict

/-!
# Schema — Site

A keyword at work: what it says, the schema it stands in, where that is applied, and the value that
is held against it.  Keywords with further schemas apply them through an `Applier`, to the same value
or to its parts (`Site.descend`), or ask whether a value is valid under them (`Site.accepts`).
-/

namespace YamlAudit

/-- A keyword and the value held against it. -/
structure Site where
  registry : Registry
  /-- The containers of the value. -/
  data : Store
  /-- Whether texts are held against the formats they are said to have. -/
  formats : Bool
  scope : Scope
  /-- The schema the keyword stands in. -/
  schema : Value
  word : String
  /-- What the keyword says. -/
  rule : Value
  /-- The value. -/
  subject : Value
  deriving Inhabited

/-- Applies a schema in a scope to a value; its keywords are listed as in another draft. -/
abbrev Applier := Scope → Draft → Value → Value → Verdict

namespace Site

/-- A part of the schemas as a datum. -/
def ruleDatum (s : Site) (v : Value) : Datum := s.registry.datum v

/-- A part of the data as a datum. -/
def dataDatum (s : Site) (v : Value) : Datum := ⟨s.data, v⟩

/-- What the keyword says, as a datum. -/
def asked (s : Site) : Datum := s.ruleDatum s.rule

/-- The value, as a datum. -/
def given (s : Site) : Datum := s.dataDatum s.subject

/-- What the schema says under another word. -/
def beside? (s : Site) (word : String) : Option Datum := (s.ruleDatum s.schema).member? word

/-! ### Violations -/

/-- The value is not as the keyword asks, for another keyword's sake. -/
def violationOf (s : Site) (word : String) (rule : Value) (message : Except SchemaFault String) :
    Verdict :=
  .onOk message fun message => ⟨[⟨message, [], some word, rule, s.subject, s.schema⟩], none⟩

/-- The value is not as the keyword asks. -/
def violation (s : Site) (message : Except SchemaFault String) : Verdict :=
  s.violationOf s.word s.rule message

/-- A violation if something does not hold. -/
def demand (s : Site) (holds : Bool) (message : Unit → Except SchemaFault String) : Verdict :=
  if holds then .clean else s.violation (message ())

/-- The literal of the value and a remark on it. -/
def remark (s : Site) (text : String) : Except SchemaFault String := do
  return (← s.given.said) ++ text

/-- The literal of the value, a remark on it, and the literals of parts of the schemas. -/
def remarkOn (s : Site) (text : String) (values : List Value) : Except SchemaFault String := do
  return (← s.given.said) ++ text ++ (← saidAll s.registry.store values)

/-- A schema that allows nothing. -/
def forbidden (s : Site) (subject : Value) : Verdict :=
  .onOk (s.dataDatum subject).said fun literal =>
    ⟨[⟨"False schema does not allow " ++ literal, [], none, .null, subject, .bool false⟩], none⟩

/-! ### Parts of the value -/

/-- The items, if the value is a list. -/
def items? (s : Site) : Option (List Value) := s.given.items?

/-- The entries, if the value is a mapping. -/
def entries? (s : Site) : Option (List (Value × Value)) := s.given.entries?

/-- Whether the value is of a type. -/
def isA (s : Site) (type : String) : Bool := (s.scope.draft.hasType? s.given type).getD false

/-- Whether a part of the schemas is a mapping. -/
def isSchemaMapping (s : Site) (v : Value) : Bool := (s.ruleDatum v).isMapping

/-- The step to a part of the data. -/
def segment (s : Site) (key : Value) : Segment :=
  match key with
  | .text t => .key t
  | .int n => .index n
  | _ => .key (s.dataDatum key).text

/-! ### Patterns -/

/-- The pattern a part of the schemas stands for. -/
def pattern (d : Datum) : Except SchemaFault PatternSearch := do
  match ← d.asKey with
  | .text source =>
    match PatternSearch.ofText source with
    | .ok p => return p
    | .error flaw => throw (.badPattern flaw source)
  | .bytes _ => throw .patternBytes
  | _ => throw .patternKind

/-- Whether a pattern is found in a key. -/
def foundInKey (p : PatternSearch) (key : Value) : Bool :=
  match key with
  | .text t => p.foundIn t
  | _ => false

/-! ### Schemas within the schema -/

/-- Applies a schema in a scope. -/
def applyHere (a : Applier) (s : Site) (scope : Scope) (listing : Draft) (schema subject : Value) :
    Verdict :=
  match schema with
  | .bool true => .clean
  | .bool false => s.forbidden subject
  | _ => .onOk (scope.draft.within (s.ruleDatum schema)) fun draft =>
    a { scope with draft } listing schema subject

/-- Applies a schema within the schema to a value.  A schema that allows nothing does not say where
the value lies. -/
def descend (a : Applier) (s : Site) (schema subject : Value) (segment : Option Segment) : Verdict :=
  match schema with
  | .bool true => .clean
  | .bool false => s.forbidden subject
  | _ => .onOk (s.scope.enter s.scope.draft (s.ruleDatum schema)) fun scope =>
    let v := s.applyHere a scope s.scope.draft schema subject
    match segment with
    | some step => v.under step
    | none => v

/-- Whether a value is valid under a schema that is applied where the keyword stands. -/
def accepts (a : Applier) (s : Site) (schema subject : Value) : Except SchemaFault Bool := do
  let draft ← s.scope.draft.within (s.ruleDatum schema)
  (s.applyHere a s.scope draft schema subject).valid

end Site

end YamlAudit
