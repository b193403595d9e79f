import YamlAudit.Schema.Rules.Arrays

/-!
# Schema.Rules — Objects

Keywords about mappings: which keys there have to be or may be, and what lies under them.
-/

namespace YamlAudit.Rules

/-- Whether a mapping has a key. -/
def hasKey (entries : List (Value × Value)) (key : Value) : Bool := (lookupKey key entries).isSome

/-- A mapping has enough members. -/
def minProperties (s : Site) : Verdict :=
  match s.entries? with
  | some es => least s es.length " does not have enough properties"
  | none => .clean

/-- A mapping does not have too many members. -/
def maxProperties (s : Site) : Verdict :=
  match s.entries? with
  | some es => most s es.length " has too many properties"
  | none => .clean

/-- A violation for each of some names that is no key. -/
def eachName (s : Site) (es : List (Value × Value)) (names : List Value)
    (message : Datum → Except SchemaFault String) : Verdict :=
  .each (fun name => .onOk (s.ruleDatum name).asKey fun key =>
    s.demand (hasKey es key) fun _ => message (s.ruleDatum key)) names

/-- A mapping has some keys; each that is missing is a violation. -/
def required (s : Site) : Verdict :=
  match s.entries? with
  | none => .clean
  | some es => .onOk s.asked.parts fun names =>
    eachName s es names fun name => do return (← name.said) ++ " is a required property"

/-- Members are valid under the schemas for their keys. -/
def properties (a : Applier) (s : Site) : Verdict :=
  match s.entries? with
  | none => .clean
  | some es => .onOk s.asked.entries fun schemas =>
    .each (fun p => match lookupKey p.1 es with
      | some v => s.descend a p.2 v (some (s.segment p.1))
      | none => .clean) schemas

/-- The same, where the schema for a key may itself ask for the key. -/
def propertiesOrRequired (a : Applier) (s : Site) : Verdict :=
  let missing (p : Value × Value) (wanted : Option Datum) : Verdict :=
    match wanted with
    | some wanted =>
      if !wanted.isTruthy then .clean
      else (s.violationOf "required" wanted.value do
        return (← (s.ruleDatum p.1).said) ++ " is a required property").under (s.segment p.1)
    | none => .clean
  match s.entries? with
  | none => .clean
  | some es => .onOk s.asked.entries fun schemas =>
    .each (fun p => match lookupKey p.1 es with
      | some v => s.descend a p.2 v (some (s.segment p.1))
      | none => .onOk ((s.ruleDatum p.2).under "required") (missing p)) schemas

/-- Members are valid under the schemas for the patterns found in their keys. -/
def patternProperties (a : Applier) (s : Site) : Verdict :=
  match s.entries? with
  | none => .clean
  | some es => .onOk s.asked.entries fun schemas =>
    .each (fun p =>
      if es.isEmpty then .clean
      else .onOk (Site.pattern (s.ruleDatum p.1)) fun pattern =>
        .each (fun e =>
          if Site.foundInKey pattern e.1 then s.descend a p.2 e.2 (some (s.segment e.1))
          else .clean) es) schemas

/-- Keys are valid under a schema. -/
def propertyNames (a : Applier) (s : Site) : Verdict :=
  match s.entries? with
  | none => .clean
  | some es => .each (fun e => s.descend a s.rule e.1 none) es

/-! ### Additional members -/

/-- The texts of patterns, unless one of them is no text. -/
def patternTexts (s : Site) : Nat → List Value → Except SchemaFault (List String)
  | _, [] => .ok []
  | n, .text t :: rest => (patternTexts s (n + 1) rest).map (t :: ·)
  | n, v :: _ => .error (.patternAmong n (s.ruleDatum v).kindName)

/-- The patterns beside a keyword as alternatives of one. -/
def joinedPatterns (s : Site) : Except SchemaFault String := do
  match s.beside? "patternProperties" with
  | none => return ""
  | some patterns => match patterns.parts with
    | .ok sources => return "|".intercalate (← patternTexts s 0 sources)
    | .error _ => throw .notJoinable

/-- Whether the schema speaks of a key by its name. -/
def isNamed (s : Site) (key : Value) : Except SchemaFault Bool :=
  match s.beside? "properties" with
  | none => .ok false
  | some named => named.finds key

/-- The members whose keys neither have a schema of their own nor one of the patterns in them. -/
def additionalMembers (s : Site) (es : List (Value × Value)) :
    Except SchemaFault (List (Value × Value)) := do
  let source ← joinedPatterns s
  es.filterM fun e => do
    if ← isNamed s e.1 then return false
    else if source = "" then return true
    else return !Site.foundInKey (← Site.pattern (s.ruleDatum (.text source))) e.1

/-- Literals in their order as texts. -/
def sortedLiterals (s : Store) (values : List Value) : Except SchemaFault String := do
  let literals ← values.mapM fun v => Datum.said ⟨s, v⟩
  return listed (literals.mergeSort fun x y => !textBefore y x)

/-- Members that no other keyword speaks of are valid under a schema. -/
def additionalProperties (a : Applier) (s : Site) : Verdict :=
  match s.entries? with
  | none => .clean
  | some es => .onOk (additionalMembers s es) fun extra =>
    let keys := extra.map Prod.fst
    if s.asked.isMapping then
      .each (fun e => s.descend a s.rule e.2 (some (s.segment e.1))) extra
    else if s.asked.isTruthy || extra.isEmpty then .clean
    else
      match s.beside? "patternProperties" with
      | some patterns => s.violation do
        return (← sortedLiterals s.data keys) ++ (if keys.length = 1 then " does" else " do")
          ++ " not match any of the regexes: "
          ++ (← sortedLiterals s.registry.store (← patterns.parts))
      | none =>
        let sorted := keys.mergeSort fun x y => !textBefore (s.dataDatum y).text (s.dataDatum x).text
        s.violation do
          return "Additional properties are not allowed (" ++ (← extras s sorted) ++ " unexpected)"

/-! ### Members that depend on others -/

/-- The keys that a mapping has to have because it has another. -/
def dependsOn (s : Site) (es : List (Value × Value)) (key : Value) (names : List Value) : Verdict :=
  eachName s es names fun name => do
    return (← name.said) ++ " is a dependency of " ++ (← (s.ruleDatum key).said)

/-- For each key that a mapping has, what the rule says under that key. -/
def perKey (s : Site) (judge : List (Value × Value) → Value → Value → Verdict) : Verdict :=
  match s.entries? with
  | none => .clean
  | some es => .onOk s.asked.entries fun rules =>
    .each (fun p => if hasKey es p.1 then judge es p.1 p.2 else .clean) rules

/-- Mappings with a key have some other keys. -/
def dependentRequired (s : Site) : Verdict :=
  perKey s fun es key names => .onOk (s.ruleDatum names).parts (dependsOn s es key)

/-- Mappings with a key are valid under a schema. -/
def dependentSchemas (a : Applier) (s : Site) : Verdict :=
  perKey s fun _ _ schema => s.descend a schema s.subject none

/-- Mappings with a key have some other keys or are valid under a schema. -/
def dependencies (a : Applier) (s : Site) : Verdict :=
  perKey s fun es key dependency =>
    match (s.ruleDatum dependency).items? with
    | some names => dependsOn s es key names
    | none => s.descend a dependency s.subject none

/-- The same, where a single key may be named. -/
def looseDependencies (a : Applier) (s : Site) : Verdict :=
  perKey s fun es key dependency =>
    if s.isSchemaMapping dependency then s.descend a dependency s.subject none
    else match dependency with
      | .text _ => dependsOn s es key [dependency]
      | _ => .onOk (s.ruleDatum dependency).parts (dependsOn s es key)

end YamlAudit.Rules
