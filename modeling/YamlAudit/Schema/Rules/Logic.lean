import YamlAudit.Schema.Rules.Values

/-!
# Schema.Rules — Logic

Keywords that combine schemas, and references to schemas elsewhere.
-/

namespace YamlAudit.Rules

/-- Valid under all schemas of a list. -/
def allOf (a : Applier) (s : Site) : Verdict :=
  .onOk s.asked.parts fun schemas =>
    .each (fun schema => s.descend a schema s.subject none) schemas

/-- Whether the value is valid under a schema within the schema, all of it looked at. -/
def holdsUnder (a : Applier) (s : Site) (schema : Value) : Except SchemaFault Bool := do
  return (← (s.descend a schema s.subject none).complete).isEmpty

/-- A value that no schema of a list allows. -/
def underNone (s : Site) : Verdict :=
  s.violation (s.remark " is not valid under any of the given schemas")

/-- Valid under some schema of a list. -/
def anyOf (a : Applier) (s : Site) : Verdict :=
  .onOk s.asked.parts fun schemas =>
    .onOk (anyOk (holdsUnder a s) schemas) fun holds => if holds then .clean else underNone s

/-- The first schema of a list that the value is valid under, and those after it. -/
def firstHolding (a : Applier) (s : Site) :
    List Value → Except SchemaFault (Option (Value × List Value))
  | [] => .ok none
  | schema :: rest => do
    if ← holdsUnder a s schema then return some (schema, rest) else firstHolding a s rest

/-- The schemas of a list that a value is valid under. -/
def acceptedBy (a : Applier) (s : Site) : List Value → Except SchemaFault (List Value)
  | [] => .ok []
  | schema :: rest => do
    let holds ← s.accepts a schema s.subject
    let others ← acceptedBy a s rest
    return if holds then schema :: others else others

/-- Valid under exactly one schema of a list. -/
def oneOf (a : Applier) (s : Site) : Verdict :=
  .onOk s.asked.parts fun schemas =>
    .onOk (firstHolding a s schemas) fun
      | none => underNone s
      | some (first, rest) => .onOk (acceptedBy a s rest) fun more =>
        s.demand more.isEmpty fun _ => s.remarkOn " is valid under each of " (more ++ [first])

/-- Not valid under a schema. -/
def not (a : Applier) (s : Site) : Verdict :=
  .onOk (s.accepts a s.rule s.subject) fun holds =>
    s.demand (!holds) fun _ => s.remarkOn " should not be valid under " [s.rule]

/-- Valid under one schema or another, by whether it is valid under a third. -/
def condition (a : Applier) (s : Site) : Verdict :=
  .onOk (s.accepts a s.rule s.subject) fun holds =>
    match s.beside? (if holds then "then" else "else") with
    | some schema => s.descend a schema.value s.subject none
    | none => .clean

/-- Valid under a schema or under all schemas of a list. -/
def extending (a : Applier) (s : Site) : Verdict :=
  if s.asked.isMapping then s.descend a s.rule s.subject none else allOf a s

/-- A schema that asks for one type. -/
def schemaOfType (type : Datum) : Datum :=
  let (types, store) := type.store.add (.list [type.value])
  let (schema, store) := store.add (.mapping [(.text "type", types)])
  ⟨store, schema⟩

/-- Not of some types. -/
def disallow (a : Applier) (s : Site) : Verdict :=
  .onOk (namedTypes s) fun types =>
    .each (fun type =>
      let schema := schemaOfType (s.ruleDatum type)
      .onOk (typesOrSchemas a s schema [type]).valid fun holds =>
        s.demand (!holds) fun _ => do
          return (← (s.ruleDatum type).said) ++ " is disallowed for " ++ (← s.given.said)) types

/-- Valid under a schema that was found elsewhere. -/
def elsewhere (a : Applier) (s : Site) (found : Except SchemaFault (Value × Scope)) : Verdict :=
  .onOk found fun (schema, scope) =>
    s.applyHere a { scope with draft := s.scope.draft } s.scope.draft schema s.subject

/-- Valid under the schema that a reference leads to. -/
def reference (a : Applier) (s : Site) : Verdict :=
  elsewhere a s (s.scope.follow s.registry true s.rule)

/-- Valid under the whole schema, or the outermost that may take its place. -/
def recursiveReference (a : Applier) (s : Site) : Verdict :=
  elsewhere a s (s.scope.lookupRecursive s.registry false)

end YamlAudit.Rules
