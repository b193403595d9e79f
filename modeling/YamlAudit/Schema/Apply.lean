import YamlAudit.Schema.Metaschema
import YamlAudit.Schema.Rules.Logic
import YamlAudit.Schema.Rules.Unevaluated

/-!
# Schema — Apply

Values held against whole schemas.  The keywords of a schema are taken in the order in which they
stand there (`applySchema`).  `Schema.verdict` holds data against a schema, `Schema.firstFlaw` holds a
schema against the schema of schemas of its draft.
-/

namespace YamlAudit

/-- What a keyword that asks for `rule` has to say. -/
def Site.judge (a : Applier) (s : Site) (rule : Rule) : Verdict :=
  match rule with
  | .reference | .dynamicReference => Rules.reference a s
  | .recursiveReference => Rules.recursiveReference a s
  | .additionalItems => Rules.additionalItems a s
  | .additionalProperties => Rules.additionalProperties a s
  | .allOf => Rules.allOf a s
  | .anyOf => Rules.anyOf a s
  | .oneOf => Rules.oneOf a s
  | .not => Rules.not a s
  | .const => Rules.const s
  | .contains => Rules.contains a s
  | .containsCounted => Rules.containsCounted a s
  | .dependentRequired => Rules.dependentRequired s
  | .dependentSchemas => Rules.dependentSchemas a s
  | .dependencies => Rules.dependencies a s
  | .looseDependencies => Rules.looseDependencies a s
  | .disallow => Rules.disallow a s
  | .enum => Rules.enum s
  | .exclusiveMaximum => Rules.exclusiveMaximum s
  | .exclusiveMinimum => Rules.exclusiveMinimum s
  | .extends => Rules.extending a s
  | .format => Rules.format s
  | .condition => Rules.condition a s
  | .items => Rules.items a s
  | .itemsByPosition => Rules.itemsByPosition a s
  | .maxItems => Rules.maxItems s
  | .maxLength => Rules.maxLength s
  | .maxProperties => Rules.maxProperties s
  | .maximum => Rules.maximum s
  | .maximumOrBelow => Rules.maximumOrBelow s
  | .minItems => Rules.minItems s
  | .minLength => Rules.minLength s
  | .minProperties => Rules.minProperties s
  | .minimum => Rules.minimum s
  | .minimumOrAbove => Rules.minimumOrAbove s
  | .multipleOf => Rules.multipleOf s
  | .pattern => Rules.pattern s
  | .patternProperties => Rules.patternProperties a s
  | .leadingItems => Rules.leadingItems a s
  | .properties => Rules.properties a s
  | .propertiesOrRequired => Rules.propertiesOrRequired a s
  | .propertyNames => Rules.propertyNames a s
  | .required => Rules.required s
  | .type => Rules.type s
  | .typeOrSchema => Rules.typeOrSchema a s
  | .unevaluatedItems => Rules.unevaluatedItems a s
  | .unevaluatedProperties => Rules.unevaluatedProperties a s
  | .uniqueItems => Rules.uniqueItems s

/-- The words of a schema that count; beside a reference there may be none. -/
def Draft.wordsOf (d : Draft) (schema : Datum) : Except SchemaFault (List (Value × Value)) := do
  if d.referencesHide then
    match ← Draft.said? schema "$ref" with
    | none => schema.entries
    | some target => return [(.text "$ref", target.value)]
  else schema.entries

/-- Applies the keywords of a schema, with schemas within schemas down to a depth. -/
def applySchema (registry : Registry) (data : Store) (formats : Bool) : Nat → Applier
  | 0 => fun _ _ _ _ => .stop .endless
  | depth + 1 => fun scope listing schema subject =>
    .onOk (listing.wordsOf (registry.datum schema)) fun words =>
      .each (fun p => match p.1, scope.draft.rule? p.1 with
        | .text word, some rule =>
          let site : Site := ⟨registry, data, formats, scope, schema, word, p.2, subject⟩
          site.judge (applySchema registry data formats depth) rule
        | _, _ => .clean) words

namespace Schema

/-- How deep schemas are followed into one another. -/
def depth : Nat := 2000

/-- The verdict on a value by a schema of a registry, which is a document with the name `base`. -/
def verdict (registry : Registry) (draft : Draft) (base : String) (schema : Value) (data : Datum)
    (formats : Bool) : Verdict :=
  let scope : Scope := ⟨draft, base, [], false⟩
  let site : Site := ⟨registry, data.store, formats, scope, schema, "", .null, data.value⟩
  match schema with
  | .bool true => .clean
  | .bool false => site.forbidden data.value
  | _ => applySchema registry data.store formats depth scope draft schema data.value

/-- The draft of a schema; the latest, unless it names another. -/
def draftOf (schema : Datum) : Except SchemaFault Draft := Draft.latest.within schema

/-- The first thing that is wrong with a schema of a draft. -/
def firstFlaw (draft : Draft) (schema : Datum) : Except SchemaFault (Option Violation) :=
  let registry := Metaschema.registry
  match registry.known.resources.lookup draft.uri with
  | none => .ok none
  | some resource =>
    let v := verdict registry resource.draft draft.uri resource.content schema true
    match v.violations, v.fault with
    | first :: _, _ => .ok (some first)
    | [], some f => .error f
    | [], none => .ok none

/-- A schema among the schemas it can refer to. -/
structure Registered where
  registry : Registry
  draft : Draft
  /-- The name of the schema. -/
  name : String
  schema : Value

/-- The schema of a draft among the schemas it can refer to. -/
def registered (draft : Draft) (schema : Datum) : Except SchemaFault Registered := do
  let name := (← draft.nameOf schema).getD ""
  let (content, registry) := Metaschema.registry.absorb schema
  return ⟨registry.add name draft content, draft, name, content⟩

/-- The verdict on a value by a schema that has been registered. -/
def Registered.verdict (r : Registered) (data : Datum) : Verdict :=
  Schema.verdict r.registry r.draft r.name r.schema data false

end Schema

end YamlAudit
