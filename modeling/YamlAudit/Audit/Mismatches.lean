import YamlAudit.Findings.Basic
import YamlAudit.Schema.Apply

/-!
# Audit — Mismatches

Violations of a structure as mismatches of a document.  Keys that a mapping has to have are reported
together: the first violation of a requirement stands for all of them and yields one mismatch for
each missing key, in the order in which the structure names them.  A mapping with keys it may not
have yields one mismatch for each of them.  Every other violation is a mismatch with its own wording.
-/

namespace YamlAudit

/-- A requirement of a structure: a schema, and the place of the mapping it asks for keys. -/
structure Requirement where
  path : List Segment
  schema : Value

/-- Whether two requirements are the same. -/
def Requirement.same (a b : Requirement) : Bool := a.path == b.path && a.schema.sameKey b.schema

namespace Violation

/-- How a violation is reported. -/
inductive Kind where
  | missingKeys
  | extraKeys
  | plain
  deriving DecidableEq, Repr

/-- The kind of a violation: only mappings have keys that are missing or that they may not have. -/
def kind (v : Violation) (data : Store) : Kind :=
  if (data.entries? v.subject).isNone then .plain
  else match v.keyword with
    | some "required" => .missingKeys
    | some "additionalProperties" => .extraKeys
    | _ => .plain

/-- The requirement that is violated. -/
def requirement (v : Violation) : Requirement := ⟨v.path, v.schema⟩

/-- A mismatch for each key that the offending mapping has to have and does not. -/
def missingKeys (v : Violation) (schemas data : Store) : Except SchemaFault (List Mismatch) := do
  let present := (data.entries? v.subject).getD []
  let names ← Datum.parts ⟨schemas, v.rule⟩
  let missing ← names.filterM fun name => do
    return !Rules.hasKey present (← Datum.asKey ⟨schemas, name⟩)
  missing.mapM fun name => do
    return ⟨"missing key '" ++ (← Datum.told ⟨schemas, name⟩) ++ "'", v.path, .valueEnd⟩

/-- Whether one of several patterns is found in a key. -/
def foundInAny (schemas : Store) (key : Value) : List Value → Except SchemaFault Bool
  | [] => .ok false
  | source :: rest => do
    if Site.foundInKey (← Site.pattern ⟨schemas, source⟩) key then return true
    else foundInAny schemas key rest

/-- The keys of the offending mapping that the schema speaks of neither by name nor by pattern. -/
def unknownKeys (v : Violation) (schemas data : Store) : Except SchemaFault (List Value) :=
  let schema : Datum := ⟨schemas, v.schema⟩
  (((data.entries? v.subject).getD []).map Prod.fst).filterM fun key => do
    let named ← match schema.member? "properties" with
      | some named => named.finds key
      | none => pure false
    if named then return false
    match schema.member? "patternProperties" with
    | some patterns => return !(← foundInAny schemas key (← patterns.parts))
    | none => return true

/-- The step to a key of the document. -/
def step (data : Store) : Value → Segment
  | .text t => .key t
  | key => .key (Datum.text ⟨data, key⟩)

/-- A mismatch for each key that the offending mapping may not have. -/
def extraKeys (v : Violation) (schemas data : Store) : Except SchemaFault (List Mismatch) := do
  let keys ← v.unknownKeys schemas data
  return keys.map fun key => ⟨"extra key", v.path ++ [step data key], .key⟩

/-- The violation in its own words. -/
def mismatch (v : Violation) : Mismatch := ⟨v.message, v.path, .valueStart⟩

end Violation

/-- The mismatches of violations in their order, where some requirements have been reported. -/
def mismatchesFrom (schemas data : Store) :
    List Requirement → List Violation → Except SchemaFault (List Mismatch)
  | _, [] => .ok []
  | reported, v :: rest =>
    match v.kind data with
    | .missingKeys =>
      if reported.any v.requirement.same then mismatchesFrom schemas data reported rest
      else do
        let here ← v.missingKeys schemas data
        return here ++ (← mismatchesFrom schemas data (v.requirement :: reported) rest)
    | .extraKeys => do
      let here ← v.extraKeys schemas data
      return here ++ (← mismatchesFrom schemas data reported rest)
    | .plain => do
      return v.mismatch :: (← mismatchesFrom schemas data reported rest)

/-- The mismatches of a verdict. -/
def Verdict.mismatches (v : Verdict) (schemas data : Store) : Except SchemaFault (List Mismatch) := do
  let found ← mismatchesFrom schemas data [] v.violations
  match v.fault with
  | some f => throw f
  | none => return found

/-- The mismatches between a document and a structure.  A structure that is no schema is itself the
only mismatch. -/
def mismatches (expected data : Datum) : Except SchemaFault (List Mismatch) := do
  let draft ← Schema.draftOf expected
  match ← Schema.firstFlaw draft expected with
  | some flaw => return [.ofDocument ("Invalid structure: " ++ flaw.message)]
  | none =>
    let schema ← Schema.registered draft expected
    (schema.verdict data).mismatches schema.registry.store data.store

end YamlAudit
