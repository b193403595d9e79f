import YamlAudit.Schema.Rules.Objects

/-!
# Schema.Rules — Unevaluated

Keywords about the items and members that no other keyword of a schema has looked at.  Which those
are is found by going through the schema and the schemas within it that the value is valid under
(`evaluatedItems`, `evaluatedKeys`).  The draft that the search begins in decides which keywords count
and how.
-/

namespace YamlAudit.Rules

/-- The draft of a search. -/
inductive EvaluationDraft where
  | draft201909
  | later
  deriving DecidableEq, Repr

/-- The draft of the search that a keyword asks for. -/
def evaluationDraft (s : Site) : EvaluationDraft :=
  if s.scope.draft = .draft201909 then .draft201909 else .later

/-- The site of a schema that was found elsewhere. -/
def siteOf (s : Site) (found : Value × Scope) : Except SchemaFault Site := do
  let draft ← s.scope.draft.within (s.ruleDatum found.1)
  return { s with scope := { found.2 with draft } }

/-- What a search finds in the schemas that a schema refers to as a whole. -/
def foundElsewhere {α : Type} (old : EvaluationDraft) (s : Site) (schema : Datum)
    (search : Site → Value → Except SchemaFault (List α)) : Except SchemaFault (List α) := do
  let go (found : Except SchemaFault (Value × Scope)) : Except SchemaFault (List α) := do
    let found ← found
    search (← siteOf s found) found.1
  let follow (word : String) : Except SchemaFault (List α) := do
    match ← Draft.said? schema word with
    | some ref => go (s.scope.follow s.registry false ref.value)
    | none => return []
  let plain ← follow "$ref"
  let other ← match old with
    | .draft201909 => do
      if ← schema.finds (.text "$recursiveRef") then go (s.scope.lookupRecursive s.registry false)
      else pure []
    | .later => follow "$dynamicRef"
  return plain ++ other

/-- What a search finds in the schemas that a condition of a schema selects for the value. -/
def foundSelected {α : Type} (a : Applier) (s : Site) (schema : Datum)
    (search : Value → Except SchemaFault (List α)) : Except SchemaFault (List α) := do
  let go (word : String) : Except SchemaFault (List α) := do
    match ← schema.found? word with
    | some inner => search inner.value
    | none => return []
  match ← schema.found? "if" with
  | none => return []
  | some test =>
    if ← s.accepts a test.value s.subject then return (← search test.value) ++ (← go "then")
    else go "else"

/-- What a search finds in the schemas of the lists of a schema that the value is valid under. -/
def foundJoined {α : Type} (a : Applier) (s : Site) (schema : Datum)
    (search : Value → Except SchemaFault (List α)) : Except SchemaFault (List α) := do
  let lists ← ["allOf", "oneOf", "anyOf"].filterMapM schema.found?
  let each ← lists.mapM fun list => do
    let inner ← (← list.parts).mapM fun v => do
      if ← (s.descend a v s.subject none).valid then search v else return []
    return inner.flatten
  return each.flatten

/-! ### Items -/

/-- How many leading items a schema looks at; all of them, if there is no number. -/
def leadingCount (old : EvaluationDraft) (schema : Datum) : Except SchemaFault (Option Nat) := do
  match old with
  | .later => match ← schema.found? "prefixItems" with
    | some schemas => return some (← schemas.size)
    | none => return some 0
  | .draft201909 => match ← schema.found? "items" with
    | some items =>
      if (← schema.finds (.text "additionalItems")) || items.isMapping then return none
      else return some (← items.size)
    | none => return some 0

/-- The positions of the items a schema looks at. -/
def evaluatedItems (a : Applier) (old : EvaluationDraft) (items : List Value) :
    Nat → Site → Value → Except SchemaFault (List Nat)
  | 0, _, _ => .error .endless
  | _ + 1, _, .bool _ => .ok []
  | fuel + 1, s, schema => do
    let here := s.ruleDatum schema
    let everything := List.range items.length
    if old = .later then if ← here.finds (.text "items") then return everything
    let outside ← foundElsewhere old s here (evaluatedItems a old items fuel)
    match ← leadingCount old here with
    | none => return everything
    | some leading =>
      let selected ← foundSelected a s here (evaluatedItems a old items fuel s)
      let tests ← ["contains", "unevaluatedItems"].filterMapM here.found?
      let tested ← tests.mapM fun test => items.zipIdx.filterM fun p => s.accepts a test.value p.1
      let joined ← foundJoined a s here (evaluatedItems a old items fuel s)
      return outside ++ List.range leading ++ selected ++ tested.flatten.map Prod.snd ++ joined

/-! ### Members -/

/-- The keys that a schema of draft 2019-09 looks at by a keyword: all of them, if the keyword is
true, and those that the keyword has itself, if it is a mapping. -/
def keysAsIn (keys : List Value) (keyword : Datum) : List Value :=
  match keyword.value, keyword.entries? with
  | .bool true, _ => keys
  | _, some es => (es.map Prod.fst).filter fun key => keys.any key.sameKey
  | _, none => []

/-- The keys that a schema looks at by the names and the schemas for members. -/
def directKeys (a : Applier) (old : EvaluationDraft) (s : Site) (entries : List (Value × Value))
    (schema : Datum) : Except SchemaFault (List Value) := do
  let keys := entries.map Prod.fst
  match old with
  | .draft201909 =>
    let keywords ← ["properties", "additionalProperties", "unevaluatedProperties"].filterMapM
      schema.found?
    return keywords.flatMap (keysAsIn keys)
  | .later =>
    let known := match ← Draft.said? schema "properties" with
      | some named => keys.filter (hasKey (named.entries?.getD []))
      | none => []
    let tests ← ["additionalProperties", "unevaluatedProperties"].filterMapM (Draft.said? schema)
    let tested ← tests.mapM fun test =>
      entries.filterM fun e => (s.descend a test.value e.2 none).valid
    return known ++ tested.flatten.map Prod.fst

/-- The keys that a schema looks at by patterns. -/
def matchedKeys (s : Site) (keys : List Value) (schema : Datum) :
    Except SchemaFault (List Value) := do
  match ← schema.found? "patternProperties" with
  | none => return []
  | some patterns =>
    if keys.isEmpty then return []
    let found ← (← patterns.parts).mapM fun source => do
      let pattern ← Site.pattern (s.ruleDatum source)
      return keys.filter (Site.foundInKey pattern)
    return found.flatten

/-- The keys of the members a schema looks at. -/
def evaluatedKeys (a : Applier) (old : EvaluationDraft) (entries : List (Value × Value)) :
    Nat → Site → Value → Except SchemaFault (List Value)
  | 0, _, _ => .error .endless
  | _ + 1, _, .bool _ => .ok []
  | fuel + 1, s, schema => do
    let here := s.ruleDatum schema
    let outside ← foundElsewhere old s here (evaluatedKeys a old entries fuel)
    let direct ← directKeys a old s entries here
    let matched ← matchedKeys s (entries.map Prod.fst) here
    let dependents ← match ← here.found? "dependentSchemas" with
      | some schemas => schemas.entries
      | none => pure []
    let dependent ← (dependents.filter fun p => hasKey entries p.1).mapM fun p =>
      evaluatedKeys a old entries fuel s p.2
    let joined ← foundJoined a s here (evaluatedKeys a old entries fuel s)
    let selected ← foundSelected a s here (evaluatedKeys a old entries fuel s)
    return outside ++ direct ++ matched ++ dependent.flatten ++ joined ++ selected

/-! ### The keywords -/

/-- How many schemas within schemas are gone through. -/
def evaluationDepth : Nat := 1000

/-- No item is left that no keyword has looked at. -/
def unevaluatedItems (a : Applier) (s : Site) : Verdict :=
  match s.items? with
  | none => .clean
  | some all =>
    .onOk (evaluatedItems a (evaluationDraft s) all evaluationDepth s s.schema) fun seen =>
      let rest := all.zipIdx.filter fun p => !seen.contains p.2
      if rest.isEmpty then .clean
      else s.violation do
        return "Unevaluated items are not allowed (" ++ (← extras s (rest.map Prod.fst))
          ++ " unexpected)"

/-- Members that no keyword has looked at are valid under a schema.  A key is named once for each
violation under it. -/
def unevaluatedProperties (a : Applier) (s : Site) : Verdict :=
  match s.entries? with
  | none => .clean
  | some es =>
    .onOk (evaluatedKeys a (evaluationDraft s) es evaluationDepth s s.schema) fun seen =>
      let rest := es.filter fun e => !seen.any fun key => key.sameKey e.1
      let repeated (e : Value × Value) : Except SchemaFault (List Value) := do
        let violations ← (s.descend a s.rule e.2 none).complete
        return violations.map fun _ => e.1
      .onOk (rest.mapM repeated) fun found =>
        match found.flatten, s.rule with
        | [], _ => .clean
        | keys, .bool false =>
          let shown :=
            if s.scope.draft = .draft201909 then keys
            else keys.mergeSort fun x y => !textBefore (s.dataDatum y).text (s.dataDatum x).text
          s.violation do
            return "Unevaluated properties are not allowed (" ++ (← extras s shown) ++ " unexpected)"
        | keys, _ => s.violation do
          return "Unevaluated properties are not valid under the given schema (" ++ (← extras s keys)
            ++ " unevaluated and invalid)"

end YamlAudit.Rules
