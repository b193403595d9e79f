import YamlAudit.Schema.Rules.Values

/-!
# Schema.Rules — Arrays

Keywords about lists: how many items there are, what each of them has to be, and whether one comes
twice.
-/

namespace YamlAudit.Rules

/-- What was not expected, by its literals, and the word for whether there is one of them. -/
def extras (s : Site) (values : List Value) : Except SchemaFault String := do
  return (← saidAll s.data values) ++ (if values.length = 1 then " was" else " were")

/-- A list has enough items. -/
def minItems (s : Site) : Verdict :=
  match s.items? with
  | some items => least s items.length " is too short"
  | none => .clean

/-- A list does not have too many items. -/
def maxItems (s : Site) : Verdict :=
  match s.items? with
  | some items => most s items.length " is too long"
  | none => .clean

/-- No item of a list comes twice. -/
def uniqueItems (s : Site) : Verdict :=
  match s.items? with
  | some items =>
    s.demand (!(s.asked.isTruthy && s.data.repeats items)) fun _ =>
      s.remark " has non-unique elements"
  | none => .clean

/-- Applies a schema to items, the first of which is at position `n`. -/
def itemsFrom (a : Applier) (s : Site) (schema : Value) (n : Nat) (items : List Value) : Verdict :=
  .each (fun p => s.descend a schema p.1 (some (.index (n + p.2 : Nat)))) items.zipIdx

/-- Applies schemas to the items at their positions. -/
def itemsInTurn (a : Applier) (s : Site) (items : List Value) : Verdict :=
  .onOk s.asked.parts fun schemas =>
    .each (fun p => s.descend a p.2 p.1.1 (some (.index p.1.2))) (items.zipIdx.zip schemas)

/-- The number of items with a schema of their own by another keyword. -/
def lengthBeside (s : Site) (word : String) : Except SchemaFault Nat :=
  match s.beside? word with
  | some v => v.size
  | none => .ok 0

/-- The items behind the leading ones are valid under a schema. -/
def items (a : Applier) (s : Site) : Verdict :=
  match s.items? with
  | none => .clean
  | some all => .onOk (lengthBeside s "prefixItems") fun leading =>
    let rest := all.drop leading
    match s.rule, rest with
    | _, [] => .clean
    | .bool false, _ => s.violation do
      let literals ← saidAll s.data rest
      let found := if rest.length = 1 then literals else "[" ++ literals ++ "]"
      return "Expected at most " ++ toString leading ++ " item" ++ (if leading = 1 then "" else "s")
        ++ " but found " ++ toString rest.length ++ " extra: " ++ found
    | schema, _ => itemsFrom a s schema leading rest

/-- The leading items are valid under a schema each. -/
def leadingItems (a : Applier) (s : Site) : Verdict :=
  match s.items? with
  | none => .clean
  | some all => itemsInTurn a s all

/-- All items are valid under a schema, or each under one of its own.  Up to draft 4 what is no mapping
stands for several schemas, later only a list does. -/
def itemsByPosition (a : Applier) (s : Site) : Verdict :=
  let early : Bool := s.scope.draft = .draft3 || s.scope.draft = .draft4
  match s.items? with
  | none => .clean
  | some all =>
    if if early then s.asked.isMapping else s.asked.items?.isNone then itemsFrom a s s.rule 0 all
    else itemsInTurn a s all

/-- The items behind those with a schema of their own are valid under a schema. -/
def additionalItems (a : Applier) (s : Site) : Verdict :=
  let single := ((s.beside? "items").map Datum.isMapping).getD true
  match s.items? with
  | none => .clean
  | some all =>
    if single then .clean
    else .onOk (lengthBeside s "items") fun n =>
      let rest := all.drop n
      if s.asked.isMapping then itemsFrom a s s.rule n rest
      else if !s.asked.isTruthy && !rest.isEmpty then s.violation do
        return "Additional items are not allowed (" ++ (← extras s rest) ++ " unexpected)"
      else .clean

/-- Some item is valid under a schema. -/
def contains (a : Applier) (s : Site) : Verdict :=
  match s.items? with
  | none => .clean
  | some all => .onOk (anyOk (s.accepts a s.rule) all) fun holds =>
    s.demand holds fun _ => do
      return "None of " ++ (← s.given.said) ++ " are valid under the given schema"

/-- Counts the valid items, up to the first that is one too many. -/
def countValid (a : Applier) (s : Site) (limit : Datum) :
    Nat → List Value → Except SchemaFault (Nat × Bool)
  | count, [] => .ok (count, false)
  | count, v :: rest => do
    if ← s.accepts a s.rule v then
      if ← (sizeDatum s (count + 1)).compares .greater limit then return (count + 1, true)
      countValid a s limit (count + 1) rest
    else countValid a s limit count rest

/-- As many items are valid under a schema as two other keywords say, at least one if they do not. -/
def containsCounted (a : Applier) (s : Site) : Verdict :=
  match s.items? with
  | none => .clean
  | some all =>
    let low := (s.beside? "minContains").getD (s.ruleDatum (.int 1))
    let high := (s.beside? "maxContains").getD (s.ruleDatum (.int all.length))
    .onOk (s.scope.draft.within s.asked) fun _ =>
    .onOk (countValid a s high 0 all) fun (count, tooMany) =>
      if tooMany then
        s.violationOf "maxContains" high.value do
          return "Too many items match the given schema (expected at most " ++ (← high.told) ++ ")"
      else .onOk ((sizeDatum s count).compares .less low) fun below =>
        if !below then .clean
        else if count = 0 then
          s.violation (s.remark " does not contain items matching the given schema")
        else
          s.violationOf "minContains" low.value do
            return "Too few items match the given schema (expected at least " ++ (← low.told)
              ++ " but only " ++ toString count ++ " matched)"

end YamlAudit.Rules
