import YamlAudit.Proofs.Audit.Sharing
import YamlAudit.Proofs.Schema.Evaluated

/-!
# Schema — twins judge alike

Each keyword at sites of twins gives rise to verdicts that agree (`Site.Twins.judge`).  A schema is
applied keyword by keyword, and applies the schemas in it in the same way, so by induction on how deep
schemas are followed into one another twins agree on every value (`applySchema_agree`).

* `Schema.Registered.judgeAlike_of_twins`: schemas that are registered and are twins judge all data
  alike.

A fault is a result too, and ends both in the same way, so it makes no difference whether either
structure is a schema of its draft.  The number of schemas that may be applied within one another is
the same for both: it is a bound of the rules and not of what they are given.
-/

namespace YamlAudit

/-- What a keyword has to say agrees at sites of twins. -/
theorem Site.Twins.judge {s t : Site} {a b : Applier} (h : s.Twins t) (hab : s.ApplyAlike t a b)
    (rule : Rule) : s.Agree t (s.judge a rule) (t.judge b rule) := by
  cases rule with
  | reference | dynamicReference => exact Rules.reference_twins h hab
  | recursiveReference => exact Rules.recursiveReference_twins h hab
  | additionalItems => exact Rules.additionalItems_twins h hab
  | additionalProperties => exact Rules.additionalProperties_twins h hab
  | allOf => exact Rules.allOf_twins h hab
  | anyOf => exact Rules.anyOf_twins h hab
  | oneOf => exact Rules.oneOf_twins h hab
  | not => exact Rules.not_twins h hab
  | const => exact Rules.const_twins h
  | contains => exact Rules.contains_twins h hab
  | containsCounted => exact Rules.containsCounted_twins h hab
  | dependentRequired => exact Rules.dependentRequired_twins h
  | dependentSchemas => exact Rules.dependentSchemas_twins h hab
  | dependencies => exact Rules.dependencies_twins h hab
  | looseDependencies => exact Rules.looseDependencies_twins h hab
  | disallow => exact Rules.disallow_twins h hab
  | enum => exact Rules.enum_twins h
  | exclusiveMaximum | exclusiveMinimum | maximum | minimum => exact Rules.limit_twins h _ _ _
  | «extends» => exact Rules.extending_twins h hab
  | format => exact Rules.format_twins h
  | condition => exact Rules.condition_twins h hab
  | items => exact Rules.items_twins h hab
  | itemsByPosition => exact Rules.itemsByPosition_twins h hab
  | maxItems => exact Rules.maxItems_twins h
  | maxLength => exact Rules.maxLength_twins h
  | maxProperties => exact Rules.maxProperties_twins h
  | maximumOrBelow => exact Rules.maximumOrBelow_twins h
  | minItems => exact Rules.minItems_twins h
  | minLength => exact Rules.minLength_twins h
  | minProperties => exact Rules.minProperties_twins h
  | minimumOrAbove => exact Rules.minimumOrAbove_twins h
  | multipleOf => exact Rules.multipleOf_twins h
  | pattern => exact Rules.pattern_twins h
  | patternProperties => exact Rules.patternProperties_twins h hab
  | leadingItems => exact Rules.leadingItems_twins h hab
  | properties => exact Rules.properties_twins h hab
  | propertiesOrRequired => exact Rules.propertiesOrRequired_twins h hab
  | propertyNames => exact Rules.propertyNames_twins h hab
  | required => exact Rules.required_twins h
  | type => exact Rules.type_twins h
  | typeOrSchema => exact Rules.typeOrSchema_twins h hab
  | unevaluatedItems => exact Rules.unevaluatedItems_twins h hab
  | unevaluatedProperties => exact Rules.unevaluatedProperties_twins h hab
  | uniqueItems => exact Rules.uniqueItems_twins h

/-- The words that count are the same, with twins under them. -/
theorem Twin.wordsOf {s t : Store} {v w : Value} (h : Twin s t v w) (d : Draft) :
    Except.Rel (List.Forall₂ (SameEntry (Twin s t))) (d.wordsOf ⟨s, v⟩) (d.wordsOf ⟨t, w⟩) := by
  unfold Draft.wordsOf
  split
  · refine (h.said? "$ref").bind fun x y hxy => ?_
    cases hxy with
    | none => exact h.entriesBy _
    | some htarget =>
        obtain ⟨htarget⟩ := htarget
        exact .ok (.cons ⟨rfl, trivial, .leaf trivial, htarget⟩ .nil)
  · exact h.entriesBy _

section Registries

variable {r r' : Registry} {data : Store}

/-- However deep schemas are followed into one another, twins agree on every value. -/
theorem applySchema_agree (hr : r.Twins r') (hkeys : data.HasOwnKeys) (formats : Bool) (depth : Nat) :
    Applier.Agree r.store r'.store (applySchema r data formats depth)
      (applySchema r' data formats depth) := by
  induction depth with
  | zero => exact fun _ _ _ _ _ _ => .stop _
  | succ depth ih =>
      intro scope listing v w subject hvw
      refine .onOk (hvw.wordsOf listing) fun words words' hwords => .each hwords ?_
      rintro ⟨key, rule⟩ ⟨_, rule'⟩ ⟨rfl, -, -, hrule⟩
      dsimp only
      split
      · refine Site.Twins.judge (s := ⟨r, data, formats, scope, v, _, rule, subject⟩)
          (t := ⟨r', data, formats, scope, w, _, rule', subject⟩) ?_ ih _
        exact ⟨hr, rfl, rfl, rfl, hvw, rfl, hrule, rfl, hkeys⟩
      · exact .clean

end Registries

namespace Schema

/-- Schemas that are registered under one name, and are twins. -/
structure Registered.Twins (r r' : Registered) : Prop where
  registry : r.registry.Twins r'.registry
  draft : r.draft = r'.draft
  name : r.name = r'.name
  schema : Twin r.registry.store r'.registry.store r.schema r'.schema

/-- Twins judge alike: their searches end in the same way and find violations that say the same, whatever
they are held against, as long as its keys are the same in all stores. -/
theorem Registered.judgeAlike_of_twins {r r' : Registered} (h : r.Twins r') {data : Datum}
    (hkeys : data.store.HasOwnKeys) : r.JudgeAlike r' data := by
  suffices hagree : Verdict.Agrees r.registry.store r'.registry.store (r.verdict data) (r'.verdict data)
    from ⟨hagree.fault, hagree.violations⟩
  have happly : Verdict.Agrees r.registry.store r'.registry.store
      (applySchema r.registry data.store false depth ⟨r.draft, r.name, [], false⟩ r.draft r.schema
        data.value)
      (applySchema r'.registry data.store false depth ⟨r'.draft, r'.name, [], false⟩ r'.draft r'.schema
        data.value) := by
    rw [h.draft, h.name]
    exact applySchema_agree h.registry hkeys false depth _ _ _ _ _ h.schema
  obtain ⟨registry, draft, name, schema⟩ := r
  obtain ⟨registry', draft', name', schema'⟩ := r'
  unfold Registered.verdict Schema.verdict
  rcases h.schema.isBool with ⟨holds, rfl, rfl⟩ | ⟨hv, hw⟩
  · cases holds with
    | true => exact .clean
    | false =>
        exact .onOk_same rfl fun _ => .single ⟨rfl, rfl, rfl, rfl, .leaf trivial, .leaf trivial⟩
  · cases schema with
    | bool b => exact (hv b rfl).elim
    | _ =>
        cases schema' with
        | bool b => exact (hw b rfl).elim
        | _ => exact happly

end Schema

end YamlAudit
