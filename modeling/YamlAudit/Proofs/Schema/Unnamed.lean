import YamlAudit.Proofs.Audit.Requirements

/-!
# Schema — schemas without a name

A schema that neither gives itself a name nor says which draft it is of is one of the latest draft,
and stays in the scope it is met in (`Datum.Unnamed`).  As a structure it is registered as it is, with
its containers behind those of the schemas of schemas (`Datum.Unnamed.registered`).

The structures that are followed through all stages elsewhere are of this kind, and what a registry
does about names and drafts is settled for them here.
-/

namespace YamlAudit

open Schema

/-! ### Words of mappings -/

theorem lookupKey_text_eq_none {name : String} {es : List (Value × Value)}
    (h : ∀ e ∈ es, e.1 ≠ .text name) : lookupKey (.text name) es = none :=
  Option.eq_none_iff_forall_not_mem.mpr fun _ hv => h _ (mem_of_lookupKey_text hv) rfl

theorem lookupKey_text_cons {name key : String} {v : Value} {es : List (Value × Value)} :
    lookupKey (.text name) ((.text key, v) :: es) =
      if key = name then some v else lookupKey (.text name) es := by
  rw [lookupKey]
  exact if_congr beq_iff_eq rfl rfl

namespace Datum

variable {d : Datum} {es : List (Value × Value)}

theorem under_of_entries? (h : d.entries? = some es) (word : String) :
    d.under word = .ok (d.member? word) := by
  rw [under, entriesBy, h, member?, h]
  rfl

theorem finds_of_entries? (h : d.entries? = some es) (word : String) :
    d.finds (.text word) = .ok ((es.map Prod.fst).any fun key => key.sameKey (.text word)) := by
  obtain ⟨s, v⟩ := d
  cases v with
  | ref n => simp only [finds, parts_of_entries? h]
  | _ => cases h

/-- What can be gone through in a list are its items. -/
theorem parts_of_list {s : Store} {n : Nat} {items : List Value} (h : s.get n = .list items) :
    parts ⟨s, .ref n⟩ = .ok items := by
  unfold parts sequence? Store.sequence?
  simp only [h]

/-- The entries of a mapping. -/
theorem entries?_of_mapping {s : Store} {n : Nat} (h : s.get n = .mapping es) :
    entries? ⟨s, .ref n⟩ = some es :=
  entries?_eq_some.mpr ⟨n, rfl, .inl h⟩

/-- A schema that neither has a name nor says which draft it is of. -/
def Unnamed (d : Datum) : Prop :=
  ∃ es, d.entries? = some es ∧ ∀ e ∈ es, e.1 ≠ .text "$schema" ∧ e.1 ≠ .text "$id"

namespace Unnamed

theorem within (h : d.Unnamed) : Draft.latest.within d = .ok .latest := by
  obtain ⟨es, hes, hwords⟩ := h
  have hmissing : ((es.map Prod.fst).any fun key => key.sameKey (.text "$schema")) = false := by
    rw [List.any_map, List.any_eq_false]
    exact fun e he hsame => (hwords e he).1 (Value.eq_text_of_sameKey hsame)
  rw [Draft.within, found?, finds_of_entries? hes, hmissing]
  split <;> rfl

theorem nameOf (h : d.Unnamed) : Draft.latest.nameOf d = .ok none := by
  obtain ⟨es, hes, hwords⟩ := h
  have hsaid : Draft.said? d "$id" = .ok none := by
    rw [Draft.said?, under_of_entries? hes, member?, hes, Option.bind_some,
      lookupKey_text_eq_none fun e he => (hwords e he).2]
    rfl
  rw [Draft.nameOf, finds_of_entries? hes, show Draft.latest.nameWord = "$id" from rfl, hsaid]
  split <;> rfl

/-- The scope stays the same. -/
theorem enter (h : d.Unnamed) (sc : Scope) : sc.enter .latest d = .ok sc := by
  rw [Scope.enter, Scope.enter?, h.nameOf]
  rfl

end Unnamed

end Datum

/-! ### Registration -/

/-- A container that has been taken into a registry. -/
theorem Registry.get_absorb (r : Registry) (d : Datum) (c : Nat) :
    (r.absorb d).2.store.get (r.store.containers.size + c) =
      shiftedContainer r.store.containers.size (d.store.get c) := by
  simp only [absorb, Store.get, Array.getD_eq_getD_getElem?]
  rw [Array.getElem?_append_right (Nat.le_add_right _ _), Nat.add_sub_cancel_left]
  by_cases hc : c < d.store.containers.size
  · simp [hc]
  · simp [hc, shiftedContainer, shiftedAll]

theorem Registry.eq_text_of_shifted {n : Nat} {v : Value} {t : String}
    (h : shifted n v = .text t) : v = .text t := by
  cases v with
  | text => exact h
  | nan mark => cases mark <;> cases h
  | _ => cases h

/-- The number of containers before those of a structure that is registered. -/
def Schema.offset : Nat := Metaschema.registry.store.containers.size

/-- A schema of the latest draft, registered under no name. -/
def Schema.Registered.unnamed (registry : Registry) (schema : Nat) : Registered :=
  ⟨registry, .latest, "", .ref schema⟩

theorem Datum.Unnamed.registered {s : Store} {schema : Nat} (h : Datum.Unnamed ⟨s, .ref schema⟩) :
    draftOf ⟨s, .ref schema⟩ = .ok .latest ∧
    ∃ registry : Registry, Schema.registered .latest ⟨s, .ref schema⟩ =
        .ok (.unnamed registry (offset + schema)) ∧
      ∀ c, registry.store.get (offset + c) = Registry.shiftedContainer offset (s.get c) := by
  refine ⟨h.within, (Metaschema.registry.absorb ⟨s, .ref schema⟩).2.add "" .latest
    (.ref (offset + schema)), ?_, Registry.get_absorb Metaschema.registry ⟨s, .ref schema⟩⟩
  rw [Schema.registered, h.nameOf]
  rfl

/-! ### Verdicts -/

theorem Verdict.andThen_clean (v : Verdict) : (v.andThen fun _ => .clean) = v := by
  obtain ⟨violations, fault⟩ := v
  cases fault with
  | some f => rfl
  | none => simp [Verdict.andThen, Verdict.clean]

namespace Schema.Registered

/-- A keyword of a schema that is registered, held against a value. -/
def site (r : Registered) (data : Datum) (word : String) (rule : Value) : Site :=
  ⟨r.registry, data.store, false, ⟨r.draft, r.name, [], false⟩, r.schema, word, rule, data.value⟩

/-- How a schema that is registered applies the schemas in it. -/
def applier (r : Registered) (data : Datum) : Applier :=
  applySchema r.registry data.store false (Schema.depth - 1)

end Schema.Registered

/-- The words of a schema are held against the value one after the other. -/
theorem applySchema_words {registry : Registry} {data : Store} {formats : Bool} {depth n : Nat}
    {scope : Scope} {es : List (Value × Value)} (h : registry.store.get n = .mapping es)
    (subject : Value) : applySchema registry data formats (depth + 1) scope .latest (.ref n) subject =
      .each (fun p => match p.1, scope.draft.rule? p.1 with
        | .text word, some rule =>
          Site.judge (applySchema registry data formats depth)
            ⟨registry, data, formats, scope, .ref n, word, p.2, subject⟩ rule
        | _, _ => .clean) es := by
  have hwords : Draft.latest.wordsOf (registry.datum (.ref n)) = .ok es :=
    Datum.entries_eq_ok.mpr (Datum.entries?_of_mapping h)
  rw [applySchema]
  dsimp only
  rw [hwords]
  rfl

/-- Nothing but the words of a schema without a name counts, wherever it is applied. -/
theorem Site.descend_unnamed {a : Applier} {s : Site} {n : Nat} {subject : Value}
    (h : Datum.Unnamed (s.ruleDatum (.ref n))) (hdraft : s.scope.draft = .latest) :
    s.descend a (.ref n) subject none = a s.scope .latest (.ref n) subject := by
  show Verdict.onOk (s.scope.enter s.scope.draft (s.ruleDatum (.ref n)))
    (fun scope => s.applyHere a scope s.scope.draft (.ref n) subject) = _
  rw [hdraft, h.enter]
  show Verdict.onOk (s.scope.draft.within (s.ruleDatum (.ref n)))
    (fun draft => a { s.scope with draft } .latest (.ref n) subject) = _
  rw [hdraft, h.within, ← hdraft]
  rfl

end YamlAudit
