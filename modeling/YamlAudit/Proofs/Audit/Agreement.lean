import YamlAudit.Proofs.Audit.Requirements
import YamlAudit.Proofs.Audit.Shape
import YamlAudit.Proofs.Value.Alike

/-!
# Audit — violations that say the same

A part of a structure may be shared, or written once for each place.  Violations do not show which:
they say the same of one value by schemas that are alike (`Violation.Agrees`).  So do their reports
(`Violation.Agrees.reports`).  What a requirement reports rests on its schema and its place
(`Violation.Founded`), so one requirement always reports the same
(`Violation.Founded.missingKeys`), also where it is one in another store of schemas only
(`Violation.Founded.missingKeys_of_agrees`).

Nothing is said of where the schemas lie.  It is by this that requirements are told apart, so two
violations may be one requirement for the one structure and two for the other.  That a violation is
founded is asked of requirements only: a schema can list what is not a text, or one name twice, and
what is reported then is not a set of missing names.  What forbids keys asks for less, namely that
the keys of the mapping are the same in all stores.
-/

namespace YamlAudit

open Schema

namespace Violation

/-- Two violations say the same of one value, by what stands in either store of schemas. -/
structure Agrees (s t : Store) (v w : Violation) : Prop where
  message : v.message = w.message
  path : v.path = w.path
  keyword : v.keyword = w.keyword
  subject : v.subject = w.subject
  rule : Alike s t v.rule w.rule
  schema : Alike s t v.schema w.schema

/-- What a violation of a requirement rests on: names that its schema lists, and the mapping that lies
at its path. -/
structure Founded (v : Violation) (schemas : Store) (data : Datum) : Prop where
  names : ∃ names, v.Requires schemas data.store names
  listed : Datum.member? ⟨schemas, v.schema⟩ "required" = some ⟨schemas, v.rule⟩
  placed : data.find? v.path = some ⟨data.store, v.subject⟩

/-- No key of the offending mapping holds anything that does not equal itself. -/
def HasOwnKeys (v : Violation) (data : Store) : Prop := ∀ e ∈ v.entries data, e.1.IsOwn

namespace Agrees

variable {s t data : Store} {v w v' w' : Violation}

theorem asksForKeys (h : v.Agrees s t w) : v.AsksForKeys data ↔ w.AsksForKeys data := by
  rw [AsksForKeys, AsksForKeys, h.keyword, h.subject]

theorem kind (h : v.Agrees s t w) : v.kind data = w.kind data := by
  rw [Violation.kind, Violation.kind, h.keyword, h.subject]

/-- A requirement is one wherever its schema stands. -/
example :
    let missing (schema : Nat) : Violation :=
      ⟨"'a' is a required property", [], some "required", .ref 1, .ref 0, .ref schema⟩
    let data : Store := ⟨#[.mapping []]⟩
    (missing 0).kind data = .missingKeys ∧ (missing 2).kind data = .missingKeys := by
  decide +kernel

theorem entries (h : v.Agrees s t w) : v.entries data = w.entries data := by
  rw [Violation.entries, Violation.entries, h.subject]

/-- The same names are asked for. -/
theorem requires (h : v.Agrees s t w) {names : List String} (hv : v.Requires s data names) :
    w.Requires t data names where
  schema := by
    obtain ⟨n, hn⟩ := hv.schema
    have hrel := h.schema.rel
    rw [hn] at hrel
    generalize w.schema = x at hrel ⊢
    cases hrel with
    | leaf hleaf => exact hleaf.elim
    | ref => exact ⟨_, rfl⟩
  parts := h.rule.parts_texts hv.parts
  nodup := hv.nodup
  absent := h.entries ▸ hv.absent

theorem missingKeys (h : v.Agrees s t w) {names : List String} (hv : v.Requires s data names) :
    v.missingKeys s data = w.missingKeys t data := by
  rw [hv.missingKeys, (h.requires hv).missingKeys, h.entries, h.path]

theorem foundInAny (key : Value) {sources sources' : List Value}
    (h : List.Forall₂ (Alike s t) sources sources') :
    Violation.foundInAny s key sources = Violation.foundInAny t key sources' := by
  induction h with
  | nil => rfl
  | cons hsource _ ih => rw [Violation.foundInAny, Violation.foundInAny, hsource.pattern, ih]

/-- What the schemas have no pattern for is the same. -/
theorem unmatched (h : v.Agrees s t w) (key : Value) :
    (match Datum.member? ⟨s, v.schema⟩ "patternProperties" with
      | some patterns => do
        return !(← Violation.foundInAny s key (← patterns.parts))
      | none => return true : Except SchemaFault Bool) =
    match Datum.member? ⟨t, w.schema⟩ "patternProperties" with
      | some patterns => do
        return !(← Violation.foundInAny t key (← patterns.parts))
      | none => return true := by
  have hpatterns := h.schema.member? "patternProperties"
  generalize Datum.member? ⟨s, v.schema⟩ "patternProperties" = patterns,
    Datum.member? ⟨t, w.schema⟩ "patternProperties" = patterns' at hpatterns ⊢
  cases hpatterns with
  | none => rfl
  | @some d e hde =>
      obtain ⟨_, x⟩ := d
      obtain ⟨_, y⟩ := e
      obtain ⟨rfl, rfl, hxy⟩ := hde
      refine Except.Rel.eq (hxy.parts.bind fun sources sources' h => ?_)
      rw [foundInAny key h]
      exact .refl _

/-- The same keys are forbidden. -/
theorem unknownKeys (h : v.Agrees s t w) (hkeys : v.HasOwnKeys data) :
    v.unknownKeys s data = w.unknownKeys t data := by
  rw [Violation.unknownKeys, Violation.unknownKeys, ← h.subject]
  refine Except.filterM_congr fun key hkey => ?_
  obtain ⟨e, he, rfl⟩ := List.mem_map.mp hkey
  have hnamed := h.schema.member? "properties"
  have hunmatched := h.unmatched e.1
  dsimp only
  generalize Datum.member? ⟨s, v.schema⟩ "properties" = named,
    Datum.member? ⟨t, w.schema⟩ "properties" = named' at hnamed ⊢
  cases hnamed with
  | none => exact hunmatched
  | @some d e hde =>
      obtain ⟨_, x⟩ := d
      obtain ⟨_, y⟩ := e
      obtain ⟨rfl, rfl, hxy⟩ := hde
      dsimp only
      rw [hxy.finds (hkeys e he)]
      refine congrArg (Datum.finds _ _ >>= ·) (funext fun named => ?_)
      cases named with
      | true => rfl
      | false => exact hunmatched

theorem extraKeys (h : v.Agrees s t w) (hkeys : v.HasOwnKeys data) :
    v.extraKeys s data = w.extraKeys t data := by
  rw [Violation.extraKeys, Violation.extraKeys, h.unknownKeys hkeys, h.path]

/-- The reports are the same. -/
theorem reports (h : v.Agrees s t w)
    (hasks : v.AsksForKeys data → ∃ names, v.Requires s data names)
    (hforbids : v.ForbidsKeys data → v.HasOwnKeys data) :
    v.reports s data = w.reports t data := by
  rw [Violation.reports, Violation.reports, ← h.kind]
  cases hk : v.kind data with
  | missingKeys =>
      obtain ⟨names, hnames⟩ := hasks (kind_eq_missingKeys_iff.mp hk)
      exact h.missingKeys hnames
  | extraKeys => exact h.extraKeys (hforbids (kind_eq_extraKeys_iff.mp hk))
  | plain => rw [mismatch, mismatch, h.message, h.path]

end Agrees

namespace Founded

variable {s t : Store} {data : Datum} {v w v' w' : Violation}

/-- One requirement asks for the same keys whenever it is violated. -/
theorem missingKeys (h : v.Founded s data) (h' : v'.Founded s data) (hsame : v.SameRequirement v') :
    v.missingKeys s data.store = v'.missingKeys s data.store := by
  obtain ⟨hpath, hschema⟩ := hsame
  have hrule : v'.rule = v.rule := by
    have hlisted := h'.listed
    rw [hschema, h.listed] at hlisted
    exact (congrArg Datum.value (Option.some.inj hlisted)).symm
  have hsubject : v'.subject = v.subject := by
    have hplaced := h'.placed
    rw [hpath, h.placed] at hplaced
    exact (congrArg Datum.value (Option.some.inj hplaced)).symm
  simp only [Violation.missingKeys, hpath, hrule, hsubject]

/-- So do two requirements that are one in the other store of schemas. -/
theorem missingKeys_of_agrees (h : v.Founded s data) (h' : v'.Founded s data)
    (hw : v.Agrees s t w) (hw' : v'.Agrees s t w') (hsame : w.SameRequirement w') :
    v.missingKeys s data.store = v'.missingKeys s data.store := by
  obtain ⟨hpath, hschema⟩ := hsame
  obtain ⟨names, hnames⟩ := h.names
  obtain ⟨names', hnames'⟩ := h'.names
  have hpath' : v'.path = v.path := by rw [hw'.path, hpath, hw.path]
  have hsubject : v'.subject = v.subject := by
    have hplaced := h'.placed
    rw [hpath', h.placed] at hplaced
    exact (congrArg Datum.value (Option.some.inj hplaced)).symm
  -- what the one schema lists in the other store is what either lists in this one
  have hlisted := hw.schema.member? "required"
  have hlisted' := hw'.schema.member? "required"
  rw [h.listed] at hlisted
  rw [h'.listed, hschema] at hlisted'
  generalize Datum.member? ⟨t, w.schema⟩ "required" = x at hlisted hlisted'
  cases hlisted with
  | @some _ e hrule =>
      cases hlisted' with
      | some hrule' =>
          obtain ⟨_, y⟩ := e
          obtain ⟨-, rfl, hrule⟩ := hrule
          obtain ⟨-, -, hrule'⟩ := hrule'
          have heq := (hrule.parts_texts hnames.parts).symm.trans (hrule'.parts_texts hnames'.parts)
          have hsame : names = names' :=
            List.map_injective_iff.mpr (fun _ _ => Value.text.inj) (Except.ok.inj heq)
          rw [hnames.missingKeys, hnames'.missingKeys, hpath', hsame]
          simp only [Violation.entries, hsubject]

end Founded

end Violation

end YamlAudit
