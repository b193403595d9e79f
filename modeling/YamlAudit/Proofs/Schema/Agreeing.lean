import YamlAudit.Proofs.Audit.Agreement
import YamlAudit.Proofs.Schema.Twins

/-!
# Schema — sites of twins

Verdicts agree if they end in the same way and their violations say the same, one after the other
(`Verdict.Agrees`); what verdicts are put together with keeps this.  A keyword that stands in two
schemas that are twins, in twin registries, is at two sites (`Site.Twins`): everything a keyword asks of
its site has one answer at both.  Schemas within the two schemas are applied by appliers that agree on
twins (`Applier.Agree`), so whatever is applied at the two sites agrees
(`Site.Twins.descend`, `Site.Twins.accepts`).

Keys of the data are compared as values, and a key that does not equal itself, or has a container in
it, is told by where it lies.  So the data must not have such keys (`Store.HasOwnKeys`).  Schemas
are asked for words only, and these are texts.
-/

namespace YamlAudit

/-! ### Verdicts -/

/-- Verdicts with one end, and with violations that say the same. -/
structure Verdict.Agrees (s t : Store) (a b : Verdict) : Prop where
  fault : a.fault = b.fault
  violations : List.Forall₂ (Violation.Agrees s t) a.violations b.violations

namespace Verdict.Agrees

variable {s t : Store} {a b : Verdict}

theorem clean : Agrees s t .clean .clean := ⟨rfl, .nil⟩

theorem stop (f : SchemaFault) : Agrees s t (.stop f) (.stop f) := ⟨rfl, .nil⟩

theorem single {v w : Violation} (h : v.Agrees s t w) : Agrees s t ⟨[v], none⟩ ⟨[w], none⟩ :=
  ⟨rfl, .cons h .nil⟩

/-- One verdict has ended the search on both sides or on neither. -/
theorem andThen {f g : Unit → Verdict} (h : Agrees s t a b) (hfg : Agrees s t (f ()) (g ())) :
    Agrees s t (a.andThen f) (b.andThen g) := by
  unfold Verdict.andThen
  rw [← h.fault]
  cases a.fault with
  | some _ => exact h
  | none => exact ⟨hfg.fault, List.rel_append h.violations hfg.violations⟩

/-- The verdicts on related things in turn. -/
theorem each {α β : Type} {R : α → β → Prop} {as : List α} {bs : List β} {f : α → Verdict}
    {g : β → Verdict} (h : List.Forall₂ R as bs) (hfg : ∀ a b, R a b → Agrees s t (f a) (g b)) :
    Agrees s t (.each f as) (.each g bs) := by
  induction h with
  | nil => exact clean
  | cons hab _ ih => exact (hfg _ _ hab).andThen ih

/-- The verdicts on the same things in turn. -/
theorem each_same {α : Type} {f g : α → Verdict} {as : List α}
    (hfg : ∀ a ∈ as, Agrees s t (f a) (g a)) : Agrees s t (.each f as) (.each g as) := by
  induction as with
  | nil => exact clean
  | cons a rest ih =>
      obtain ⟨ha, hrest⟩ := List.forall_mem_cons.mp hfg
      exact ha.andThen (ih hrest)

/-- What is needed first is related, or the same keeps both from going on. -/
theorem onOk {α β : Type} {R : α → β → Prop} {x : Except SchemaFault α} {y : Except SchemaFault β}
    {f : α → Verdict} {g : β → Verdict} (h : Except.Rel R x y)
    (hfg : ∀ a b, R a b → Agrees s t (f a) (g b)) : Agrees s t (.onOk x f) (.onOk y g) := by
  cases h with
  | ok h => exact hfg _ _ h
  | error e => exact stop e

theorem onOk_same {α : Type} {x y : Except SchemaFault α} {f g : α → Verdict} (h : x = y)
    (hfg : ∀ a, Agrees s t (f a) (g a)) : Agrees s t (.onOk x f) (.onOk y g) := by
  subst h
  exact onOk (.refl x) fun a _ h => h ▸ hfg a

/-- Values one step further down lie one step further down on both sides. -/
theorem under (h : Agrees s t a b) (segment : Segment) :
    Agrees s t (a.under segment) (b.under segment) := by
  refine ⟨h.fault, List.forall₂_map_left_iff.mpr (List.forall₂_map_right_iff.mpr ?_)⟩
  exact h.violations.imp fun v w hvw =>
    ⟨hvw.message, congrArg (segment :: ·) hvw.path, hvw.keyword, hvw.subject, hvw.rule, hvw.schema⟩

/-- Neither finds anything, or a first violation comes before what kept either from going on. -/
theorem valid (h : Agrees s t a b) : a.valid = b.valid := by
  unfold Verdict.valid
  rw [h.fault, isEmpty_eq_of_forall₂ h.violations]

/-- All that is wrong is related, or the same keeps both from going on. -/
theorem complete (h : Agrees s t a b) :
    Except.Rel (List.Forall₂ (Violation.Agrees s t)) a.complete b.complete := by
  unfold Verdict.complete
  rw [h.fault]
  cases b.fault with
  | some f => exact .error f
  | none => exact .ok h.violations

/-- Neither finds anything, or both do. -/
theorem holds (h : Agrees s t a b) :
    (do return (← a.complete).isEmpty : Except SchemaFault Bool) = do
      return (← b.complete).isEmpty :=
  h.complete.bind_eq fun _ _ h => congrArg Except.ok (isEmpty_eq_of_forall₂ h)

end Verdict.Agrees

/-! ### Sites -/

/-- Keys of mappings are the same in all stores. -/
def Store.HasOwnKeys (s : Store) : Prop := ∀ v es, s.entries? v = some es → ∀ e ∈ es, e.1.IsOwn

theorem Store.HasOwnKeys.violation {s : Store} (h : s.HasOwnKeys) (v : Violation) : v.HasOwnKeys s := by
  intro e he
  rw [Violation.entries] at he
  cases hes : s.entries? v.subject with
  | none => exact (List.not_mem_nil (hes ▸ he)).elim
  | some es => exact h _ _ hes e (by simpa [hes] using he)

/-- Appliers that agree on twins. -/
def Applier.Agree (s t : Store) (a b : Applier) : Prop :=
  ∀ scope listing v w subject, Twin s t v w →
    Verdict.Agrees s t (a scope listing v subject) (b scope listing w subject)

/-- One word that stands in twins, held against one value. -/
structure Site.Twins (s t : Site) : Prop where
  registry : s.registry.Twins t.registry
  data : s.data = t.data
  formats : s.formats = t.formats
  scope : s.scope = t.scope
  schema : Twin s.registry.store t.registry.store s.schema t.schema
  word : s.word = t.word
  rule : Twin s.registry.store t.registry.store s.rule t.rule
  subject : s.subject = t.subject
  keys : s.data.HasOwnKeys

/-- Verdicts that agree by what stands in the registries of two sites. -/
abbrev Site.Agree (s t : Site) (a b : Verdict) : Prop :=
  Verdict.Agrees s.registry.store t.registry.store a b

/-- Appliers that agree on the twins in the registries of two sites. -/
abbrev Site.ApplyAlike (s t : Site) (a b : Applier) : Prop :=
  Applier.Agree s.registry.store t.registry.store a b

/-- Values that are twins in the registries of two sites. -/
abbrev Site.AreTwins (s t : Site) (v w : Value) : Prop :=
  Twin s.registry.store t.registry.store v w

namespace Site.Twins

variable {s t : Site} {a b : Applier} {v w : Value}

theorem dataDatum (h : s.Twins t) (v : Value) : s.dataDatum v = t.dataDatum v :=
  congrArg (Datum.mk · v) h.data

/-- The value is the same at both sites, and so is all that is asked of it. -/
theorem given (h : s.Twins t) : s.given = t.given := by
  rw [Site.given, Site.given, h.dataDatum, h.subject]

theorem items? (h : s.Twins t) : s.items? = t.items? := congrArg Datum.items? h.given

theorem entries? (h : s.Twins t) : s.entries? = t.entries? := congrArg Datum.entries? h.given

theorem isA (h : s.Twins t) (type : String) : s.isA type = t.isA type := by
  rw [Site.isA, Site.isA, h.scope, h.given]

theorem segment (h : s.Twins t) (key : Value) : s.segment key = t.segment key := by
  unfold Site.segment
  rw [h.dataDatum]

/-- Twins are mappings both or neither. -/
theorem isSchemaMapping (h : s.AreTwins t v w) : s.isSchemaMapping v = t.isSchemaMapping w :=
  h.isMapping

/-- Under another word there are twins, or there is nothing. -/
theorem beside? (h : s.Twins t) (word : String) :
    Option.Rel (TwinData s.registry.store t.registry.store) (s.beside? word) (t.beside? word) :=
  h.schema.member? word

/-! ### Violations -/

theorem violationOf (h : s.Twins t) (word : String) (hvw : s.AreTwins t v w)
    {message message' : Except SchemaFault String} (hmessage : message = message') :
    s.Agree t (s.violationOf word v message) (t.violationOf word w message') :=
  .onOk_same hmessage fun _ =>
    .single ⟨rfl, rfl, rfl, h.subject, hvw.alike, h.schema.alike⟩

/-- Violations of the keyword itself say the same. -/
theorem violation (h : s.Twins t) {message message' : Except SchemaFault String}
    (hmessage : message = message') : s.Agree t (s.violation message) (t.violation message') := by
  unfold Site.violation
  rw [h.word]
  exact h.violationOf t.word h.rule hmessage

/-- Both sites ask for the same, and say the same if it does not hold. -/
theorem demand (h : s.Twins t) {holds holds' : Bool} (hholds : holds = holds')
    {message message' : Unit → Except SchemaFault String} (hmessage : message () = message' ()) :
    s.Agree t (s.demand holds message) (t.demand holds' message') := by
  subst hholds
  cases holds with
  | true => exact .clean
  | false => exact h.violation hmessage

/-- Twins in the registries have the same literals. -/
theorem saidAll {vs ws : List Value} (h : List.Forall₂ (s.AreTwins t) vs ws) :
    YamlAudit.saidAll s.registry.store vs = YamlAudit.saidAll t.registry.store ws :=
  congrArg (· >>= _) (Except.mapM_eq_of_forall₂ h fun _ _ h => h.said)

theorem remark (h : s.Twins t) (text : String) : s.remark text = t.remark text := by
  rw [Site.remark, Site.remark, h.given]

theorem remarkOn (h : s.Twins t) (text : String) {vs ws : List Value}
    (hvs : List.Forall₂ (s.AreTwins t) vs ws) : s.remarkOn text vs = t.remarkOn text ws := by
  rw [Site.remarkOn, Site.remarkOn, h.given, saidAll hvs]

/-- A schema that allows nothing says nothing of where it stands. -/
theorem forbidden (h : s.Twins t) (subject : Value) :
    s.Agree t (s.forbidden subject) (t.forbidden subject) :=
  .onOk_same (congrArg Datum.said (h.dataDatum subject)) fun _ =>
    .single ⟨rfl, rfl, rfl, rfl, .leaf trivial, .leaf trivial⟩

/-! ### Schemas within the schema -/

/-- Appliers that agree go on agreeing where a schema is applied. -/
theorem applyHere (h : s.Twins t) (hab : s.ApplyAlike t a b)
    (scope : Scope) (listing : Draft) (hvw : s.AreTwins t v w) (subject : Value) :
    s.Agree t (s.applyHere a scope listing v subject) (t.applyHere b scope listing w subject) := by
  have hdraft := hvw.within scope.draft
  have hgo : s.Agree t
      (.onOk (scope.draft.within (s.ruleDatum v)) fun draft =>
        a { scope with draft } listing v subject)
      (.onOk (scope.draft.within (t.ruleDatum w)) fun draft =>
        b { scope with draft } listing w subject) :=
    .onOk_same hdraft fun draft => hab _ _ _ _ _ hvw
  unfold Site.applyHere
  cases hvw.shape with
  | leaf hleaf =>
      cases v with
      | bool holds =>
          cases holds with
          | true => exact .clean
          | false => exact h.forbidden subject
      | _ => exact hgo
  | tuple | list | mapping | ordered => exact hgo

/-- Going into twins leads to one scope, so the schemas within them agree too, and so does what is
made of their verdicts. -/
theorem entered (h : s.Twins t) (hab : s.ApplyAlike t a b) (hvw : s.AreTwins t v w) (subject : Value)
    {k : Verdict → Verdict} (hk : ∀ x y, s.Agree t x y → s.Agree t (k x) (k y)) :
    s.Agree t
      (.onOk (s.scope.enter s.scope.draft (s.ruleDatum v)) fun scope =>
        k (s.applyHere a scope s.scope.draft v subject))
      (.onOk (t.scope.enter t.scope.draft (t.ruleDatum w)) fun scope =>
        k (t.applyHere b scope t.scope.draft w subject)) := by
  rw [← h.scope]
  exact .onOk_same (Scope.enter_twins hvw _ _) fun scope =>
    hk _ _ (h.applyHere hab scope s.scope.draft hvw subject)

/-- Schemas within twins agree, one step further down or where the keyword stands. -/
theorem descend (h : s.Twins t) (hab : s.ApplyAlike t a b)
    (hvw : s.AreTwins t v w) (subject : Value) (step : Option Segment) :
    s.Agree t (s.descend a v subject step) (t.descend b w subject step) := by
  unfold Site.descend
  cases hvw.shape with
  | leaf hleaf =>
      cases v with
      | bool holds =>
          cases holds with
          | true => exact .clean
          | false => exact h.forbidden subject
      | _ =>
          cases step with
          | none => exact h.entered hab hvw subject fun _ _ hxy => hxy
          | some step => exact h.entered hab hvw subject fun _ _ hxy => hxy.under step
  | tuple | list | mapping | ordered =>
      cases step with
      | none => exact h.entered hab hvw subject fun _ _ hxy => hxy
      | some step => exact h.entered hab hvw subject fun _ _ hxy => hxy.under step

/-- A value is valid under both of two twins or under neither. -/
theorem accepts (h : s.Twins t) (hab : s.ApplyAlike t a b)
    (hvw : s.AreTwins t v w) (subject : Value) :
    s.accepts a v subject = t.accepts b w subject := by
  unfold Site.accepts
  rw [← h.scope]
  refine (congrArg (· >>= _) (hvw.within s.scope.draft)).trans (bind_congr fun draft => ?_)
  exact (h.applyHere hab _ _ hvw subject).valid

end Site.Twins

end YamlAudit
