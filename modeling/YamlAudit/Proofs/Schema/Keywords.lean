import YamlAudit.Proofs.Schema.Agreeing
import YamlAudit.Proofs.Value.Carried

/-!
# Schema — keywords at sites of twins

A keyword takes what it needs from its site: what it says itself and what other keywords of its schema
say, the value, and the verdicts of the schemas within its schema.  Where containers lie it never asks,
but for two things that twins rule out: a container inside itself, and a key with a container in it.  So
at sites of twins each keyword gives rise to verdicts that agree.

There is one lemma for each keyword, and one for each step that several of them have in common: names
that a value has to have (`Rules.eachName_twins`), items that meet one schema or one each
(`Rules.itemsFrom_twins`, `Rules.itemsInTurn_twins`), members that no other keyword speaks of
(`Rules.additionalMembers_twins`), what is asked for the sake of a key (`Rules.perKey_twins`), a schema
that was found elsewhere (`Rules.elsewhere_twins`).  The keywords about what no other keyword has looked
at search the schema first and come later.
-/

namespace YamlAudit

namespace Rules

variable {s t : Site} {a b : Applier} {u u' : Store} {v w x y : Value}
  {vs ws : List Value}

/-! ### Types -/

theorem namedTypes_twins (h : s.Twins t) :
    Except.Rel (List.Forall₂ (s.AreTwins t)) (namedTypes s) (namedTypes t) := by
  have hrule := h.rule
  unfold namedTypes Site.asked Site.ruleDatum
  generalize s.rule = v, t.rule = w at hrule ⊢
  have hparts := hrule.parts
  cases hrule.shape with
  | leaf hleaf =>
      cases v with
      | text => exact .ok (.cons hrule .nil)
      | _ => exact hparts
  | tuple | list | mapping | ordered => exact hparts

/-- Types that are twins in any stores have the value, or both do not. -/
theorem isOfType_twins (h : s.Twins t) (hxy : Twin u u' x y) (hvw : Twin u u' v w) :
    isOfType s ⟨u, x⟩ v = isOfType t ⟨u', y⟩ w := by
  unfold isOfType
  dsimp only [Datum.sibling]
  rw [hvw.asKey, h.scope, h.given, hvw.literal, hxy.layout]

/-- A condition that has one answer for related things holds of some of them on both sides or on
neither, and is asked of as many. -/
theorem anyOk_eq_of_forall₂ {α β : Type} {R : α → β → Prop} {as : List α} {bs : List β}
    {f : α → Except SchemaFault Bool} {g : β → Except SchemaFault Bool}
    (h : List.Forall₂ R as bs) (hfg : ∀ a b, R a b → f a = g b) : anyOk f as = anyOk g bs := by
  induction h with
  | nil => rfl
  | cons hab _ ih => rw [anyOk, anyOk, hfg _ _ hab, ih]

/-- The types that are named are twins, so the value is of one of them at both sites or at neither.
-/
theorem type_twins (h : s.Twins t) : s.Agree t (type s) (type t) :=
  .onOk (namedTypes_twins h) fun _ _ htypes =>
    .onOk_same (anyOk_eq_of_forall₂ htypes fun _ _ hvw => isOfType_twins h h.schema hvw)
      fun _ => h.demand rfl (h.remarkOn _ htypes)

/-- A schema among types is told by its name, which is the same. -/
theorem typeLiteral_twins (hvw : Twin u u' v w) : typeLiteral ⟨u, x⟩ v = typeLiteral ⟨u', y⟩ w := by
  have hname := hvw.member? "name"
  unfold typeLiteral Datum.sibling
  dsimp only
  rw [hvw.said]
  generalize Datum.member? ⟨u, v⟩ "name" = p, Datum.member? ⟨u', w⟩ "name" = q at hname ⊢
  cases hname with
  | none => rfl
  | some hname =>
      obtain ⟨hname⟩ := hname
      rw [Option.map_some, Option.map_some, hname.said]

/-- The types are asked for in the stores of two schemas, which need not be those of the registries.
-/
theorem typesOrSchemas_twins (h : s.Twins t)
    (hab : s.ApplyAlike t a b) (hxy : Twin u u' x y)
    (hvs : List.Forall₂ (fun v w => s.AreTwins t v w ∧ Twin u u' v w) vs ws) :
    s.Agree t (typesOrSchemas a s ⟨u, x⟩ vs) (typesOrSchemas b t ⟨u', y⟩ ws) := by
  unfold typesOrSchemas
  refine .onOk_same (anyOk_eq_of_forall₂ hvs fun v w hvw => ?_) fun holds => h.demand rfl ?_
  · have hgo : (if s.isSchemaMapping v then do
          return (← (s.descend a v s.subject none).complete).isEmpty
        else isOfType s ⟨u, x⟩ v) = if t.isSchemaMapping w then do
          return (← (t.descend b w t.subject none).complete).isEmpty
        else isOfType t ⟨u', y⟩ w := by
      rw [Site.Twins.isSchemaMapping hvw.1, isOfType_twins h hxy hvw.2, ← h.subject,
        (h.descend hab hvw.1 s.subject none).holds]
    cases hvw.1.shape with
    | leaf => split <;> first | rfl | exact hgo
    | tuple | list | mapping | ordered => exact hgo
  · rw [h.given]
    refine bind_congr fun _ => congrArg (· >>= _) ?_
    exact Except.mapM_eq_of_forall₂ hvs fun _ _ hvw => typeLiteral_twins hvw.2

theorem typeOrSchema_twins (h : s.Twins t)
    (hab : s.ApplyAlike t a b) :
    s.Agree t (typeOrSchema a s) (typeOrSchema b t) :=
  .onOk (namedTypes_twins h) fun _ _ htypes =>
    typesOrSchemas_twins h hab h.schema (htypes.imp fun _ _ hvw => ⟨hvw, hvw⟩)

/-! ### Given values -/

theorem isAlike_twins (h : s.Twins t) (hvw : s.AreTwins t v w) : isAlike s v = isAlike t w := by
  rw [isAlike, isAlike, ← h.data, ← h.subject]
  exact hvw.alikeAcross s.subject

theorem const_twins (h : s.Twins t) : s.Agree t (const s) (const t) :=
  h.demand (isAlike_twins h h.rule) (congrArg (· >>= _) h.rule.said)

/-- A value that is alike one of the given ones is alike its twin. -/
theorem enum_twins (h : s.Twins t) : s.Agree t (enum s) (enum t) :=
  .onOk h.rule.parts fun _ _ hvalues =>
    h.demand (any_eq_of_forall₂ hvalues fun _ _ hvw => isAlike_twins h hvw)
      (h.remarkOn _ (.cons h.rule .nil))

/-! ### Numbers -/

theorem limit_twins (h : s.Twins t) (beyond : Relation) (relation side : String) :
    s.Agree t (limit s beyond relation side) (limit t beyond relation side) := by
  unfold limit
  rw [h.isA]
  split
  · exact .clean
  · refine .onOk_same ?_ fun _ => h.demand rfl (h.remarkOn _ (.cons h.rule .nil))
    rw [h.given]
    exact h.rule.compares t.given beyond

/-- A keyword is switched on in both schemas or in neither. -/
theorem switchedOn_twins (h : s.Twins t) (word : String) : switchedOn s word = switchedOn t word :=
  optionRel_elim (f := fun x => (x.map Datum.isTruthy).getD false)
    (g := fun y => (y.map Datum.isTruthy).getD false) (h.beside? word) rfl
    fun _ _ ⟨hvw⟩ => hvw.isTruthy

theorem minimumOrAbove_twins (h : s.Twins t) :
    s.Agree t (minimumOrAbove s) (minimumOrAbove t) := by
  unfold minimumOrAbove
  rw [switchedOn_twins h]
  split <;> exact limit_twins h _ _ _

theorem maximumOrBelow_twins (h : s.Twins t) :
    s.Agree t (maximumOrBelow s) (maximumOrBelow t) := by
  unfold maximumOrBelow
  rw [switchedOn_twins h]
  split <;> exact limit_twins h _ _ _

theorem multipleOf_twins (h : s.Twins t) : s.Agree t (multipleOf s) (multipleOf t) := by
  unfold multipleOf
  rw [h.isA]
  split
  · exact .clean
  · refine .onOk_same ?_ fun _ => h.demand rfl (h.remarkOn _ (.cons h.rule .nil))
    rw [h.given]
    exact h.rule.isMultiple t.given

/-! ### Sizes and texts -/

theorem sizeDatum_twins (h : s.Twins t) (n : Nat) : sizeDatum s n = sizeDatum t n := h.dataDatum _

/-- A size is below the limit of both or of neither. -/
theorem least_twins (h : s.Twins t) (n : Nat) (otherwise : String) :
    s.Agree t (least s n otherwise) (least t n otherwise) := by
  refine .onOk_same ?_ fun _ => h.demand rfl ?_
  · rw [sizeDatum_twins h]
    exact h.rule.compares _ _
  · rw [h.rule.sameNumber, h.remark]

/-- A size is above the limit of both or of neither. -/
theorem most_twins (h : s.Twins t) (n : Nat) (otherwise : String) :
    s.Agree t (most s n otherwise) (most t n otherwise) := by
  refine .onOk_same ?_ fun _ => h.demand rfl ?_
  · rw [sizeDatum_twins h]
    exact h.rule.compares _ _
  · rw [h.rule.sameNumber, h.remark]

theorem minLength_twins (h : s.Twins t) : s.Agree t (minLength s) (minLength t) := by
  unfold minLength textLength?
  rw [h.subject]
  split
  · exact least_twins h _ _
  · exact .clean

theorem maxLength_twins (h : s.Twins t) : s.Agree t (maxLength s) (maxLength t) := by
  unfold maxLength textLength?
  rw [h.subject]
  split
  · exact most_twins h _ _
  · exact .clean

/-- Twins stand for one pattern. -/
theorem pattern_twins (h : s.Twins t) : s.Agree t (pattern s) (pattern t) := by
  unfold pattern
  rw [h.subject]
  split
  · exact .onOk_same h.rule.pattern fun _ => h.demand rfl (h.remarkOn _ (.cons h.rule .nil))
  · exact .clean

/-- No format but that of patterns is looked at, and its name is a leaf. -/
theorem format_twins (h : s.Twins t) : s.Agree t (format s) (format t) := by
  have hrule := h.rule
  have hremark := h.remark " is not a 'regex'"
  have hviolation := h.violation hremark
  unfold format
  rw [h.formats, h.subject]
  generalize s.rule = v, t.rule = w at hrule ⊢
  cases hrule.shape with
  | leaf =>
      split
      · split
        · exact .clean
        · split
          · exact hviolation
          · exact .stop _
      · exact .clean
  | tuple | list | mapping | ordered => cases t.formats <;> exact .clean

/-! ### Lists -/

theorem extras_twins (h : s.Twins t) (values : List Value) : extras s values = extras t values := by
  rw [extras, extras, h.data]

theorem minItems_twins (h : s.Twins t) : s.Agree t (minItems s) (minItems t) := by
  unfold minItems
  rw [h.items?]
  split
  · exact least_twins h _ _
  · exact .clean

theorem maxItems_twins (h : s.Twins t) : s.Agree t (maxItems s) (maxItems t) := by
  unfold maxItems
  rw [h.items?]
  split
  · exact most_twins h _ _
  · exact .clean

theorem uniqueItems_twins (h : s.Twins t) : s.Agree t (uniqueItems s) (uniqueItems t) := by
  unfold uniqueItems
  rw [h.items?, h.data]
  split
  · exact h.demand (congrArg (fun asked => !(asked && _)) h.rule.isTruthy) (h.remark _)
  · exact .clean

/-- Items meet one schema, each at its position. -/
theorem itemsFrom_twins (h : s.Twins t) (hab : s.ApplyAlike t a b) (hvw : s.AreTwins t v w) (n : Nat)
    (items : List Value) : s.Agree t (itemsFrom a s v n items) (itemsFrom b t w n items) :=
  .each_same fun _ _ => h.descend hab hvw _ _

/-- Items meet the schemas at their positions, which are twins. -/
theorem itemsInTurn_twins (h : s.Twins t) (hab : s.ApplyAlike t a b) (items : List Value) :
    s.Agree t (itemsInTurn a s items) (itemsInTurn b t items) := by
  refine .onOk h.rule.parts fun schemas schemas' hschemas =>
    .each (forall₂_zip hschemas items.zipIdx) ?_
  rintro ⟨p, v⟩ ⟨_, w⟩ ⟨rfl, hvw⟩
  exact h.descend hab hvw _ _

/-- As many items have a schema of their own at both sites. -/
theorem lengthBeside_twins (h : s.Twins t) (word : String) :
    lengthBeside s word = lengthBeside t word := by
  have hword := h.beside? word
  unfold lengthBeside
  generalize s.beside? word = x, t.beside? word = y at hword ⊢
  cases hword with
  | none => rfl
  | some hvw =>
      obtain ⟨hvw⟩ := hvw
      exact hvw.size

/-- The items that are left meet one schema, or are too many at both sites. -/
theorem items_twins (h : s.Twins t) (hab : s.ApplyAlike t a b) :
    s.Agree t (items a s) (items b t) := by
  have hviolation (message : Except SchemaFault String) :
      s.Agree t (s.violation message) (t.violation message) := h.violation rfl
  have hrule := h.rule
  unfold items
  rw [h.items?, h.data]
  split
  · exact .clean
  · refine .onOk_same (lengthBeside_twins h _) fun leading => ?_
    generalize s.rule = v, t.rule = w at hrule ⊢
    generalize List.drop leading _ = rest
    cases rest with
    | nil => exact .clean
    | cons item rest =>
        have hgo := itemsFrom_twins h hab hrule leading (item :: rest)
        cases hrule.shape with
        | leaf =>
            cases v with
            | bool holds =>
                cases holds with
                | true => exact hgo
                | false => exact hviolation _
            | _ => exact hgo
        | tuple | list | mapping | ordered => exact hgo

theorem leadingItems_twins (h : s.Twins t) (hab : s.ApplyAlike t a b) :
    s.Agree t (leadingItems a s) (leadingItems b t) := by
  unfold leadingItems
  rw [h.items?]
  split
  · exact .clean
  · exact itemsInTurn_twins h hab _

/-- Both schemas hold for all items, or both have one for each. -/
theorem itemsByPosition_twins (h : s.Twins t) (hab : s.ApplyAlike t a b) :
    s.Agree t (itemsByPosition a s) (itemsByPosition b t) := by
  have hmapping : s.asked.isMapping = t.asked.isMapping := h.rule.isMapping
  have hlist : s.asked.items?.isNone = t.asked.items?.isNone :=
    optionRel_elim h.rule.items? rfl fun _ _ _ => rfl
  unfold itemsByPosition
  dsimp only
  rw [h.items?, h.scope, hmapping, hlist]
  split
  · exact .clean
  · generalize (if decide (t.scope.draft = .draft3) || decide (t.scope.draft = .draft4)
      then t.asked.isMapping else t.asked.items?.isNone) = single
    split
    · exact itemsFrom_twins h hab h.rule _ _
    · exact itemsInTurn_twins h hab _

/-- The items behind those with a schema of their own are the same at both sites. -/
theorem additionalItems_twins (h : s.Twins t) (hab : s.ApplyAlike t a b) :
    s.Agree t (additionalItems a s) (additionalItems b t) := by
  have hsingle : ((s.beside? "items").map Datum.isMapping).getD true =
      ((t.beside? "items").map Datum.isMapping).getD true :=
    optionRel_elim (f := fun x => (x.map Datum.isMapping).getD true)
      (g := fun y => (y.map Datum.isMapping).getD true) (h.beside? "items") rfl
      fun _ _ ⟨hvw⟩ => hvw.isMapping
  have hmapping : s.asked.isMapping = t.asked.isMapping := h.rule.isMapping
  have htruthy : s.asked.isTruthy = t.asked.isTruthy := h.rule.isTruthy
  unfold additionalItems
  dsimp only
  rw [hsingle, h.items?]
  split
  · exact .clean
  · split
    · exact .clean
    · refine .onOk_same (lengthBeside_twins h _) fun n => ?_
      rw [hmapping, htruthy]
      split
      · exact itemsFrom_twins h hab h.rule _ _
      · split
        · exact h.violation (by rw [extras_twins h])
        · exact .clean

theorem contains_twins (h : s.Twins t) (hab : s.ApplyAlike t a b) :
    s.Agree t (contains a s) (contains b t) := by
  unfold contains
  rw [h.items?, h.given]
  split
  · exact .clean
  · refine .onOk_same (congrArg (anyOk · _) ?_) fun holds => h.demand rfl rfl
    exact funext fun item => h.accepts hab h.rule item

/-- The same items are valid, so the count goes beyond its limit at the same item. -/
theorem countValid_twins (h : s.Twins t) (hab : s.ApplyAlike t a b) (hxy : Twin u u' x y) (count : Nat)
    (items : List Value) :
    countValid a s ⟨u, x⟩ count items = countValid b t ⟨u', y⟩ count items := by
  induction items generalizing count with
  | nil => rfl
  | cons item rest ih =>
      rw [countValid, countValid, h.accepts hab h.rule, sizeDatum_twins h, hxy.compares]
      simp only [ih]

/-- A limit that is not given is a number, and the same at both sites. -/
theorem containsCounted_twins (h : s.Twins t) (hab : s.ApplyAlike t a b) :
    s.Agree t (containsCounted a s) (containsCounted b t) := by
  -- a bound that is missing has a number in its place, which is the same at both sites
  have hbeside : ∀ (word : String) (n : Int), TwinData s.registry.store t.registry.store
      ((s.beside? word).getD (s.ruleDatum (.int n))) ((t.beside? word).getD (t.ruleDatum (.int n))) := by
    intro word n
    have hword := h.beside? word
    generalize s.beside? word = x, t.beside? word = y at hword ⊢
    cases hword with
    | none => exact .intro (.leaf trivial)
    | some hword => exact hword
  unfold containsCounted
  rw [h.items?]
  split
  · exact .clean
  next all _ =>
    have hlow := hbeside "minContains" 1
    have hhigh := hbeside "maxContains" all.length
    dsimp only
    generalize (s.beside? "minContains").getD _ = low, (t.beside? "minContains").getD _ = low'
      at hlow ⊢
    generalize (s.beside? "maxContains").getD _ = high, (t.beside? "maxContains").getD _ = high'
      at hhigh ⊢
    obtain ⟨hlow⟩ := hlow
    obtain ⟨hhigh⟩ := hhigh
    rw [h.scope]
    refine .onOk_same (h.rule.within _) fun _ => .onOk_same (countValid_twins h hab hhigh 0 all) ?_
    rintro ⟨count, tooMany⟩
    dsimp only
    split
    · exact h.violationOf _ hhigh (by rw [hhigh.told])
    · rw [sizeDatum_twins h]
      refine .onOk_same (hlow.compares _ _) fun below => ?_
      split
      · exact .clean
      · split
        · exact h.violation (h.remark _)
        · exact h.violationOf _ hlow (by rw [hlow.told])

/-! ### Several schemas -/

theorem allOf_twins (h : s.Twins t) (hab : s.ApplyAlike t a b) :
    s.Agree t (allOf a s) (allOf b t) := by
  refine .onOk h.rule.parts fun _ _ hschemas => .each hschemas fun v w hvw => ?_
  rw [← h.subject]
  exact h.descend hab hvw _ _

/-- Twins both hold of the value, all of them looked at, or neither does. -/
theorem holdsUnder_twins (h : s.Twins t) (hab : s.ApplyAlike t a b) (hvw : s.AreTwins t v w) :
    holdsUnder a s v = holdsUnder b t w := by
  unfold holdsUnder
  rw [← h.subject]
  exact (h.descend hab hvw _ _).holds

theorem underNone_twins (h : s.Twins t) : s.Agree t (underNone s) (underNone t) :=
  h.violation (h.remark _)

theorem anyOf_twins (h : s.Twins t) (hab : s.ApplyAlike t a b) :
    s.Agree t (anyOf a s) (anyOf b t) := by
  refine .onOk h.rule.parts fun _ _ hschemas =>
    .onOk_same (anyOk_eq_of_forall₂ hschemas fun _ _ hvw => holdsUnder_twins h hab hvw) fun holds => ?_
  cases holds with
  | true => exact .clean
  | false => exact underNone_twins h

/-- The first schemas that hold are twins, and so are those after them. -/
theorem firstHolding_twins (h : s.Twins t) (hab : s.ApplyAlike t a b)
    (hvs : List.Forall₂ (s.AreTwins t) vs ws) :
    Except.Rel (Option.Rel fun p q => s.AreTwins t p.1 q.1 ∧ List.Forall₂ (s.AreTwins t) p.2 q.2)
      (firstHolding a s vs) (firstHolding b t ws) := by
  induction hvs with
  | nil => exact .ok .none
  | cons hvw hrest ih =>
      rw [firstHolding, firstHolding, holdsUnder_twins h hab hvw]
      refine (Except.Rel.refl _).bind ?_
      rintro holds _ rfl
      cases holds with
      | true => exact .ok (.some ⟨hvw, hrest⟩)
      | false => exact ih

/-- The schemas that hold are twins, one after the other. -/
theorem acceptedBy_twins (h : s.Twins t) (hab : s.ApplyAlike t a b)
    (hvs : List.Forall₂ (s.AreTwins t) vs ws) :
    Except.Rel (List.Forall₂ (s.AreTwins t)) (acceptedBy a s vs) (acceptedBy b t ws) := by
  induction hvs with
  | nil => exact .ok .nil
  | cons hvw _ ih =>
      rw [acceptedBy, acceptedBy, ← h.subject, h.accepts hab hvw]
      refine (Except.Rel.refl _).bind ?_
      rintro holds _ rfl
      refine ih.bind fun _ _ hothers => .ok ?_
      cases holds with
      | true => exact .cons hvw hothers
      | false => exact hothers

/-- The schemas that hold besides the first are twins, and are listed alike. -/
theorem oneOf_twins (h : s.Twins t) (hab : s.ApplyAlike t a b) :
    s.Agree t (oneOf a s) (oneOf b t) := by
  refine .onOk h.rule.parts fun _ _ hschemas =>
    .onOk (firstHolding_twins h hab hschemas) fun x y hxy => ?_
  cases hxy with
  | none => exact underNone_twins h
  | some hfirst =>
      obtain ⟨hfirst, hrest⟩ := hfirst
      exact .onOk (acceptedBy_twins h hab hrest) fun _ _ hmore =>
        h.demand (isEmpty_eq_of_forall₂ hmore)
          (h.remarkOn _ (List.rel_append hmore (.cons hfirst .nil)))

theorem not_twins (h : s.Twins t) (hab : s.ApplyAlike t a b) : s.Agree t (not a s) (not b t) := by
  refine .onOk_same ?_ fun holds => h.demand rfl (h.remarkOn _ (.cons h.rule .nil))
  rw [← h.subject]
  exact h.accepts hab h.rule _

/-- The value is valid under both conditions or under neither, so both sites go on with what stands
under the same word. -/
theorem condition_twins (h : s.Twins t) (hab : s.ApplyAlike t a b) :
    s.Agree t (condition a s) (condition b t) := by
  have haccepts := h.accepts hab h.rule s.subject
  rw [condition, condition, ← h.subject]
  refine .onOk_same haccepts fun holds => ?_
  have hword := h.beside? (if holds then "then" else "else")
  generalize s.beside? _ = x, t.beside? _ = y at hword ⊢
  cases hword with
  | none => exact .clean
  | some hword =>
      obtain ⟨hvw⟩ := hword
      exact h.descend hab hvw _ _

theorem extending_twins (h : s.Twins t) (hab : s.ApplyAlike t a b) :
    s.Agree t (extending a s) (extending b t) := by
  have hmapping : s.asked.isMapping = t.asked.isMapping := h.rule.isMapping
  unfold extending
  rw [hmapping, ← h.subject]
  split
  · exact h.descend hab h.rule _ _
  · exact allOf_twins h hab

/-- A schema that is made up for a type is added to the store the type is in. -/
theorem extends_schemaOfType (u : Store) (v : Value) : u.Extends (schemaOfType ⟨u, v⟩).store :=
  (u.extends_add _).trans (Store.extends_add _ _)

/-- Schemas that ask for twins are twins. -/
theorem schemaOfType_twins (h : Twin u u' v w) :
    Twin (schemaOfType ⟨u, v⟩).store (schemaOfType ⟨u', w⟩).store (schemaOfType ⟨u, v⟩).value
      (schemaOfType ⟨u', w⟩).value := by
  have hitems : Twin (u.add (.list [v])).2 (u'.add (.list [w])).2 (.ref u.containers.size)
      (.ref u'.containers.size) :=
    .of_list (u.size_lt_add _) (u'.size_lt_add _) (u.get_add _) (u'.get_add _)
      (.cons (h.extend (u.extends_add _) (u'.extends_add _)) .nil)
  exact .of_mapping [("type", _)] [("type", _)] (Store.size_lt_add _ _)
    (Store.size_lt_add _ _) (Store.get_add _ _) (Store.get_add _ _)
    (.cons ⟨rfl, hitems.extend (Store.extends_add _ _) (Store.extends_add _ _)⟩ .nil)

/-- For each type a schema is made up, in a store that has grown by it. -/
theorem disallow_twins (h : s.Twins t) (hab : s.ApplyAlike t a b) :
    s.Agree t (disallow a s) (disallow b t) := by
  refine .onOk (namedTypes_twins h) fun _ _ htypes => .each htypes fun v w hvw => ?_
  have hvalid : s.Agree t (typesOrSchemas a s (schemaOfType (s.ruleDatum v)) [v])
      (typesOrSchemas b t (schemaOfType (t.ruleDatum w)) [w]) :=
    typesOrSchemas_twins h hab (schemaOfType_twins hvw)
      (.cons ⟨hvw, hvw.extend (extends_schemaOfType _ _) (extends_schemaOfType _ _)⟩ .nil)
  refine .onOk_same hvalid.valid fun holds => h.demand rfl ?_
  rw [h.given, show (s.ruleDatum v).said = (t.ruleDatum w).said from hvw.said]

/-! ### References -/

theorem elsewhere_twins (h : s.Twins t) (hab : s.ApplyAlike t a b)
    {found found' : Except SchemaFault (Value × Scope)}
    (hfound : Except.Rel (ScopedTwins s.registry.store t.registry.store) found found') :
    s.Agree t (elsewhere a s found) (elsewhere b t found') := by
  refine .onOk hfound ?_
  rintro ⟨v, scope⟩ ⟨w, _⟩ ⟨hvw, rfl⟩
  dsimp only
  rw [← h.scope, ← h.subject]
  exact h.applyHere hab _ _ hvw _

/-- A reference leads to twins. -/
theorem reference_twins (h : s.Twins t) (hab : s.ApplyAlike t a b) :
    s.Agree t (reference a s) (reference b t) := by
  refine elsewhere_twins h hab ?_
  rw [← h.scope]
  exact h.registry.follow _ _ h.rule

theorem recursiveReference_twins (h : s.Twins t) (hab : s.ApplyAlike t a b) :
    s.Agree t (recursiveReference a s) (recursiveReference b t) := by
  refine elsewhere_twins h hab ?_
  rw [← h.scope]
  exact h.registry.lookupRecursive _ _

/-! ### Members -/

theorem minProperties_twins (h : s.Twins t) : s.Agree t (minProperties s) (minProperties t) := by
  unfold minProperties
  rw [h.entries?]
  split
  · exact least_twins h _ _
  · exact .clean

theorem maxProperties_twins (h : s.Twins t) : s.Agree t (maxProperties s) (maxProperties t) := by
  unfold maxProperties
  rw [h.entries?]
  split
  · exact most_twins h _ _
  · exact .clean

/-- Names that are keys of the value at one site are keys of it at the other. -/
theorem eachName_twins (h : s.Twins t) (hvs : List.Forall₂ (s.AreTwins t) vs ws)
    (es : List (Value × Value)) {message message' : Datum → Except SchemaFault String}
    (hmessage : ∀ v w, s.AreTwins t v w → message (s.ruleDatum v) = message' (t.ruleDatum w)) :
    s.Agree t (eachName s es vs message) (eachName t es ws message') := by
  refine .each hvs fun v w hvw => .onOk hvw.asKey_twins ?_
  rintro key _ ⟨rfl, hkey⟩
  exact h.demand rfl (hmessage _ _ hkey)

theorem required_twins (h : s.Twins t) : s.Agree t (required s) (required t) := by
  unfold required
  rw [h.entries?]
  split
  · exact .clean
  · exact .onOk h.rule.parts fun _ _ hnames => eachName_twins h hnames _ fun _ _ hname =>
      congrArg (· >>= _) hname.said

/-- A member meets the schemas under its key, which are twins. -/
theorem properties_twins (h : s.Twins t) (hab : s.ApplyAlike t a b) :
    s.Agree t (properties a s) (properties b t) := by
  unfold properties
  rw [h.entries?]
  split
  · exact .clean
  · refine .onOk (h.rule.entriesBy _) fun _ _ hschemas => .each hschemas ?_
    rintro ⟨key, v⟩ ⟨_, w⟩ ⟨rfl, -, -, hvw⟩
    dsimp only
    rw [h.segment]
    split
    · exact h.descend hab hvw _ _
    · exact .clean

/-- The schemas under a key that is missing ask for it both or neither. -/
theorem propertiesOrRequired_twins (h : s.Twins t) (hab : s.ApplyAlike t a b) :
    s.Agree t (propertiesOrRequired a s) (propertiesOrRequired b t) := by
  unfold propertiesOrRequired
  rw [h.entries?]
  split
  · exact .clean
  · refine .onOk (h.rule.entriesBy _) fun _ _ hschemas => .each hschemas ?_
    rintro ⟨key, v⟩ ⟨_, w⟩ ⟨rfl, -, hkey, hvw⟩
    dsimp only
    rw [h.segment]
    split
    · exact h.descend hab hvw _ _
    · refine .onOk (hvw.under _) fun x y hxy => ?_
      cases hxy with
      | none => exact .clean
      | some hwanted =>
          obtain ⟨hwanted⟩ := hwanted
          dsimp only
          rw [hwanted.isTruthy]
          split
          · exact .clean
          · exact (h.violationOf _ hwanted (congrArg (· >>= _) hkey.said)).under _

/-- The patterns are keys of twins, so the same are found in a key. -/
theorem patternProperties_twins (h : s.Twins t) (hab : s.ApplyAlike t a b) :
    s.Agree t (patternProperties a s) (patternProperties b t) := by
  unfold patternProperties
  rw [h.entries?]
  split
  · exact .clean
  · refine .onOk (h.rule.entriesBy _) fun _ _ hschemas => .each hschemas fun p q hpq => ?_
    split
    · exact .clean
    · refine .onOk_same hpq.keyed.pattern fun pattern => .each_same fun e _ => ?_
      rw [h.segment]
      split
      · exact h.descend hab hpq.value _ _
      · exact .clean

theorem propertyNames_twins (h : s.Twins t) (hab : s.ApplyAlike t a b) :
    s.Agree t (propertyNames a s) (propertyNames b t) := by
  unfold propertyNames
  rw [h.entries?]
  split
  · exact .clean
  · exact .each_same fun _ _ => h.descend hab h.rule _ _

/-! ### Additional members -/

theorem patternTexts_twins (hvs : List.Forall₂ (s.AreTwins t) vs ws) (n : Nat) :
    patternTexts s n vs = patternTexts t n ws := by
  induction hvs generalizing n with
  | nil => rfl
  | @cons v w _ _ hvw _ ih =>
      have hother : (.error (.patternAmong n (s.ruleDatum v).kindName) :
          Except SchemaFault (List String)) = .error (.patternAmong n (t.ruleDatum w).kindName) :=
        congrArg (fun kind => Except.error (SchemaFault.patternAmong n kind)) hvw.kindName
      cases hvw.shape with
      | leaf hleaf =>
          cases v with
          | text => exact congrArg (Except.map _) (ih (n + 1))
          | _ => exact hother
      | tuple | list | mapping | ordered => exact hother

/-- Patterns that are twins are joined to the same pattern. -/
theorem joinedPatterns_twins (h : s.Twins t) : joinedPatterns s = joinedPatterns t := by
  have hpatterns := h.beside? "patternProperties"
  unfold joinedPatterns
  generalize s.beside? "patternProperties" = x, t.beside? "patternProperties" = y at hpatterns ⊢
  cases hpatterns with
  | none => rfl
  | some hpatterns =>
      obtain @⟨v, w, hvw⟩ := hpatterns
      have hparts := hvw.parts
      dsimp only
      generalize Datum.parts ⟨_, v⟩ = x, Datum.parts ⟨_, w⟩ = y at hparts ⊢
      cases hparts with
      | error => rfl
      | ok hsources => exact congrArg (· >>= _) (patternTexts_twins hsources 0)

/-- A key of the value is named in both schemas or in neither; nothing in it may be told apart by
where it lies. -/
theorem isNamed_twins (h : s.Twins t) {key : Value} (hkey : key.IsOwn) :
    isNamed s key = isNamed t key := by
  have hnamed := h.beside? "properties"
  unfold isNamed
  generalize s.beside? "properties" = x, t.beside? "properties" = y at hnamed ⊢
  cases hnamed with
  | none => rfl
  | some hnamed =>
      obtain ⟨hvw⟩ := hnamed
      exact hvw.finds hkey

/-- The same members are left over at both sites. -/
theorem additionalMembers_twins (h : s.Twins t) {es : List (Value × Value)}
    (hes : ∀ e ∈ es, e.1.IsOwn) : additionalMembers s es = additionalMembers t es := by
  unfold additionalMembers
  rw [joinedPatterns_twins h]
  refine bind_congr fun source => Except.filterM_congr fun e he => ?_
  have hpattern : Site.pattern (s.ruleDatum (.text source)) =
      Site.pattern (t.ruleDatum (.text source)) := rfl
  rw [isNamed_twins h (hes e he), hpattern]

/-- Twins have the same literals, and so the same order. -/
theorem sortedLiterals_twins (hvs : List.Forall₂ (s.AreTwins t) vs ws) :
    sortedLiterals s.registry.store vs = sortedLiterals t.registry.store ws :=
  congrArg (· >>= _) (Except.mapM_eq_of_forall₂ hvs fun _ _ hvw => hvw.said)

/-- The members left over meet one schema, or are named in one message. -/
theorem additionalProperties_twins (h : s.Twins t) (hab : s.ApplyAlike t a b) :
    s.Agree t (additionalProperties a s) (additionalProperties b t) := by
  have hkeys := h.keys s.subject
  have hmapping : s.asked.isMapping = t.asked.isMapping := h.rule.isMapping
  have htruthy : s.asked.isTruthy = t.asked.isTruthy := h.rule.isTruthy
  have hpatterns := h.beside? "patternProperties"
  have hentries : s.entries? = s.data.entries? s.subject := rfl
  unfold additionalProperties
  rw [← h.entries?, hentries]
  cases hes : s.data.entries? s.subject with
  | none => exact .clean
  | some es =>
      refine .onOk_same (additionalMembers_twins h (hkeys es hes)) fun extra => ?_
      dsimp only
      rw [hmapping, htruthy]
      split
      · refine .each_same fun e _ => ?_
        rw [h.segment]
        exact h.descend hab h.rule _ _
      · split
        · exact .clean
        · generalize s.beside? "patternProperties" = x, t.beside? "patternProperties" = y
            at hpatterns ⊢
          cases hpatterns with
          | none =>
              refine h.violation ?_
              rw [extras_twins h]
              simp only [h.dataDatum]
          | some hpatterns =>
              obtain ⟨hvw⟩ := hpatterns
              refine h.violation ?_
              rw [h.data]
              refine bind_congr fun _ => hvw.parts.bind_eq fun _ _ hsources => ?_
              rw [sortedLiterals_twins hsources]

/-! ### Members that depend on others -/

theorem dependsOn_twins (h : s.Twins t) (es : List (Value × Value)) (hxy : s.AreTwins t x y)
    (hvs : List.Forall₂ (s.AreTwins t) vs ws) :
    s.Agree t (dependsOn s es x vs) (dependsOn t es y ws) := by
  refine eachName_twins h hvs es fun v w hvw => ?_
  rw [show (s.ruleDatum v).said = (t.ruleDatum w).said from hvw.said,
    show (s.ruleDatum x).said = (t.ruleDatum y).said from hxy.said]

/-- What is asked for the sake of a key is asked at both sites, of twins under that key. -/
theorem perKey_twins (h : s.Twins t)
    {judge judge' : List (Value × Value) → Value → Value → Verdict}
    (hjudge : ∀ es x y v w, s.AreTwins t x y → s.AreTwins t v w →
      s.Agree t (judge es x v) (judge' es y w)) : s.Agree t (perKey s judge) (perKey t judge') := by
  unfold perKey
  rw [h.entries?]
  split
  · exact .clean
  · refine .onOk (h.rule.entriesBy _) fun _ _ hrules => .each hrules fun p q hpq => ?_
    rw [show hasKey _ p.1 = hasKey _ q.1 from congrArg _ hpq.key]
    split
    · exact hjudge _ _ _ _ _ hpq.keyed hpq.value
    · exact .clean

theorem dependentRequired_twins (h : s.Twins t) :
    s.Agree t (dependentRequired s) (dependentRequired t) :=
  perKey_twins h fun es _ _ _ _ hkey hnames =>
    .onOk hnames.parts fun _ _ hnames => dependsOn_twins h es hkey hnames

theorem dependentSchemas_twins (h : s.Twins t) (hab : s.ApplyAlike t a b) :
    s.Agree t (dependentSchemas a s) (dependentSchemas b t) :=
  perKey_twins h fun _ _ _ _ _ _ hschema => h.subject ▸ h.descend hab hschema _ _

/-- What depends on a key are names in both schemas, or schemas in both. -/
theorem dependencies_twins (h : s.Twins t) (hab : s.ApplyAlike t a b) :
    s.Agree t (dependencies a s) (dependencies b t) := by
  refine perKey_twins h fun es x y v w hkey hvw => ?_
  have hitems := hvw.items?
  dsimp only [Site.ruleDatum, Registry.datum]
  generalize Datum.items? ⟨_, v⟩ = names, Datum.items? ⟨_, w⟩ = names' at hitems ⊢
  cases hitems with
  | some hnames => exact dependsOn_twins h es hkey hnames
  | none => exact h.subject ▸ h.descend hab hvw _ _

/-- A single name may stand in the place of names. -/
theorem looseDependencies_twins (h : s.Twins t) (hab : s.ApplyAlike t a b) :
    s.Agree t (looseDependencies a s) (looseDependencies b t) := by
  refine perKey_twins h fun es x y v w hkey hvw => ?_
  rw [Site.Twins.isSchemaMapping hvw, ← h.subject]
  have hgo : s.Agree t (.onOk (s.ruleDatum v).parts (dependsOn s es x))
      (.onOk (t.ruleDatum w).parts (dependsOn t es y)) :=
    .onOk hvw.parts fun _ _ hnames => dependsOn_twins h es hkey hnames
  split
  · exact h.descend hab hvw _ _
  · cases hvw.shape with
    | leaf =>
        cases v with
        | text => exact dependsOn_twins h es hkey (.cons hvw .nil)
        | _ => exact hgo
    | tuple | list | mapping | ordered => exact hgo

end Rules

end YamlAudit
