import YamlAudit.Proofs.Schema.Keywords

/-!
# Schema — what twins have looked at

The keywords about items and members that no other keyword has looked at search the schema for those
that one has, and the schemas that it refers to or that the value is valid under.  A search in twins
goes the same way: it finds the same positions (`Rules.evaluatedItems_twins`) and the same keys
(`Rules.evaluatedKeys_twins`), or the same keeps both from going on.

The data is one piece for both searches, and what they find are positions and keys of it.  So the
results are equal, and no relation between them is needed.
-/

namespace YamlAudit.Rules

variable {s t : Site} {a b : Applier} {v w : Value}

/-- A schema that was found elsewhere is at a site of the same registry. -/
theorem siteOf_twins (h : s.Twins t) (hvw : s.AreTwins t v w) (sc : Scope) :
    Except.Rel (fun σ τ => σ.Twins τ ∧ σ.registry = s.registry ∧ τ.registry = t.registry)
      (siteOf s (v, sc)) (siteOf t (w, sc)) := by
  unfold siteOf
  rw [← h.scope, show s.scope.draft.within (s.ruleDatum v) = s.scope.draft.within (t.ruleDatum w) from
    hvw.within _]
  refine (Except.Rel.refl _).bind ?_
  rintro draft _ rfl
  exact .ok ⟨⟨h.registry, h.data, h.formats, rfl, h.schema, h.word, h.rule, h.subject, h.keys⟩,
    rfl, rfl⟩

theorem evaluationDraft_twins (h : s.Twins t) : evaluationDraft s = evaluationDraft t := by
  rw [evaluationDraft, evaluationDraft, h.scope]

/-- Searches that find the same in twins, at all sites of the registries of two sites. -/
def SearchAlike {α : Type} (s t : Site) (search search' : Site → Value → Except SchemaFault (List α)) :
    Prop :=
  ∀ σ τ, σ.Twins τ → σ.registry = s.registry → τ.registry = t.registry →
    ∀ v w, s.AreTwins t v w → search σ v = search' τ w

variable {α : Type}

/-- References lead both searches on to twins. -/
theorem foundElsewhere_twins (h : s.Twins t) (old : EvaluationDraft) (hvw : s.AreTwins t v w)
    {search search' : Site → Value → Except SchemaFault (List α)}
    (hsearch : SearchAlike s t search search') :
    foundElsewhere old s (s.ruleDatum v) search = foundElsewhere old t (t.ruleDatum w) search' := by
  unfold foundElsewhere
  extract_lets go follow go' follow'
  have hgo : ∀ {found found' : Except SchemaFault (Value × Scope)},
      Except.Rel (ScopedTwins s.registry.store t.registry.store) found found' →
      go found = go' found' := by
    refine fun hfound => hfound.bind_eq ?_
    rintro ⟨v, scope⟩ ⟨w, _⟩ ⟨hvw, rfl⟩
    exact (siteOf_twins h hvw scope).bind_eq fun σ τ hσ => hsearch σ τ hσ.1 hσ.2.1 hσ.2.2 v w hvw
  have hfollow : ∀ word, follow word = follow' word := by
    refine fun word => (hvw.said? word).bind_eq fun x y hxy => ?_
    cases hxy with
    | none => rfl
    | some href =>
        obtain ⟨href⟩ := href
        exact hgo (h.scope ▸ h.registry.follow s.scope false href)
  have hrecursive := hgo (h.registry.lookupRecursive s.scope false)
  have hfinds : (s.ruleDatum v).finds (.text "$recursiveRef") =
      (t.ruleDatum w).finds (.text "$recursiveRef") := hvw.finds (by trivial)
  rw [hfollow, hfollow, hfinds, hrecursive, h.scope]

/-- A condition selects what stands under the same words. -/
theorem foundSelected_twins (h : s.Twins t) (hab : s.ApplyAlike t a b) (hvw : s.AreTwins t v w)
    {search search' : Value → Except SchemaFault (List α)}
    (hsearch : ∀ v w, s.AreTwins t v w → search v = search' w) :
    foundSelected a s (s.ruleDatum v) search = foundSelected b t (t.ruleDatum w) search' := by
  unfold foundSelected
  extract_lets go go'
  have hgo : ∀ word, go word = go' word := by
    refine fun word => (hvw.found? word).bind_eq fun x y hxy => ?_
    cases hxy with
    | none => rfl
    | some hinner =>
        obtain ⟨hinner⟩ := hinner
        exact hsearch _ _ hinner
  refine (hvw.found? "if").bind_eq fun x y hxy => ?_
  cases hxy with
  | none => rfl
  | some htest =>
      obtain ⟨htest⟩ := htest
      dsimp only
      rw [← h.subject, h.accepts hab htest, hsearch _ _ htest, hgo, hgo]

/-- The value is valid under the same schemas of a list, which are twins. -/
theorem foundJoined_twins (h : s.Twins t) (hab : s.ApplyAlike t a b) (hvw : s.AreTwins t v w)
    {search search' : Value → Except SchemaFault (List α)}
    (hsearch : ∀ v w, s.AreTwins t v w → search v = search' w) :
    foundJoined a s (s.ruleDatum v) search = foundJoined b t (t.ruleDatum w) search' := by
  refine (Except.Rel.filterMapM fun word => hvw.found? word).bind_eq fun lists lists' hlists => ?_
  refine congrArg (· >>= _) (Except.mapM_eq_of_forall₂ hlists ?_)
  rintro _ _ ⟨hlist⟩
  refine hlist.parts.bind_eq fun schemas schemas' hschemas => ?_
  refine congrArg (· >>= _) (Except.mapM_eq_of_forall₂ hschemas fun v w hvw => ?_)
  rw [← h.subject, (h.descend hab hvw s.subject none).valid, hsearch _ _ hvw]

/-- What comes of the schemas under some words, as far as there are any. -/
theorem tests_twins {β : Type} (hvw : s.AreTwins t v w) (words : List String)
    {f g : Datum → Except SchemaFault α} {k : List α → Except SchemaFault β}
    (hf : ∀ v w, s.AreTwins t v w → f (s.ruleDatum v) = g (t.ruleDatum w)) :
    (words.filterMapM (s.ruleDatum v).found? >>= fun tests => tests.mapM f >>= k) =
      words.filterMapM (t.ruleDatum w).found? >>= fun tests => tests.mapM g >>= k := by
  refine (Except.Rel.filterMapM fun word => hvw.found? word).bind_eq fun _ _ htests => ?_
  refine congrArg (· >>= k) (Except.mapM_eq_of_forall₂ htests ?_)
  rintro _ _ ⟨htest⟩
  exact hf _ _ htest

/-! ### Items -/

theorem leadingCount_twins (old : EvaluationDraft) (hvw : s.AreTwins t v w) :
    leadingCount old (s.ruleDatum v) = leadingCount old (t.ruleDatum w) := by
  have hfinds : (s.ruleDatum v).finds (.text "additionalItems") =
      (t.ruleDatum w).finds (.text "additionalItems") := hvw.finds (by trivial)
  unfold leadingCount
  cases old with
  | later =>
      refine (hvw.found? "prefixItems").bind_eq fun x y hxy => ?_
      cases hxy with
      | none => rfl
      | some hschemas =>
          obtain ⟨hschemas⟩ := hschemas
          exact congrArg (· >>= _) hschemas.size
  | draft201909 =>
      refine (hvw.found? "items").bind_eq fun x y hxy => ?_
      cases hxy with
      | none => rfl
      | some hitems =>
          obtain ⟨hitems⟩ := hitems
          dsimp only
          rw [hfinds, hitems.isMapping, hitems.size]

/-- A search in twins finds the same items. -/
theorem evaluatedItems_twins (old : EvaluationDraft) (items : List Value) (fuel : Nat)
    (h : s.Twins t) (hab : s.ApplyAlike t a b) (hvw : s.AreTwins t v w) :
    evaluatedItems a old items fuel s v = evaluatedItems b old items fuel t w := by
  induction fuel generalizing s t v w with
  | zero => rfl
  | succ fuel ih =>
      have hfinds : (s.ruleDatum v).finds (.text "items") = (t.ruleDatum w).finds (.text "items") :=
        hvw.finds (by trivial)
      have helsewhere : foundElsewhere old s (s.ruleDatum v) (evaluatedItems a old items fuel) =
          foundElsewhere old t (t.ruleDatum w) (evaluatedItems b old items fuel) := by
        refine foundElsewhere_twins h old hvw fun σ τ hσ hs ht v w hvw => ih hσ ?_ ?_
        · rwa [Site.ApplyAlike, hs, ht]
        · rwa [Site.AreTwins, hs, ht]
      have hselected := foundSelected_twins h hab hvw fun v w hvw => ih h hab hvw
      have hjoined := foundJoined_twins h hab hvw fun v w hvw => ih h hab hvw
      rcases hvw.isBool with ⟨holds, rfl, rfl⟩ | ⟨hv, hw⟩
      · rfl
      · rw [evaluatedItems.eq_3 _ _ _ _ _ _ hv, evaluatedItems.eq_3 _ _ _ _ _ _ hw]
        let test (σ : Site) (c : Applier) (d : Datum) : Except SchemaFault (List (Value × Nat)) :=
          items.zipIdx.filterM fun p => σ.accepts c d.value p.1
        have htest : ∀ v w, s.AreTwins t v w → test s a (s.ruleDatum v) = test t b (t.ruleDatum w) :=
          fun v w hvw => Except.filterM_congr fun p _ => h.accepts hab hvw p.1
        have htested := fun k : List (List (Value × Nat)) → Except SchemaFault (List Nat) =>
          tests_twins hvw ["contains", "unevaluatedItems"] (k := k) (f := test s a) (g := test t b) htest
        simp only [hfinds, helsewhere, leadingCount_twins old hvw, hselected, hjoined]
        refine ite_congr rfl (fun _ => bind_congr fun _ => ite_congr rfl (fun _ => rfl) fun _ => ?_)
          fun _ => ?_
        all_goals
          refine bind_congr fun outside => bind_congr fun count => ?_
          cases count with
          | none => rfl
          | some leading => exact bind_congr fun selected => htested _

/-! ### Members -/

theorem hasKey_twins {es fs : List (Value × Value)} (h : List.Forall₂ (SameEntry (s.AreTwins t)) es fs)
    (key : Value) : hasKey es key = hasKey fs key :=
  optionRel_elim (Twin.lookupKey h key) rfl fun _ _ _ => rfl

/-- A keyword stands for all keys in both schemas, or has the same keys itself. -/
theorem keysAsIn_twins (keys : List Value) (hvw : s.AreTwins t v w) :
    keysAsIn keys (s.ruleDatum v) = keysAsIn keys (t.ruleDatum w) := by
  unfold keysAsIn Datum.entries? Datum.container? Site.ruleDatum Registry.datum
  cases hvw.shape with
  | leaf hleaf =>
      cases v with
      | bool holds => cases holds <;> rfl
      | ref => exact hleaf.elim
      | _ => rfl
  | tuple => rfl
  | list _ _ hvs hws => simp only [hvs, hws]
  | mapping _ _ hes hfs hall | ordered _ _ hes hfs hall =>
      simp only [hes, hfs, map_eq_of_forall₂ hall fun _ _ h => h.key]

/-- A search in twins finds the same keys by the names and the schemas for members. -/
theorem directKeys_twins (h : s.Twins t) (hab : s.ApplyAlike t a b) (old : EvaluationDraft)
    (entries : List (Value × Value)) (hvw : s.AreTwins t v w) :
    directKeys a old s entries (s.ruleDatum v) = directKeys b old t entries (t.ruleDatum w) := by
  unfold directKeys
  cases old with
  | draft201909 =>
      refine (Except.Rel.filterMapM fun word => hvw.found? word).bind_eq fun _ _ hkeywords => ?_
      rw [List.flatMap_def, List.flatMap_def, map_eq_of_forall₂ hkeywords]
      rintro _ _ ⟨hkeyword⟩
      exact keysAsIn_twins _ hkeyword
  | later =>
      have hvalid : ∀ d e, TwinData s.registry.store t.registry.store d e →
          entries.filterM (fun e => (s.descend a d.value e.2 none).valid) =
            entries.filterM fun f => (t.descend b e.value f.2 none).valid := by
        rintro _ _ ⟨hvw⟩
        exact Except.filterM_congr fun e _ => (h.descend hab hvw e.2 none).valid
      -- patterns and further keys are looked up in one list of words, with each entry held against
      -- what is found
      have htests : ∀ words : List String, Except.Rel
          (List.Forall₂ (TwinData s.registry.store t.registry.store))
          (words.filterMapM (Draft.said? (s.ruleDatum v)))
          (words.filterMapM (Draft.said? (t.ruleDatum w))) := fun _ => .filterMapM hvw.said?
      refine (hvw.said? "properties").bind_eq fun x y hxy => ?_
      cases hxy with
      | none =>
          exact (htests _).bind_eq fun _ _ h =>
            congrArg (· >>= _) (Except.mapM_eq_of_forall₂ h hvalid)
      | some hnamed =>
          obtain @⟨x, y, hnamed⟩ := hnamed
          have hkeys : hasKey ((Datum.entries? ⟨s.registry.store, x⟩).getD []) =
              hasKey ((Datum.entries? ⟨t.registry.store, y⟩).getD []) :=
            optionRel_elim (f := fun es => hasKey (es.getD [])) (g := fun fs => hasKey (fs.getD []))
              hnamed.entries? rfl fun _ _ h => funext (hasKey_twins h)
          dsimp only
          rw [hkeys]
          exact (htests _).bind_eq fun _ _ h =>
            congrArg (· >>= _) (Except.mapM_eq_of_forall₂ h hvalid)

/-- The patterns of twins are found in the same keys. -/
theorem matchedKeys_twins (keys : List Value) (hvw : s.AreTwins t v w) :
    matchedKeys s keys (s.ruleDatum v) = matchedKeys t keys (t.ruleDatum w) := by
  refine (hvw.found? "patternProperties").bind_eq fun x y hxy => ?_
  cases hxy with
  | none => rfl
  | some hpatterns =>
      obtain ⟨hpatterns⟩ := hpatterns
      dsimp only
      refine ite_congr rfl (fun _ => rfl) fun _ => hpatterns.parts.bind_eq fun _ _ hsources => ?_
      refine congrArg (· >>= _) (Except.mapM_eq_of_forall₂ hsources fun _ _ hsource => ?_)
      exact congrArg (· >>= _) hsource.pattern

/-- A search in twins finds the same keys. -/
theorem evaluatedKeys_twins (old : EvaluationDraft) (entries : List (Value × Value)) (fuel : Nat)
    (h : s.Twins t) (hab : s.ApplyAlike t a b) (hvw : s.AreTwins t v w) :
    evaluatedKeys a old entries fuel s v = evaluatedKeys b old entries fuel t w := by
  -- by induction on the fuel, for all sites: a reference goes on in another scope
  induction fuel generalizing s t v w with
  | zero => rfl
  | succ fuel ih =>
      have helsewhere : foundElsewhere old s (s.ruleDatum v) (evaluatedKeys a old entries fuel) =
          foundElsewhere old t (t.ruleDatum w) (evaluatedKeys b old entries fuel) := by
        refine foundElsewhere_twins h old hvw fun σ τ hσ hs ht v w hvw => ih hσ ?_ ?_
        · rwa [Site.ApplyAlike, hs, ht]
        · rwa [Site.AreTwins, hs, ht]
      have hselected := foundSelected_twins h hab hvw fun v w hvw => ih h hab hvw
      have hjoined := foundJoined_twins h hab hvw fun v w hvw => ih h hab hvw
      rcases hvw.isBool with ⟨holds, rfl, rfl⟩ | ⟨hv, hw⟩
      · rfl
      · rw [evaluatedKeys.eq_3 _ _ _ _ _ _ hv, evaluatedKeys.eq_3 _ _ _ _ _ _ hw]
        rw [helsewhere, directKeys_twins h hab old entries hvw, matchedKeys_twins _ hvw, hjoined,
          hselected]
        refine bind_congr fun outside => bind_congr fun direct => bind_congr fun matched => ?_
        refine (hvw.found? "dependentSchemas").bind_eq fun x y hxy => ?_
        extract_lets go go'
        have hgo : ∀ es fs, List.Forall₂ (SameEntry (s.AreTwins t)) es fs → go es = go' fs := by
          refine fun es fs hes => congrArg (· >>= _) ?_
          exact Except.mapM_eq_of_forall₂
            (forall₂_filter hes fun _ _ hef => congrArg (hasKey entries) hef.key)
            fun _ _ hef => ih h hab hef.value
        cases hxy with
        | none => exact hgo [] [] .nil
        | some hschemas =>
            obtain ⟨hschemas⟩ := hschemas
            exact (hschemas.entriesBy _).bind_eq hgo

/-! ### The keywords -/

theorem unevaluatedItems_twins (h : s.Twins t) (hab : s.ApplyAlike t a b) :
    s.Agree t (unevaluatedItems a s) (unevaluatedItems b t) := by
  unfold unevaluatedItems
  rw [h.items?]
  split
  · exact .clean
  · rw [evaluationDraft_twins h]
    refine .onOk_same (evaluatedItems_twins _ _ _ h hab h.schema) fun seen => ?_
    dsimp only
    split
    · exact .clean
    · exact h.violation (by rw [extras_twins h])

/-- The keys left over meet one schema, and are named as often as there are violations under it. -/
theorem unevaluatedProperties_twins (h : s.Twins t) (hab : s.ApplyAlike t a b) :
    s.Agree t (unevaluatedProperties a s) (unevaluatedProperties b t) := by
  unfold unevaluatedProperties
  rw [h.entries?]
  split
  · exact .clean
  · rw [evaluationDraft_twins h]
    refine .onOk_same (evaluatedKeys_twins _ _ _ h hab h.schema) fun seen => ?_
    extract_lets rest repeated repeated'
    -- a key is reported once for each violation of its value; how many these are is the same
    have hrepeated : repeated = repeated' :=
      funext fun e => (h.descend hab h.rule e.2 none).complete.bind_eq fun _ _ hfound =>
        congrArg Except.ok (map_eq_of_forall₂ hfound fun _ _ _ => rfl)
    refine .onOk_same (by rw [hrepeated]) fun found => ?_
    have hviolation : ∀ start finish keys, s.Agree t
        (s.violation do return start ++ (← extras s keys) ++ finish)
        (t.violation do return start ++ (← extras t keys) ++ finish) :=
      fun _ _ keys => h.violation (by rw [extras_twins h])
    have hrule := h.rule
    generalize s.rule = v, t.rule = w at hrule ⊢
    generalize found.flatten = keys
    have hinvalid := hviolation "Unevaluated properties are not valid under the given schema ("
      " unevaluated and invalid)" keys
    cases keys with
    | nil => exact .clean
    | cons key keys =>
        cases hrule.shape with
        | leaf =>
            cases v with
            | bool holds =>
                cases holds with
                | true => exact hinvalid
                | false =>
                    dsimp only
                    simp only [h.scope, h.dataDatum]
                    exact hviolation _ _ _
            | _ => exact hinvalid
        | tuple | list | mapping | ordered => exact hinvalid

end YamlAudit.Rules
