import YamlAudit.Proofs.Schema.Twins
import YamlAudit.Proofs.Value.Carried

/-!
# Schema — searches of twins

A document is searched for schemas that give themselves names or anchors.  The schemas within twins are
twins (`Twin.subschemas`) and have the same names and anchors, but a search leaves out what it has seen
before, and twins may share what the other has several times; so searches of twins need not find
the same.  They do if only the documents themselves have names (`Registry.search_twins`): then nothing
is found further in (`Registry.search_nameless`).  What a search finds can be written out if what it
began with can (`Registry.search_written`).

That names further in make a difference is shown at the end, by two schemas that are twins and in
which a search finds different schemas under one anchor.
-/

namespace YamlAudit

/-! ### Schemas within schemas -/

namespace Twin

variable {s t : Store} {v w : Value}

theorem forall₂_values {ds es : List Datum} (h : List.Forall₂ (TwinData s t) ds es) :
    List.Forall₂ (Twin s t) (ds.map Datum.value) (es.map Datum.value) := by
  refine List.forall₂_map_left_iff.mpr (List.forall₂_map_right_iff.mpr (h.imp ?_))
  rintro _ _ ⟨hvw⟩
  exact hvw

/-- The values of a mapping are twins. -/
theorem values (h : Twin s t v w) (word : String) :
    Except.Rel (List.Forall₂ (Twin s t)) ((Datum.entriesBy ⟨s, v⟩ word).map fun es => es.map Prod.snd)
      ((Datum.entriesBy ⟨t, w⟩ word).map fun es => es.map Prod.snd) :=
  (h.entriesBy word).map fun _ _ hes =>
    List.forall₂_map_left_iff.mpr (List.forall₂_map_right_iff.mpr (hes.imp fun _ _ h => h.value))

/-- The schemas that members depend on, if the first of them is a mapping. -/
theorem dependent (h : Twin s t v w) {p q : Bool} (hpq : p = q)
    {last last' : List Value → Except SchemaFault (List Value)}
    (hlast : ∀ vs ws, List.Forall₂ (Twin s t) vs ws →
      Except.Rel (List.Forall₂ (Twin s t)) (last vs) (last' ws)) :
    Except.Rel (List.Forall₂ (Twin s t))
      (if p then pure [] >>= last
        else (Datum.entriesBy ⟨s, v⟩ "values").map (fun es => es.map Prod.snd) >>= fun
          | first :: rest => pure (if Datum.isMapping ⟨s, first⟩ then first :: rest else []) >>= last
          | [] => pure [] >>= last)
      (if q then pure [] >>= last'
        else (Datum.entriesBy ⟨t, w⟩ "values").map (fun es => es.map Prod.snd) >>= fun
          | first :: rest => pure (if Datum.isMapping ⟨t, first⟩ then first :: rest else []) >>= last'
          | [] => pure [] >>= last') := by
  subst hpq
  split
  · exact hlast _ _ .nil
  · refine (h.values "values").bind fun vs ws hvs => ?_
    cases hvs with
    | nil => exact hlast _ _ .nil
    | cons hfirst hrest =>
        refine hlast _ _ ?_
        rw [hfirst.isMapping]
        split
        · exact .cons hfirst hrest
        · exact .nil

/-- The schemas of a keyword for items, one of them or several. -/
theorem itemwise {p q : Bool} (hpq : p = q) {last last' : List Value → Except SchemaFault (List Value)}
    (hlast : ∀ vs ws, List.Forall₂ (Twin s t) vs ws →
      Except.Rel (List.Forall₂ (Twin s t)) (last vs) (last' ws)) : Twin s t v w →
    Except.Rel (List.Forall₂ (Twin s t))
      (if p then pure [] >>= last
        else match v, s.sequence? v with
          | .text _, _ | _, some _ => Datum.parts ⟨s, v⟩ >>= last
          | _, none => pure [v] >>= last)
      (if q then pure [] >>= last'
        else match w, t.sequence? w with
          | .text _, _ | _, some _ => Datum.parts ⟨t, w⟩ >>= last'
          | _, none => pure [w] >>= last') := by
  intro h
  subst hpq
  have hparts := h.parts.bind hlast
  have hsingle := hlast [v] [w] (.cons h .nil)
  have hsequence := h.sequence?
  split
  · exact hlast _ _ .nil
  · generalize s.sequence? v = vs, t.sequence? w = ws at hsequence ⊢
    cases hsequence with
    | none =>
        cases h.shape with
        | leaf =>
            cases v with
            | text => exact hparts
            | _ => exact hsingle
        | tuple | list | mapping | ordered => exact hsingle
    | some =>
        cases h.shape with
        | leaf => cases v <;> exact hparts
        | tuple | list | mapping | ordered => exact hparts

/-- The schemas within twins are twins. -/
theorem subschemas (h : Twin s t v w) (d : Draft) :
    Except.Rel (List.Forall₂ (Twin s t)) (d.subschemas ⟨s, v⟩) (d.subschemas ⟨t, w⟩) := by
  unfold Draft.subschemas
  extract_lets member values under direct additional member' under' direct' additional'
  have hunder : ∀ words, List.Forall₂ (TwinData s t) (under words) (under' words) :=
    forall₂_filterMap h.member?
  have hdirect : List.Forall₂ (Twin s t) direct direct' := forall₂_values (hunder _)
  have hadditional : List.Forall₂ (Twin s t) additional additional' := by
    dsimp only [additional, additional']
    split
    · refine forall₂_values (forall₂_filter (hunder _) ?_)
      rintro _ _ ⟨hvw⟩
      exact hvw.isMapping
    · exact .nil
  refine (Except.Rel.mapM (hunder _) (Q := List.Forall₂ (Twin s t)) ?_).bind
    fun listed listed' hlisted => ?_
  · rintro _ _ ⟨hvw⟩
    exact hvw.parts
  refine (Except.Rel.mapM (hunder _) (Q := List.Forall₂ (Twin s t)) ?_).bind
    fun named named' hnamed => ?_
  · rintro _ _ ⟨hvw⟩
    exact hvw.values _
  -- what is listed under all words, but for what `items` and `dependencies` add in between
  have hall : ∀ {as bs cs ds}, List.Forall₂ (Twin s t) as bs → List.Forall₂ (Twin s t) cs ds →
      List.Forall₂ (Twin s t)
        (direct ++ listed.flatten ++ named.flatten ++ as ++ cs ++ additional)
        (direct' ++ listed'.flatten ++ named'.flatten ++ bs ++ ds ++ additional') := fun hab hcd =>
    List.rel_append (List.rel_append (List.rel_append (List.rel_append
      (List.rel_append hdirect (List.rel_flatten hlisted)) (List.rel_flatten hnamed)) hab) hcd)
      hadditional
  extract_lets go go'
  have hgo : ∀ as bs, List.Forall₂ (Twin s t) as bs →
      Except.Rel (List.Forall₂ (Twin s t)) (go as) (go' bs) := by
    intro as bs hab
    have hdependencies := h.member? "dependencies"
    dsimp only [go, go', member, member']
    generalize Datum.member? ⟨s, v⟩ "dependencies" = x, Datum.member? ⟨t, w⟩ "dependencies" = y
      at hdependencies ⊢
    cases hdependencies with
    | none => exact .ok (hall hab .nil)
    | some hd =>
        obtain @⟨x, y, hxy⟩ := hd
        refine hxy.dependent ?_ fun _ _ hcd => .ok (hall hab hcd)
        cases hxy.shape with
        | leaf => rfl
        | tuple | list | mapping | ordered => rfl
  -- `items` is a schema or a list of schemas, and twins are both the one or both the other
  have hitems := h.member? "items"
  dsimp only [member, member']
  generalize Datum.member? ⟨s, v⟩ "items" = x, Datum.member? ⟨t, w⟩ "items" = y at hitems ⊢
  cases hitems with
  | none => exact hgo _ _ .nil
  | some hd =>
      obtain @⟨x, y, hxy⟩ := hd
      refine itemwise ?_ hgo hxy
      cases hxy.shape with
      | leaf => rfl
      | tuple | list | mapping | ordered => rfl

/-- Twins have the same anchor under a word. -/
theorem anchorUnder (h : Twin s t v w) (word : String) :
    Draft.anchorUnder ⟨s, v⟩ word = Draft.anchorUnder ⟨t, w⟩ word := by
  refine (h.said? word).bind_eq fun x y hxy => ?_
  cases hxy with
  | none => rfl
  | some hname =>
      obtain ⟨hname⟩ := hname
      exact congrArg (· >>= _) hname.asKey

/-- Twins have the same anchors. -/
theorem anchorsOf (h : Twin s t v w) (d : Draft) : d.anchorsOf ⟨s, v⟩ = d.anchorsOf ⟨t, w⟩ := by
  unfold Draft.anchorsOf
  rw [h.isPlain, h.anchorUnder, h.anchorUnder]
  refine ite_congr rfl (fun _ => rfl) fun _ => ite_congr rfl (fun _ => ?_) fun _ => rfl
  refine (h.under _).bind_eq fun x y hxy => ?_
  cases hxy with
  | none => rfl
  | some hname =>
      obtain ⟨hname⟩ := hname
      have hkind := hname.kindName
      dsimp only
      rw [hkind]
      cases hname.shape with
      | leaf => rfl
      | tuple | list | mapping | ordered => rfl

/-- Twins are searched as schemas of the same draft. -/
theorem searchedWithin (h : Twin s t v w) (d : Draft) :
    d.searchedWithin ⟨s, v⟩ = d.searchedWithin ⟨t, w⟩ := by
  unfold Draft.searchedWithin
  rw [h.isMapping]
  refine ite_congr rfl (fun _ => rfl) fun _ => (h.said? _).bind_eq fun x y hxy => ?_
  cases hxy with
  | none => rfl
  | some hname =>
      obtain ⟨hname⟩ := hname
      have hkind := hname.kindName
      dsimp only
      rw [hkind]
      cases hname.shape with
      | leaf => rfl
      | tuple | list | mapping | ordered => rfl

end Twin
/-! ### One schema -/

/-- Tables stand for twins in stores that have grown too. -/
theorem SchemaTables.Twins.extend {s s' t t' : Store} {a b : SchemaTables} (h : a.Twins s t b)
    (hs : s.Extends s') (ht : t.Extends t') : a.Twins s' t' b where
  resource name := optionRel_mono (h.resource name) fun _ _ h => ⟨h.content.extend hs ht, h.draft⟩
  anchor key := optionRel_mono (h.anchor key) fun _ _ h =>
    ⟨⟨h.1.content.extend hs ht, h.1.draft⟩, h.2⟩

section Lookup

variable {α β γ : Type} [BEq γ] {R : α → β → Prop}

/-- Related entries in front leave what is looked up related. -/
theorem lookup_append (as : List (γ × α)) (bs : List (γ × β)) {xs : List (γ × α)}
    {ys : List (γ × β)} (key : γ)
    (h : List.Forall₂ (fun e f => e.1 = f.1 ∧ R e.2 f.2) as bs)
    (hrest : Option.Rel R (xs.lookup key) (ys.lookup key)) :
    Option.Rel R ((as ++ xs).lookup key) ((bs ++ ys).lookup key) := by
  induction h with
  | nil => exact hrest
  | @cons e f _ _ hef _ ih =>
      obtain ⟨k, a⟩ := e
      obtain ⟨_, b⟩ := f
      obtain ⟨rfl, hab⟩ := hef
      rw [List.cons_append, List.cons_append, List.lookup_cons, List.lookup_cons]
      cases key == k with
      | true => exact .some hab
      | false => exact ih

end Lookup

namespace Registry

variable {s t : Store} {a b : SchemaTables} {p q : Pending}

/-- Twins that are still to be searched under one name. -/
structure Pending.Twins (s t : Store) (p q : Pending) : Prop where
  name : p.name = q.name
  resource : p.resource.Twins s t q.resource

/-- The schemas directly within a schema. -/
def within (draft : Draft) (schema : Datum) : Except SchemaFault (List Value) :=
  if draft.isPlain schema then .ok [] else draft.subschemas schema

/-- The name under which a schema is searched, and whether it is its own. -/
def Pending.named (s : Store) (p : Pending) : Except SchemaFault (Bool × String) := do
  match ← p.resource.draft.nameOf ⟨s, p.resource.content⟩ with
  | some own => return (true, ← (Uri.join p.name own).mapError .name)
  | none => return (false, p.name)

/-- What is known once a schema has been looked at, and the schemas within it. -/
def Pending.found (s : Store) (p : Pending) (t : SchemaTables) :
    Except SchemaFault (SchemaTables × List Pending) := do
  let schema : Datum := ⟨s, p.resource.content⟩
  let (own, name) ← p.named s
  let anchors := (← p.resource.draft.anchorsOf schema).map fun a => ((name, a.1), (p.resource, a.2))
  let inner ← (← within p.resource.draft schema).mapM fun v => do
    return (⟨name, ⟨v, ← p.resource.draft.searchedWithin ⟨s, v⟩⟩⟩ : Pending)
  return (⟨if own then (name, p.resource) :: t.resources else t.resources,
    anchors.reverse ++ t.anchors⟩, inner)

/-- A search goes from one schema to the next. -/
theorem search_cons (s : Store) (fuel : Nat) (done : List (String × Value)) (p : Pending)
    (waiting : List Pending) (t : SchemaTables) :
    search s (fuel + 1) done (p :: waiting) t =
      if seen done p then search s fuel done waiting t
      else p.found s t >>= fun f =>
        search s fuel ((p.name, p.resource.content) :: done) (f.2.reverse ++ waiting) f.1 := by
  rw [search]
  refine ite_congr rfl (fun _ => rfl) fun _ => ?_
  simp only [Pending.found, Pending.named, within, bind_assoc, pure_bind]
  refine bind_congr fun own => ?_
  cases own with
  | none =>
      simp only [pure_bind, Option.isSome, Bool.false_eq_true, if_false]
      refine bind_congr fun anchors => ?_
      split <;> rfl
  | some own =>
      simp only [bind_assoc, pure_bind, Option.isSome, if_true]
      refine bind_congr fun name => bind_congr fun anchors => ?_
      split <;> rfl

/-- What is within twins is searched on both sides, and is twins. -/
theorem within_twins {v w : Value} (h : Twin s t v w) (draft : Draft) :
    Except.Rel (List.Forall₂ (Twin s t)) (within draft ⟨s, v⟩) (within draft ⟨t, w⟩) := by
  unfold within
  rw [h.isPlain]
  split
  · exact .ok .nil
  · exact h.subschemas draft

/-- Of twins the same becomes known, and what is within them are twins to be searched. -/
theorem Pending.found_twins (hp : p.Twins s t q) (hab : a.Twins s t b) :
    Except.Rel (fun f g => f.1.Twins s t g.1 ∧ List.Forall₂ (Pending.Twins s t) f.2 g.2)
      (p.found s a) (q.found t b) := by
  obtain ⟨name, content, draft⟩ := p
  obtain ⟨_, content', _⟩ := q
  obtain ⟨rfl, hcontent, rfl⟩ := hp
  have hnamed : Pending.named s ⟨name, content, draft⟩ = Pending.named t ⟨name, content', draft⟩ := by
    unfold Pending.named
    rw [hcontent.nameOf]
  unfold Pending.found
  dsimp only
  rw [hnamed, hcontent.anchorsOf]
  refine (Except.Rel.refl _).bind ?_
  rintro ⟨own, called⟩ _ rfl
  refine (Except.Rel.refl _).bind ?_
  rintro anchors _ rfl
  refine (within_twins hcontent draft).bind fun vs ws hvs => ?_
  refine (Except.Rel.mapM (Q := Pending.Twins s t) hvs fun v w hvw => ?_).bind fun inner inner' h =>
    .ok ⟨⟨fun key => ?_, fun key => ?_⟩, h⟩
  · rw [hvw.searchedWithin]
    refine (Except.Rel.refl _).bind ?_
    rintro draft _ rfl
    exact .ok ⟨rfl, hvw, rfl⟩
  · cases own with
    | false => exact hab.resource key
    | true =>
        exact lookup_append [(called, _)] [(called, _)] key
          (.cons ⟨rfl, hcontent, rfl⟩ .nil) (hab.resource key)
  · -- anchors are the same on both sides; the one that comes last stands in front
    refine lookup_append _ _ key (List.rel_reverse ?_) (hab.anchor key)
    refine List.forall₂_map_left_iff.mpr (List.forall₂_map_right_iff.mpr ?_)
    exact List.forall₂_same.mpr fun anchor _ => ⟨rfl, ⟨hcontent, rfl⟩, rfl⟩

/-- What a search finds can be written out, if what it begins with can. -/
theorem search_written {fuel : Nat} {done : List (String × Value)} {waiting : List Pending}
    {found : SchemaTables} (hwaiting : ∀ p ∈ waiting, p.Twins s s p) (ha : a.Twins s s a)
    (h : search s fuel done waiting a = .ok found) : found.Twins s s found := by
  induction fuel generalizing done waiting a with
  | zero =>
      cases h
      exact ha
  | succ fuel ih =>
      cases waiting with
      | nil =>
          cases h
          exact ha
      | cons p waiting =>
          obtain ⟨hp, hrest⟩ := List.forall_mem_cons.mp hwaiting
          rw [search_cons] at h
          split at h
          · exact ih hrest ha h
          · obtain ⟨f, hf, h⟩ := Except.bind_eq_ok.mp h
            have hfound := Pending.found_twins hp ha
            rw [hf] at hfound
            cases hfound with
            | ok hfound =>
                refine ih (fun q hq => ?_) hfound.1 h
                rcases List.mem_append.mp hq with hq | hq
                · exact List.forall₂_same.mp hfound.2 q (List.mem_reverse.mp hq)
                · exact hrest q hq

/-! ### Documents within which nothing is named -/

/-- A schema in which nothing gives itself a name or an anchor, nor does it itself. -/
def Nameless (s : Store) (draft : Draft) (v : Value) : Prop :=
  ∃ P : Draft → Value → Prop, P draft v ∧ ∀ d v, P d v →
    d.nameOf ⟨s, v⟩ = .ok none ∧ d.anchorsOf ⟨s, v⟩ = .ok [] ∧
    ∃ vs, within d ⟨s, v⟩ = .ok vs ∧ ∀ w ∈ vs, ∃ d', d.searchedWithin ⟨s, w⟩ = .ok d' ∧ P d' w

/-- A schema in which nothing further in gives itself a name or an anchor. -/
def NamelessWithin (s : Store) (draft : Draft) (v : Value) : Prop :=
  ∀ vs, within draft ⟨s, v⟩ = .ok vs → ∀ w ∈ vs, ∀ d, draft.searchedWithin ⟨s, w⟩ = .ok d →
    Nameless s d w

/-- In a schema without names nothing is found, and what is in it has no names either. -/
theorem Nameless.found (h : Nameless s p.resource.draft p.resource.content) (a : SchemaTables) :
    ∃ inner, p.found s a = .ok (a, inner) ∧
      ∀ q ∈ inner, Nameless s q.resource.draft q.resource.content := by
  obtain ⟨P, hP, hclosed⟩ := h
  obtain ⟨hname, hanchors, vs, hwithin, hvs⟩ := hclosed _ _ hP
  obtain ⟨inner, hinner, hall⟩ := Except.exists_mapM (l := vs)
    (f := fun v => do
      return (⟨p.name, ⟨v, ← p.resource.draft.searchedWithin ⟨s, v⟩⟩⟩ : Pending))
    (Q := fun q => Nameless s q.resource.draft q.resource.content) fun v hv => by
      obtain ⟨d, hd, hPd⟩ := hvs v hv
      exact ⟨⟨p.name, v, d⟩, by rw [hd]; rfl, P, hPd, hclosed⟩
  refine ⟨inner, ?_, hall⟩
  unfold Pending.found Pending.named
  rw [hname]
  dsimp only
  rw [hanchors, hwithin]
  exact Except.bind_of_ok hinner

/-- What is alike has no names either. -/
theorem Nameless.twin {v w : Value} {draft : Draft} (h : Nameless s draft v) (hvw : Twin s t v w) :
    Nameless t draft w := by
  obtain ⟨P, hP, hclosed⟩ := h
  refine ⟨fun d w => ∃ v, Twin s t v w ∧ P d v, ⟨v, hvw, hP⟩, ?_⟩
  rintro d w ⟨v, hvw, hP⟩
  obtain ⟨hname, hanchors, vs, hwithin, hvs⟩ := hclosed d v hP
  refine ⟨by rw [← hvw.nameOf, hname], by rw [← hvw.anchorsOf, hanchors], ?_⟩
  have hrel := within_twins hvw d
  rw [hwithin] at hrel
  generalize within d ⟨t, w⟩ = x at hrel ⊢
  cases hrel with
  | ok hall =>
      refine ⟨_, rfl, fun w hw => ?_⟩
      obtain ⟨v, hv, hvw⟩ := exists_of_forall₂ hall w hw
      obtain ⟨d', hd', hP⟩ := hvs v hv
      exact ⟨d', hvw.searchedWithin d ▸ hd', v, hvw, hP⟩

/-- Within what is alike nothing has a name either. -/
theorem NamelessWithin.twin {v w : Value} {draft : Draft} (h : NamelessWithin s draft v)
    (hvw : Twin s t v w) : NamelessWithin t draft w := by
  intro ws hws w' hw' d hd
  have hrel := within_twins hvw draft
  rw [hws] at hrel
  generalize hvs : within draft ⟨s, v⟩ = x at hrel
  cases hrel with
  | ok hall =>
      obtain ⟨v', hv', hvw'⟩ := exists_of_forall₂ hall w' hw'
      exact (h _ hvs v' hv' d (hvw'.searchedWithin draft ▸ hd)).twin hvw'

/-- The schemas to be searched next lie in the schema. -/
theorem Pending.nameless_of_found (hnames : NamelessWithin s p.resource.draft p.resource.content)
    {f : SchemaTables × List Pending} (h : p.found s a = .ok f) :
    ∀ q ∈ f.2, Nameless s q.resource.draft q.resource.content := by
  intro q hq
  obtain ⟨⟨own, name⟩, -, h⟩ := Except.bind_eq_ok.mp h
  obtain ⟨anchors, -, h⟩ := Except.bind_eq_ok.mp h
  obtain ⟨vs, hvs, h⟩ := Except.bind_eq_ok.mp h
  obtain ⟨inner, hinner, h⟩ := Except.bind_eq_ok.mp h
  cases h
  obtain ⟨v, hv, hfound⟩ := Except.exists_of_mem_mapM hinner hq
  obtain ⟨d, hd, hfound⟩ := Except.bind_eq_ok.mp hfound
  cases hfound
  exact hnames vs hvs v hv d hd

/-- Nothing is found in schemas without names. -/
theorem search_nameless {fuel : Nat} {done : List (String × Value)} {waiting : List Pending}
    (hwaiting : ∀ p ∈ waiting, Nameless s p.resource.draft p.resource.content) :
    search s fuel done waiting a = .ok a := by
  induction fuel generalizing done waiting with
  | zero => rfl
  | succ fuel ih =>
      cases waiting with
      | nil => rfl
      | cons p waiting =>
          obtain ⟨hp, hrest⟩ := List.forall_mem_cons.mp hwaiting
          rw [search_cons]
          split
          · exact ih hrest
          · obtain ⟨inner, hfound, hinner⟩ := hp.found a
            rw [hfound]
            refine ih fun q hq => ?_
            rcases List.mem_append.mp hq with hq | hq
            · exact hinner q (List.mem_reverse.mp hq)
            · exact hrest q hq

/-- What is found in a document within which nothing has a name. -/
theorem search_document {fuel : Nat} (hfuel : 0 < fuel)
    (h : NamelessWithin s p.resource.draft p.resource.content) (a : SchemaTables) :
    search s fuel [] [p] a = (p.found s a).map Prod.fst := by
  obtain ⟨fuel, rfl⟩ := Nat.exists_eq_add_of_lt hfuel
  rw [Nat.zero_add, search_cons]
  have hseen : seen [] p = false := rfl
  rw [hseen, if_neg Bool.false_ne_true]
  cases hfound : p.found s a with
  | error e => rfl
  | ok f =>
      show search s fuel _ (f.2.reverse ++ []) f.1 = .ok f.1
      rw [List.append_nil]
      exact search_nameless fun q hq => p.nameless_of_found h hfound q (List.mem_reverse.mp hq)

/-- Documents that are twins, and within which nothing has a name, are searched alike. -/
theorem search_twins {fuel fuel' : Nat} (hfuel : 0 < fuel) (hfuel' : 0 < fuel') (hp : p.Twins s t q)
    (hnames : NamelessWithin s p.resource.draft p.resource.content) (hab : a.Twins s t b) :
    Except.Rel (SchemaTables.Twins s t) (search s fuel [] [p] a) (search t fuel' [] [q] b) := by
  have hnames' : NamelessWithin t q.resource.draft q.resource.content :=
    hp.resource.draft ▸ hnames.twin hp.resource.content
  rw [search_document hfuel hnames, search_document hfuel' hnames']
  exact (Pending.found_twins hp hab).map fun _ _ h => h.1

/-- Where schemas within a document have names, it matters which of them are one: of two schemas with the
same anchor the one that is searched last counts, and the first in a list comes last, unless it has been
searched already because it comes again. -/
example :
    let schemas (again : Nat) : Store :=
      ⟨#[.mapping [(.text "allOf", .ref 1)], .list [.ref 2, .ref 3, .ref again],
        .mapping [(.text "$anchor", .text "a")],
        .mapping [(.text "$anchor", .text "a"), (.text "type", .text "string")],
        .mapping [(.text "$anchor", .text "a")]]⟩
    let anchored (again : Nat) : Option Nat :=
      match search (schemas again) 25 [] [⟨"", .ref 0, .latest⟩] ⟨[], []⟩ with
      | .ok t => match t.anchors.lookup ("", "a") with
        | some (⟨.ref n, _⟩, _) => some n
        | _ => none
      | .error _ => none
    anchored 2 = some 3 ∧ anchored 4 = some 2 := by
  decide +kernel

end Registry

end YamlAudit
