import YamlAudit.Proofs.Value.Layout
import YamlAudit.Schema.Apply

/-!
# Schema — twins in two registries

Registries are twins if under each name and each anchor there are twins in both, or there is nothing
in either (`Registry.Twins`).  What a schema is called, which draft it is of and where a reference in it
leads rests on nothing but what is asked of its parts, and twins answer alike.  So a scope of the one
registry is one of the other too: a reference leads to twins in one scope (`Registry.Twins.lookup`), be
it by a pointer, an anchor or the outermost schema on the way (`Registry.Twins.lookupRecursive`).

Names are texts, and the same in both.  What twins may differ in is where their containers lie and
which of them are one, and no lookup asks for that.
-/

namespace YamlAudit

/-! ### Drafts and names -/

namespace Twin

variable {s t : Store} {v w : Value}

/-- What stands under a word and is not null. -/
theorem said? (h : Twin s t v w) (word : String) :
    Except.Rel (Option.Rel (TwinData s t)) (Draft.said? ⟨s, v⟩ word) (Draft.said? ⟨t, w⟩ word) := by
  refine (h.under word).bind fun x y hxy => ?_
  cases hxy with
  | none => exact .ok .none
  | some hd =>
      obtain @⟨x, y, hd⟩ := hd
      refine .ok ?_
      cases hd.shape with
      | leaf hleaf =>
          cases x with
          | null => exact .none
          | nan | tuple | ref => exact False.elim hleaf
          | _ => exact .some (.intro hd)
      | tuple | list | mapping | ordered => exact .some (.intro hd)

theorem isPlain (h : Twin s t v w) (d : Draft) : d.isPlain ⟨s, v⟩ = d.isPlain ⟨t, w⟩ := by
  unfold Draft.isPlain
  cases h.shape with
  | leaf => rfl
  | tuple | list | mapping | ordered => rfl

/-- Twins give themselves one name. -/
theorem nameOf (h : Twin s t v w) (d : Draft) : d.nameOf ⟨s, v⟩ = d.nameOf ⟨t, w⟩ := by
  unfold Draft.nameOf
  rw [h.isPlain, h.finds (show (Value.text "$ref").IsOwn from trivial)]
  refine ite_congr rfl (fun _ => rfl) fun _ => bind_congr fun found => ?_
  refine ite_congr rfl (fun _ => rfl) fun _ => (h.said? _).bind_eq fun x y hxy => ?_
  cases hxy with
  | none => rfl
  | some hname =>
      obtain ⟨hname⟩ := hname
      have hkind := hname.kindName
      dsimp only
      rw [hkind]
      cases hname.shape with
      | leaf => rfl
      | tuple | list | mapping | ordered => rfl

/-- Twins name the same draft. -/
theorem named? (h : Twin s t v w) : Draft.named? ⟨s, v⟩ = Draft.named? ⟨t, w⟩ := by
  unfold Draft.named?
  rw [h.asKey, h.isTruthy, h.kindName]

/-- Twins are schemas of one draft. -/
theorem within (h : Twin s t v w) (d : Draft) : d.within ⟨s, v⟩ = d.within ⟨t, w⟩ := by
  unfold Draft.within
  rcases h.isBool with ⟨holds, rfl, rfl⟩ | ⟨hv, hw⟩
  · rfl
  · rw [if_neg, if_neg]
    · refine (h.found? "$schema").bind_eq fun x y hxy => ?_
      cases hxy with
      | none => rfl
      | some hname =>
          obtain ⟨hname⟩ := hname
          dsimp only
          rw [hname.named?]
    · cases w with
      | bool holds => exact (hw holds rfl).elim
      | _ => exact Bool.false_ne_true
    · cases v with
      | bool holds => exact (hv holds rfl).elim
      | _ => exact Bool.false_ne_true

end Twin

/-! ### Registries -/

/-- Schemas of one draft that are twins. -/
structure SchemaResource.Twins (s t : Store) (a b : SchemaResource) : Prop where
  content : Twin s t a.content b.content
  draft : a.draft = b.draft

/-- Under each name and each anchor there are twins, or there is nothing. -/
structure SchemaTables.Twins (s t : Store) (a b : SchemaTables) : Prop where
  resource (name : String) :
    Option.Rel (SchemaResource.Twins s t) (a.resources.lookup name) (b.resources.lookup name)
  anchor (at' : String × String) :
    Option.Rel (fun x y => SchemaResource.Twins s t x.1 y.1 ∧ x.2 = y.2) (a.anchors.lookup at')
      (b.anchors.lookup at')

/-- References lead to twins before and after the search. -/
structure Registry.Twins (r r' : Registry) : Prop where
  known : r.known.Twins r.store r'.store r'.known
  searched : Except.Rel (SchemaTables.Twins r.store r'.store) r.searched r'.searched

/-- Schemas that are twins, each to be applied in the same scope. -/
def ScopedTwins (s t : Store) (found found' : Value × Scope) : Prop :=
  Twin s t found.1 found'.1 ∧ found.2 = found'.2

namespace Scope

variable {s t : Store} {v w : Value}

theorem enter?_twins (h : Twin s t v w) (sc : Scope) (draft : Draft) :
    sc.enter? draft ⟨s, v⟩ = sc.enter? draft ⟨t, w⟩ := by
  unfold enter?
  rw [h.nameOf]

/-- Going into twins leads to one scope. -/
theorem enter_twins (h : Twin s t v w) (sc : Scope) (draft : Draft) :
    sc.enter draft ⟨s, v⟩ = sc.enter draft ⟨t, w⟩ := by
  unfold enter
  rw [enter?_twins h]

/-! ### Pointers -/

theorem nth_twins {vs ws : List Value} (h : List.Forall₂ (Twin s t) vs ws) (n : Int) :
    Option.Rel (Twin s t) (nth vs n) (nth ws n) := by
  have hitem : ∀ i : Nat, Option.Rel (Twin s t) vs[i]? ws[i]? := by
    induction h with
    | nil => exact fun _ => .none
    | cons hvw _ ih => exact fun
      | 0 => .some hvw
      | i + 1 => ih i
  unfold nth
  rw [h.length_eq]
  dsimp only
  generalize (if n < 0 then n + (ws.length : Int) else n) = i
  split
  · exact .none
  · exact hitem i.toNat

/-- What has positions in a value: its items or characters. -/
def positions? (d : Datum) : Option (List Value) :=
  match d.value with
  | .text t => some (t.toList.map fun c => .text (String.singleton c))
  | _ => d.sequence?

/-- One step among positions or names, of a value of some kind. -/
def picked (missing : Unit → SchemaFault) (text kind : String) :
    Option (List Value) → Option (List (Value × Value)) → Except SchemaFault (Value × Value)
  | some items, _ => do
    let n ← positionOf text
    match nth items n with
    | some item => return (.int n, item)
    | none => throw (missing ())
  | none, some es =>
    let name := (text.replace "~1" "/").replace "~0" "~"
    match lookupKey (.text name) es with
    | some item => return (.text name, item)
    | none => throw (missing ())
  | none, none => throw (.noParts kind)

theorem step_eq_picked (missing : Unit → SchemaFault) (d : Datum) (text : String) :
    step missing d text = picked missing text d.kindName (positions? d) d.entries? :=
  rfl

/-- What has positions in twins are twins. -/
theorem positions?_twins (h : Twin s t v w) :
    Option.Rel (List.Forall₂ (Twin s t)) (positions? ⟨s, v⟩) (positions? ⟨t, w⟩) := by
  have hitems := h.sequence?
  unfold positions?
  cases h.shape with
  | leaf hleaf =>
      cases v with
      | text a => exact .some (Twin.forall₂_leaves (by simp [Value.IsLeaf]))
      | _ => exact hitems
  | tuple | list | mapping | ordered => exact hitems

/-- A step leads from twins to twins, or nowhere. -/
theorem step_twins (missing : Unit → SchemaFault) (h : Twin s t v w) (text : String) :
    Except.Rel (fun p q => p.1 = q.1 ∧ Twin s t p.2 q.2) (step missing ⟨s, v⟩ text)
      (step missing ⟨t, w⟩ text) := by
  have hpositions := positions?_twins h
  have hentries := h.entries?
  rw [step_eq_picked, step_eq_picked, h.kindName]
  generalize positions? ⟨s, v⟩ = vs, positions? ⟨t, w⟩ = ws at hpositions ⊢
  generalize Datum.entries? ⟨s, v⟩ = es, Datum.entries? ⟨t, w⟩ = fs at hentries ⊢
  cases hpositions with
  | @some vs ws hvs =>
      refine (Except.Rel.refl (positionOf text)).bind ?_
      rintro n _ rfl
      have hitem := nth_twins hvs n
      generalize nth vs n = x, nth ws n = y at hitem ⊢
      cases hitem with
      | some hxy => exact .ok ⟨rfl, hxy⟩
      | none => exact .error _
  | none =>
      cases hentries with
      | @some es fs hes =>
          have hitem := Twin.lookupKey hes (.text ((text.replace "~1" "/").replace "~0" "~"))
          unfold picked
          dsimp only
          generalize lookupKey _ es = x, lookupKey _ fs = y at hitem ⊢
          cases hitem with
          | some hxy => exact .ok ⟨rfl, hxy⟩
          | none => exact .error _
      | none => exact .error _

end Scope

namespace Registry.Twins

variable {r r' : Registry} {v w : Value}

/-- A pointer leads from twins to twins, and to one scope. -/
theorem walk (missing : Unit → SchemaFault) (draft : Draft) (texts : List String)
    (behind : List Value) (h : Twin r.store r'.store v w) (sc : Scope) :
    Except.Rel (ScopedTwins r.store r'.store) (Scope.walk r draft missing texts behind v sc)
      (Scope.walk r' draft missing texts behind w sc) := by
  induction texts generalizing behind v w sc with
  | nil => exact .ok ⟨h, rfl⟩
  | cons text rest ih =>
      unfold Scope.walk
      refine (Scope.step_twins missing h text).bind ?_
      rintro ⟨segment, v⟩ ⟨_, w⟩ ⟨rfl, h⟩
      dsimp only [Registry.datum]
      rw [h.isMapping, Scope.enter?_twins h]
      split
      · refine (Except.Rel.refl (sc.enter? draft ⟨r'.store, w⟩)).bind ?_
        rintro entered _ rfl
        cases entered with
        | some sc => exact ih [] h sc
        | none => exact ih _ h sc
      · exact ih _ h sc

/-! ### Anchors -/

theorem tables (hr : r.Twins r') (searched : Bool) :
    Except.Rel (SchemaTables.Twins r.store r'.store) (Scope.tables r searched)
      (Scope.tables r' searched) := by
  cases searched with
  | true => exact hr.searched
  | false => exact .ok hr.known

/-- What is looked up in tables with twins is found in both at the same time, or in neither. -/
theorem findIn? {α β : Type} {R : α → β → Prop} (hr : r.Twins r') (searched : Bool)
    {find : SchemaTables → Option α} {find' : SchemaTables → Option β}
    (hfind : ∀ a b, SchemaTables.Twins r.store r'.store a b → Option.Rel R (find a) (find' b)) :
    Except.Rel (Option.Rel fun x y => R x.1 y.1 ∧ x.2 = y.2) (Scope.findIn? r searched find)
      (Scope.findIn? r' searched find') := by
  unfold Scope.findIn?
  refine (hr.tables searched).bind fun a b hab => ?_
  have hfound := hfind a b hab
  generalize find a = x, find' b = y at hfound ⊢
  cases hfound with
  | some hxy => exact .ok (.some ⟨hxy, rfl⟩)
  | none =>
      exact hr.searched.bind fun a b hab => .ok (optionRel_map (hfind a b hab) fun _ _ h => ⟨h, rfl⟩)

/-- Under an anchor there are twins, or there is nothing. -/
theorem anchor? (hr : r.Twins r') (searched : Bool) (name anchor : String) :
    Except.Rel (Option.Rel fun x y =>
        (SchemaResource.Twins r.store r'.store x.1.1 y.1.1 ∧ x.1.2 = y.1.2) ∧ x.2 = y.2)
      (Scope.anchor? r searched name anchor) (Scope.anchor? r' searched name anchor) := by
  unfold Scope.anchor?
  refine (hr.findIn? searched fun a b hab => hab.anchor (name, anchor)).bind fun x y hxy => ?_
  cases hxy with
  | some hfound => exact .ok (.some hfound)
  | none =>
      refine (hr.tables searched).bind fun a b hab => ?_
      have hresource := hab.resource (Uri.trimmed name)
      generalize a.resources.lookup _ = x, b.resources.lookup _ = y at hresource ⊢
      cases hresource with
      | none => exact .error _
      | @some a b hab =>
          dsimp only [Registry.datum]
          rw [hab.draft, hab.content.nameOf]
          refine (Except.Rel.refl _).bind ?_
          rintro own _ rfl
          cases own with
          | none => exact .ok .none
          | some own =>
              exact hr.searched.bind fun a b hab =>
                .ok (optionRel_map (hab.anchor (own, anchor)) fun _ _ h => ⟨h, rfl⟩)

/-- The outermost schemas that have a dynamic anchor are twins. -/
theorem outermost (hr : r.Twins r') (searched : Bool) (anchor : String) {found found' : SchemaResource}
    (h : found.Twins r.store r'.store found') (names : List String) :
    Except.Rel (SchemaResource.Twins r.store r'.store)
      (Scope.outermost r searched anchor found names)
      (Scope.outermost r' searched anchor found' names) := by
  induction names generalizing found found' with
  | nil => exact .ok h
  | cons name rest ih =>
      unfold Scope.outermost
      refine (hr.anchor? searched name anchor).bind fun x y hxy => ?_
      cases hxy with
      | none => exact ih h
      | @some x y hxy =>
          obtain ⟨⟨a, dynamic⟩, _⟩ := x
          obtain ⟨⟨b, _⟩, _⟩ := y
          obtain ⟨⟨hab, rfl⟩, rfl⟩ := hxy
          cases dynamic with
          | true => exact ih hab
          | false => exact ih h

/-! ### References -/

/-- A reference leads to twins, and to one scope. -/
theorem lookup (hr : r.Twins r') (sc : Scope) (applied : Bool) (ref : String) :
    Except.Rel (ScopedTwins r.store r'.store) (Scope.lookup r sc applied ref)
      (Scope.lookup r' sc applied ref) := by
  unfold Scope.lookup
  extract_lets unresolved there there'
  -- where the name leads is the same on both sides, so only what stands there has to be followed
  have hthere : ∀ p, Except.Rel (ScopedTwins r.store r'.store) (there p) (there' p) := by
    rintro ⟨name, fragment⟩
    refine (hr.findIn? sc.searched fun a b hab => hab.resource name).bind fun x y hxy => ?_
    cases hxy with
    | none => exact .error _
    | @some x y hxy =>
        obtain ⟨a, searched⟩ := x
        obtain ⟨b, _⟩ := y
        obtain ⟨hab, rfl⟩ := hxy
        dsimp only [Registry.datum]
        rw [hab.draft, hab.content.literal]
        split
        · exact .ok ⟨hab.content, rfl⟩
        · exact walk _ _ _ _ hab.content _
        · refine (hr.anchor? searched name fragment).bind fun x y hxy => ?_
          cases hxy with
          | none => exact .error _
          | @some x y hxy =>
              obtain ⟨⟨found, dynamic⟩, _⟩ := x
              obtain ⟨⟨found', _⟩, _⟩ := y
              obtain ⟨⟨hfound, rfl⟩, rfl⟩ := hxy
              -- a dynamic anchor leads to the outermost schema with that anchor, which is found by
              -- its name
              cases dynamic with
              | false => exact .ok ⟨hfound.content, rfl⟩
              | true =>
                  refine (hr.outermost _ _ hfound _).bind fun last last' hlast => ?_
                  rw [hlast.draft, Scope.enter_twins hlast.content]
                  refine (Except.Rel.refl _).bind ?_
                  rintro scope _ rfl
                  exact .ok ⟨hlast.content, rfl⟩
  have hbind : ∀ x, Except.Rel (ScopedTwins r.store r'.store) (x >>= there) (x >>= there') :=
    fun x => (Except.Rel.refl x).bind fun p q hpq => hpq ▸ hthere p
  split
  · exact hbind (pure _)
  · refine (Except.Rel.refl (Scope.resolve sc.base ref)).bind ?_
    rintro name _ rfl
    exact hbind _

/-- What is no text leads nowhere, and for the same reason. -/
theorem follow (hr : r.Twins r') (sc : Scope) (applied : Bool) (h : Twin r.store r'.store v w) :
    Except.Rel (ScopedTwins r.store r'.store) (Scope.follow r sc applied v)
      (Scope.follow r' sc applied w) := by
  have hkind := h.kindName
  unfold Scope.follow Registry.datum
  rw [hkind]
  cases h.shape with
  | leaf hleaf =>
      cases v with
      | text a => exact hr.lookup sc applied a
      | _ => exact .error _
  | tuple | list | mapping | ordered => exact .error _

/-- Twins may both be replaced, or neither. -/
theorem isRecursive (h : Twin r.store r'.store v w) :
    Scope.isRecursive r v = Scope.isRecursive r' w := by
  refine optionRel_elim (f := fun x => (x.map Datum.isTruthy).getD false)
    (g := fun y => (y.map Datum.isTruthy).getD false) (h.member? "$recursiveAnchor") rfl ?_
  rintro _ _ ⟨hd⟩
  exact hd.isTruthy

/-- The way outwards ends at twins. -/
theorem outwards (hr : r.Twins r') (sc : Scope) (applied : Bool) {found found' : Value × Scope}
    (h : ScopedTwins r.store r'.store found found') (names : List String) :
    Except.Rel (ScopedTwins r.store r'.store) (Scope.outwards r sc applied found names)
      (Scope.outwards r' sc applied found' names) := by
  induction names generalizing found found' with
  | nil => exact .ok h
  | cons name rest ih =>
      unfold Scope.outwards
      refine (hr.lookup sc applied name).bind fun next next' hnext => ?_
      rw [isRecursive hnext.1]
      split
      · exact ih hnext
      · exact .ok h

/-- So does the reference to the whole document, or to what may take its place. -/
theorem lookupRecursive (hr : r.Twins r') (sc : Scope) (applied : Bool) :
    Except.Rel (ScopedTwins r.store r'.store) (Scope.lookupRecursive r sc applied)
      (Scope.lookupRecursive r' sc applied) := by
  unfold Scope.lookupRecursive
  refine (hr.lookup sc applied "#").bind fun found found' hfound => ?_
  rw [isRecursive hfound.1]
  split
  · exact hr.outwards sc applied hfound sc.trail
  · exact .ok hfound

end Registry.Twins

end YamlAudit
