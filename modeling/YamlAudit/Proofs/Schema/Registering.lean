import YamlAudit.Proofs.Schema.Judged
import YamlAudit.Proofs.Schema.Searched

/-!
# Schema — registered twins

A structure is registered among the schemas of schemas: its containers move up behind theirs
(`Registry.absorb_carries`), which stay where they are.  All that is in the schemas of schemas can be
written out (`Metaschema.written`), so under their names there are twins of themselves, and structures
that are twins are registered as twins, as far as searches find the same
(`Schema.Registered.Twins.of_registered`).

* `Schema.Registered.judgeAlike`: structures that are twins, and within which nothing has a name, judge
  all data alike.
* `Schema.differInRepeats_of_twins`: so their mismatches differ in nothing but missing keys that one of
  them repeats.

That nothing within them has a name is asked for because a search looks at a shared part only once, so
that of two schemas with one name another one may count (`Registry.search_twins`).
-/

namespace YamlAudit

/-! ### Plain data -/

mutual

/-- Whether there are no floating point numbers in a piece of data. -/
def Plain.isExact : Plain → Bool
  | .float _ => false
  | .list items => allExact items
  | .object members => allMembersExact members
  | _ => true

/-- The same for several pieces. -/
def allExact : List Plain → Bool
  | [] => true
  | item :: rest => item.isExact && allExact rest

/-- The same for the members of an object. -/
def allMembersExact : List (String × Plain) → Bool
  | [] => true
  | (_, member) :: rest => member.isExact && allMembersExact rest

end

theorem Store.Extends.unfolds {s s' : Store} (h : s.Extends s') {depth : Nat} {v : Value}
    (hv : s.Unfolds depth v) : s'.Unfolds depth v :=
  h.carries.unfolds hv

/-- A name with a value that can be written out. -/
def Store.Member (s : Store) (e : Value × Value) : Prop :=
  (∃ name, e.1 = .text name) ∧ ∃ depth, s.Unfolds depth e.2

theorem Store.Member.extend {s s' : Store} (h : s.Extends s') {e : Value × Value} (he : s.Member e) :
    s'.Member e :=
  ⟨he.1, he.2.imp fun _ => h.unfolds⟩

/-- A mapping from names to values that can be written out can be written out. -/
theorem Store.Member.mapping {s : Store} {n : Nat} {es : List (Value × Value)}
    (hn : n < s.containers.size) (hget : s.get n = .mapping es) (h : ∀ e ∈ es, s.Member e) :
    ∃ depth, s.Unfolds depth (.ref n) := by
  have hvalues : ∀ v ∈ es.map Prod.snd, ∃ depth, s.Unfolds depth v :=
    List.forall_mem_map.mpr fun e he => (h e he).2
  obtain ⟨depth, hall⟩ := exists_unfolds hvalues
  refine ⟨depth + 1 + 1, hn, ?_⟩
  rw [hget]
  intro e he
  obtain ⟨name, hname⟩ := (h e he).1
  rw [hname]
  exact ⟨trivial, trivial, (hall e.2 (List.mem_map_of_mem he)).succ⟩

/-- Putting such a member in the place of another leaves only such members. -/
theorem Store.Member.putKey {s : Store} {k v : Value} {es : List (Value × Value)}
    (hes : ∀ e ∈ es, s.Member e) (hkv : s.Member (k, v)) : ∀ e ∈ putKey k v es, s.Member e := by
  intro e he
  rcases mem_putKey he with hmem | ⟨hvalue, -⟩
  · exact hes e hmem
  · refine ⟨?_, hvalue ▸ hkv.2⟩
    rcases key_of_mem_putKey he with hkey | ⟨e', he', hkey⟩
    · exact hkey ▸ hkv.1
    · exact hkey ▸ (hes e' he').1

mutual

/-- What is added to a store can be written out. -/
theorem Store.addPlain_written : ∀ {p : Plain} (s : Store), p.isExact = true →
    s.Extends (s.addPlain p).2 ∧ ∃ depth, (s.addPlain p).2.Unfolds depth (s.addPlain p).1
  | .null, s, _ | .bool _, s, _ | .int _, s, _ | .text _, s, _ =>
    ⟨.refl s, 1, .of_isLeaf trivial⟩
  | .float _, _, h => nomatch h
  | .list items, s, h => by
      have h : allExact items = true := h
      obtain ⟨hs, hitems⟩ := addPlainItems_written s h
      refine ⟨hs.trans (Store.extends_add _ _), Store.Unfolds.list (Store.size_lt_add _ _)
        (Store.get_add _ _) fun v hv => ?_⟩
      exact (hitems v hv).imp fun _ => (Store.extends_add _ _).unfolds
  | .object members, s, h => by
      have h : allMembersExact members = true := h
      obtain ⟨hs, hmembers⟩ := addPlainMembers_written s h
      refine ⟨hs.trans (Store.extends_add _ _), Store.Member.mapping (Store.size_lt_add _ _)
        (Store.get_add _ _) fun e he => ?_⟩
      refine Store.Member.extend (Store.extends_add _ _) (?_ : Store.Member _ e)
      exact List.foldlRecOn (motive := fun es => ∀ e ∈ es, Store.Member _ e) _ _
        (fun _ he => (List.not_mem_nil he).elim)
        (fun _ hes e he => Store.Member.putKey hes (hmembers e he)) e he

/-- So can the items of a list, and what is added later leaves them as they are. -/
theorem addPlainItems_written : ∀ {items : List Plain} (s : Store), allExact items = true →
    s.Extends (addPlainItems s items).2 ∧ ∀ v ∈ (addPlainItems s items).1, ∃ depth,
      (addPlainItems s items).2.Unfolds depth v
  | [], s, _ => ⟨.refl s, fun _ h => nomatch h⟩
  | item :: rest, s, h => by
      obtain ⟨hitem, hrest⟩ := Bool.and_eq_true_iff.mp h
      obtain ⟨hs, depth, hv⟩ := Store.addPlain_written s hitem
      obtain ⟨hs', hvs⟩ := addPlainItems_written (s.addPlain item).2 hrest
      exact ⟨hs.trans hs', List.forall_mem_cons.mpr ⟨⟨depth, hs'.unfolds hv⟩, hvs⟩⟩

/-- So can the members of an object. -/
theorem addPlainMembers_written : ∀ {members : List (String × Plain)} (s : Store),
    allMembersExact members = true → s.Extends (addPlainMembers s members).2 ∧
      ∀ e ∈ (addPlainMembers s members).1, (addPlainMembers s members).2.Member e
  | [], s, _ => ⟨.refl s, fun _ h => nomatch h⟩
  | (name, member) :: rest, s, h => by
      obtain ⟨hmember, hrest⟩ := Bool.and_eq_true_iff.mp h
      obtain ⟨hs, depth, hv⟩ := Store.addPlain_written s hmember
      obtain ⟨hs', hes⟩ := addPlainMembers_written (s.addPlain member).2 hrest
      exact ⟨hs.trans hs', List.forall_mem_cons.mpr ⟨⟨⟨name, rfl⟩, depth, hs'.unfolds hv⟩, hes⟩⟩

end

/-! ### Documents that are taken in -/

/-- What can be written out is a twin of itself. -/
theorem Twin.refl {s : Store} {depth : Nat} {v : Value} (h : s.Unfolds depth v) : Twin s s v v :=
  ⟨.refl s v, .of_unfolds h, .of_unfolds h⟩

namespace Registry

theorem shiftedAll_eq_map (n : Nat) (vs : List Value) : shiftedAll n vs = vs.map (shifted n) := by
  induction vs with
  | nil => rfl
  | cons v rest ih => rw [shiftedAll, ih, List.map_cons]

/-- Containers move up by moving the values in them. -/
theorem shiftedContainer_eq_mapped (n : Nat) (c : Container) :
    shiftedContainer n c = c.mapped (shifted n) := by
  cases c with
  | list vs | set vs => rw [shiftedContainer, shiftedAll_eq_map, Container.mapped]
  | mapping es | ordered es => rfl

/-- The containers of a document are taken in behind those that are there. -/
theorem absorb_carries (r : Registry) (d : Datum) :
    d.store.Carries (r.absorb d).2.store (shifted r.store.containers.size) where
  leaf v h := by
    cases v with
    | ref | tuple | nan => exact False.elim h
    | _ => rfl
  tuple vs := congrArg Value.tuple (shiftedAll_eq_map _ vs)
  ref n hn := ⟨r.store.containers.size + n, by simp [absorb, hn], rfl,
    by rw [get_absorb, shiftedContainer_eq_mapped]⟩

/-- Those that are there stay where they are. -/
theorem extends_absorb (r : Registry) (d : Datum) : r.store.Extends (r.absorb d).2.store where
  size := by simp [absorb]
  get n hn := by simp [absorb, Store.get, Array.getD_eq_getD_getElem?, Array.getElem?_append_left hn]

/-- A registry in which all that is known can be written out. -/
def Written (r : Registry) : Prop := r.known.Twins r.store r.store r.known

/-- A document that can be written out is known then. -/
theorem addedTo_twins {s t : Store} {a b : SchemaTables} {p q : Pending} (hp : p.Twins s t q)
    (hab : a.Twins s t b) : (addedTo a p).Twins s t (addedTo b q) where
  resource key := lookup_append [(p.name, _)] [(q.name, _)] key
    (.cons ⟨hp.name, hp.resource⟩ .nil) (hab.resource key)
  anchor key := hab.anchor key

/-- A document that can be written out may be searched: what is found in it can be written out. -/
theorem Written.add {r : Registry} (h : r.Written) {content : Value} {depth : Nat}
    (hcontent : r.store.Unfolds depth content) (name : String) (draft : Draft) :
    (r.add name draft content).afterSearch.Written := by
  have hp : Pending.Twins r.store r.store ⟨name, content, draft⟩ ⟨name, content, draft⟩ :=
    ⟨rfl, .refl hcontent, rfl⟩
  have hknown := addedTo_twins hp h
  unfold afterSearch
  split
  · next known hsearched =>
    exact search_written (List.forall_mem_singleton.mpr hp) hknown hsearched
  · exact hknown

theorem Written.absorb {r : Registry} (h : r.Written) (d : Datum) : (r.absorb d).2.Written :=
  SchemaTables.Twins.extend h (r.extends_absorb d) (r.extends_absorb d)

end Registry

namespace Metaschema

open Registry

/-- The documents about schemas are added one after the other. -/
theorem addDocument_written {r : Registry} (h : r.Written) {document : Draft × Plain}
    (hexact : document.2.isExact = true) : (addDocument r document).Written := by
  obtain ⟨-, depth, hunfolds⟩ := Store.addPlain_written .empty hexact
  unfold addDocument
  dsimp only
  split
  · exact (h.absorb _).add ((r.absorb_carries (.ofPlain document.2)).unfolds hunfolds) _ _
  · exact h.absorb _

/-- All schemas of schemas can be written out. -/
theorem registry_written : registry.Written := by
  have hexact : ∀ document ∈ documents, document.2.isExact = true := by
    decide +kernel
  refine List.foldlRecOn (motive := Written) documents addDocument ?_ fun r hr document hmem =>
    addDocument_written hr (hexact document hmem)
  exact ⟨fun _ => .none, fun _ => .none⟩

end Metaschema

/-! ### Structures -/

namespace Schema

open Registry

variable {base : Registry} {name : String} {draft : Draft} {d e : Datum} {r r' : Registered}

/-- A structure that is taken into a registry and is known there under a name. -/
def taken (base : Registry) (name : String) (draft : Draft) (d : Datum) : Registered :=
  ⟨(base.absorb d).2.add name draft (base.absorb d).1, draft, name, (base.absorb d).1⟩

/-- Structures that are twins become documents that are twins. -/
theorem document_twins (h : Twin d.store e.store d.value e.value) (base : Registry) (name : String)
    (draft : Draft) :
    Pending.Twins (base.absorb d).2.store (base.absorb e).2.store ⟨name, (base.absorb d).1, draft⟩
      ⟨name, (base.absorb e).1, draft⟩ :=
  ⟨rfl, h.carried (absorb_carries _ d) (absorb_carries _ e), rfl⟩

/-- So does what is known beside them. -/
theorem known_twins (h : Twin d.store e.store d.value e.value) (hbase : base.Written) :
    (taken base name draft d).registry.known.Twins (base.absorb d).2.store (base.absorb e).2.store
      (taken base name draft e).registry.known :=
  addedTo_twins (document_twins h base name draft)
    (hbase.extend (extends_absorb _ d) (extends_absorb _ e))

/-- The same is found in twins, if nothing within them has a name. -/
theorem searched_twins (h : Twin d.store e.store d.value e.value) (hbase : base.Written)
    (hnames : NamelessWithin d.store draft d.value) :
    Except.Rel (SchemaTables.Twins (base.absorb d).2.store (base.absorb e).2.store)
      (taken base name draft d).registry.searched (taken base name draft e).registry.searched := by
  obtain ⟨depth, hunfolds⟩ := h.left.unfolds
  have hself : Twin d.store (base.absorb d).2.store d.value (base.absorb d).1 :=
    (Twin.refl hunfolds).carried (Store.Extends.refl _).carries (absorb_carries _ d)
  exact search_twins (Nat.mul_pos (Nat.succ_pos _) (Nat.succ_pos _))
    (Nat.mul_pos (Nat.succ_pos _) (Nat.succ_pos _)) (document_twins h base name draft)
    (hnames.twin hself) (known_twins h hbase)

/-- Structures that are twins are taken in as twins, if the same is found in both. -/
theorem taken_twins (h : Twin d.store e.store d.value e.value) (hbase : base.Written)
    (hsearched : Except.Rel (SchemaTables.Twins (base.absorb d).2.store (base.absorb e).2.store)
      (taken base name draft d).registry.searched (taken base name draft e).registry.searched) :
    (taken base name draft d).Twins (taken base name draft e) :=
  ⟨⟨known_twins h hbase, hsearched⟩, rfl, rfl, (document_twins h base name draft).resource.content⟩

/-- A structure is taken in among the schemas of schemas, under the name it gives itself, if it does. -/
theorem registered_eq_taken (draft : Draft) (d : Datum) : registered draft d =
    (draft.nameOf d).map fun own => taken Metaschema.registry (own.getD "") draft d := by
  unfold registered
  generalize Metaschema.registry = base
  cases draft.nameOf d <;> rfl

/-- Structures that are twins are registered as twins, or the same keeps both from being registered, as
far as searches find the same in both. -/
theorem registered_twins (h : Twin d.store e.store d.value e.value)
    (hsearched : ∀ name, Except.Rel (SchemaTables.Twins (Metaschema.registry.absorb d).2.store
        (Metaschema.registry.absorb e).2.store)
      (taken Metaschema.registry name draft d).registry.searched
      (taken Metaschema.registry name draft e).registry.searched) :
    Except.Rel Registered.Twins (registered draft d) (registered draft e) := by
  rw [registered_eq_taken, registered_eq_taken, h.nameOf]
  have hbase := Metaschema.registry_written
  generalize Metaschema.registry = base at hsearched hbase ⊢
  refine (Except.Rel.refl _).map ?_
  rintro own _ rfl
  exact taken_twins h hbase (hsearched _)

/-- Structures that are twins, and within which nothing has a name, judge all data alike. -/
theorem Registered.judgeAlike (h : Twin d.store e.store d.value e.value)
    (hnames : NamelessWithin d.store draft d.value) :
    Except.Rel (fun r r' => ∀ data : Datum, data.store.HasOwnKeys → JudgeAlike r r' data)
      (registered draft d) (registered draft e) := by
  have hregistered : Except.Rel Registered.Twins (registered draft d) (registered draft e) :=
    registered_twins h fun _ => searched_twins h Metaschema.registry_written hnames
  exact hregistered.mono fun _ _ h _ hkeys => judgeAlike_of_twins h hkeys

/-- Structures that are twins and are accepted have the same mismatches for a piece of data, but for
missing keys that one of them repeats. -/
theorem differInRepeats_of_twins (h : Twin d.store e.store d.value e.value) (hd : Accepted d r)
    (he : Accepted e r')
    (hnames : ∀ draft, draftOf d = .ok draft → NamelessWithin d.store draft d.value) {data : Datum}
    (hkeys : data.store.HasOwnKeys)
    (hfounded : ∀ v ∈ (r.verdict data).violations, v.AsksForKeys data.store →
      v.Founded r.registry.store data) :
    Except.Rel (DifferInRepeats data.store (r.sideBySide r' data)) (mismatches d data)
      (mismatches e data) := by
  rw [hd.mismatches, he.mismatches]
  obtain ⟨draft, hdraft, -, hr⟩ := hd
  obtain ⟨draft', hdraft', -, hr'⟩ := he
  obtain rfl : draft = draft' := Except.ok.inj (hdraft.symm.trans ((h.within _).trans hdraft'))
  have hjudge := Registered.judgeAlike h (hnames draft hdraft)
  rw [hr, hr'] at hjudge
  cases hjudge with
  | ok halike =>
      exact (halike data hkeys).differInRepeats hfounded fun v _ _ => hkeys.violation v

theorem sharing_twin_writtenOut : Twin sharing writtenOut (.ref 0) (.ref 0) := by
  have hnames : Twin sharing writtenOut (.ref 3) (.ref 3) :=
    .of_list (by decide) (by decide) rfl rfl (.cons (.leaf trivial) .nil)
  have hnames' : Twin sharing writtenOut (.ref 3) (.ref 5) :=
    .of_list (by decide) (by decide) rfl rfl (.cons (.leaf trivial) .nil)
  have hbranch : ∀ {n m}, n < writtenOut.containers.size → Twin sharing writtenOut (.ref 3) (.ref m) →
      writtenOut.get n = .mapping [(.text "required", .ref m)] →
      Twin sharing writtenOut (.ref 2) (.ref n) := fun hn h hget =>
    .of_mapping [("required", _)] [("required", _)] (by decide) hn rfl hget
      (.cons ⟨rfl, h⟩ .nil)
  have hlisting : Twin sharing writtenOut (.ref 1) (.ref 1) :=
    .of_list (by decide) (by decide) rfl rfl
      (.cons (hbranch (n := 2) (by decide) hnames rfl)
        (.cons (hbranch (n := 4) (by decide) hnames' rfl) .nil))
  exact .of_mapping [("allOf", _)] [("allOf", _)] (by decide) (by decide) rfl rfl
    (.cons ⟨rfl, hlisting⟩ .nil)

theorem sharing_nameless : NamelessWithin sharing .latest (.ref 0) := by
  have hbranch : Nameless sharing .latest (.ref 2) :=
    ⟨fun d v => d = .latest ∧ v = .ref 2, ⟨rfl, rfl⟩, by
      rintro _ _ ⟨rfl, rfl⟩
      exact ⟨rfl, rfl, [], rfl, fun _ h => nomatch h⟩⟩
  intro vs hvs w hw d hd
  have hwithin : within .latest ⟨sharing, .ref 0⟩ = .ok [.ref 2, .ref 2] := rfl
  obtain rfl := Except.ok.inj (hwithin.symm.trans hvs)
  have hdraft : Draft.latest.searchedWithin ⟨sharing, .ref 2⟩ = .ok .latest := rfl
  obtain rfl : w = .ref 2 := by simpa using hw
  obtain rfl := Except.ok.inj (hdraft.symm.trans hd)
  exact hbranch

/-- The structure with a branch that comes twice and the one with the branch written out twice judge all
data alike. -/
theorem Registered.judgeAlike_sharing :
    Except.Rel (fun r r' => ∀ data : Datum, data.store.HasOwnKeys → JudgeAlike r r' data)
      (registered .latest ⟨sharing, .ref 0⟩) (registered .latest ⟨writtenOut, .ref 0⟩) :=
  Registered.judgeAlike sharing_twin_writtenOut sharing_nameless

end Schema

end YamlAudit
