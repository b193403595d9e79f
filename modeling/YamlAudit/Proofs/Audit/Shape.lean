import YamlAudit.Proofs.Audit.Loading
import YamlAudit.Proofs.RangeMap.Find
import YamlAudit.Proofs.RangeMap.Picture
import YamlAudit.Proofs.Value.Copied
import YamlAudit.Proofs.Value.Operands

/-!
# Audit — the value and the map have one shape

A path leads from value to value (`Datum.find?`) and from position to position (`RangeMap.find?`).
Where the keys of a document are kept as they are written, each step from value to value is a step
from spot to spot (`Node.Mirrored.step`), and the map pictures the spots.

* `RangeMap.exists_find?`: every path of the value of a spot is a path of its map.
* `Loader.exists_find?_of_load`: in the map of a loaded document there is a position for every path
  of its value.

What keeps the two together are literal keys: a value under a key that is no scalar, or that is
shared with a value and was retagged there, lies under no segment of the map.  The last statement
excludes what breaks this, and for each condition there is a text with a value at a path and no
position there.
-/

namespace YamlAudit

/-! ### Paths -/

namespace Datum

/-- The value one step down: the member of a mapping, or the item of a list. -/
def step? (d : Datum) : Segment → Option Datum
  | .key name => d.member? name
  | .index n => if n < 0 then none else (d.items?.bind fun items => items[n.toNat]?).map d.sibling

/-- The value at a path. -/
def find? (d : Datum) : List Segment → Option Datum
  | [] => some d
  | segment :: rest => (d.step? segment).bind fun c => c.find? rest

/-- What lies one step down is an item of a list or a value under a text. -/
theorem step?_eq_some {d x : Datum} {segment : Segment} (h : d.step? segment = some x) :
    ∃ c w, d.value = .ref c ∧ x = d.sibling w ∧
      ((∃ items i, d.store.get c = .list items ∧ segment = .index i ∧ 0 ≤ i ∧
          items[i.toNat]? = some w) ∨
        ∃ es name, (d.store.get c = .mapping es ∨ d.store.get c = .ordered es) ∧
          segment = .key name ∧ (.text name, w) ∈ es) := by
  cases segment with
  | key name =>
      obtain ⟨w, hw, rfl⟩ := Option.map_eq_some_iff.mp h
      obtain ⟨es, hes, hw⟩ := Option.bind_eq_some_iff.mp hw
      obtain ⟨c, hv, hc⟩ := entries?_eq_some.mp hes
      exact ⟨c, w, hv, rfl, .inr ⟨es, name, hc, rfl, mem_of_lookupKey_text hw⟩⟩
  | index i =>
      unfold step? at h
      dsimp only at h
      split at h
      · cases h
      · next hi =>
        obtain ⟨w, hw, rfl⟩ := Option.map_eq_some_iff.mp h
        obtain ⟨items, hitems, hw⟩ := Option.bind_eq_some_iff.mp hw
        obtain ⟨c, hv, hc⟩ := items?_eq_some.mp hitems
        exact ⟨c, w, hv, rfl, .inl ⟨items, i, hc, rfl, by omega, hw⟩⟩

end Datum

/-! ### Copies with texts for keys -/

namespace Store

variable {s : Store}

/-- The entries of the copy of a mapping are copies of its entries. -/
theorem mem_plainEntries {es : List (Value × Value)} {e : Value × Value}
    (h : e ∈ s.plainEntries es) :
    ∃ e' ∈ es, e.1 = .text (Datum.text ⟨s, e'.1⟩) ∧ e.2 = s.copyOf e'.2 := by
  refine List.foldlRecOn (motive := fun acc => ∀ e ∈ acc, ∃ e' ∈ es,
    e.1 = .text (Datum.text ⟨s, e'.1⟩) ∧ e.2 = s.copyOf e'.2) es _ (List.forall_mem_nil _)
    (fun acc hacc e' he' e he => ?_) e h
  rcases mem_putKey he with he | ⟨hv, hsame⟩
  · exact hacc e he
  · exact ⟨e', he', hsame.eq_text, hv⟩

theorem copyOf_of_isAtom {v : Value} (h : v.IsAtom) : s.copyOf v = v := by
  cases v with
  | ref => exact h.elim
  | _ => rfl

theorem container?_copyOf {c : Nat} (hlt : c < s.containers.size) :
    Datum.container? ⟨s.withCopies, s.copyOf (.ref c)⟩ = some (s.plainContainer (s.get c)) := by
  cases hc : s.get c with
  | set items => simp [copyOf, hc, Datum.container?, get_withCopies hlt, plainContainer]
  | _ => simp [copyOf, hc, Datum.container?, hlt, get_withCopies_copy hlt, plainContainer]

/-- A step down in a copy is a step down in the original. -/
theorem step?_copyOf {v : Value} {segment : Segment} {x : Datum}
    (hv : ∀ c, v = .ref c → c < s.containers.size)
    (h : Datum.step? ⟨s.withCopies, s.copyOf v⟩ segment = some x) :
    ∃ c w, v = .ref c ∧ x = ⟨s.withCopies, s.copyOf w⟩ ∧
      ((∃ items n, s.get c = .list items ∧ segment = .index n ∧ 0 ≤ n ∧ items[n.toNat]? = some w) ∨
        ∃ es name, (s.get c = .mapping es ∨ s.get c = .ordered es) ∧ segment = .key name ∧
          ∃ k, (k, w) ∈ es ∧ Datum.text ⟨s, k⟩ = name) := by
  obtain ⟨c', y, hc', rfl, hy⟩ := Datum.step?_eq_some h
  cases v with
  | ref c =>
      have hget : s.withCopies.get c' = s.plainContainer (s.get c) := by
        have hcontainer := container?_copyOf (hv c rfl)
        rw [Datum.container?, hc'] at hcontainer
        exact Option.some.inj hcontainer
      rw [hget] at hy
      -- the members of the copy of a mapping come from its entries
      have hmember : ∀ {es name}, (.text name, y) ∈ s.plainEntries es →
          ∃ w, y = s.copyOf w ∧ ∃ k, (k, w) ∈ es ∧ Datum.text ⟨s, k⟩ = name := by
        intro es name hmem
        obtain ⟨⟨k, w⟩, he, hk, hw⟩ := mem_plainEntries hmem
        exact ⟨w, hw, k, he, (Value.text.inj hk).symm⟩
      cases hc : s.get c with
      | list items =>
          rw [hc] at hy
          rcases hy with ⟨_, n, hitems, rfl, hn, hy⟩ | ⟨_, _, hes | hes, -⟩
          · obtain rfl := Container.list.inj hitems
            rw [List.getElem?_map] at hy
            obtain ⟨w, hw, rfl⟩ := Option.map_eq_some_iff.mp hy
            exact ⟨c, w, rfl, rfl, .inl ⟨items, n, hc, rfl, hn, hw⟩⟩
          · cases hes
          · cases hes
      | mapping es | ordered es =>
          rw [hc] at hy
          rcases hy with ⟨_, _, hitems, -⟩ | ⟨_, name, hes | hes, rfl, hy⟩
          · cases hitems
          · obtain rfl := Container.mapping.inj hes
            obtain ⟨w, rfl, hk⟩ := hmember hy
            exact ⟨c, w, rfl, rfl, .inr ⟨es, name, by simp [hc], rfl, hk⟩⟩
          · cases hes
      | set items =>
          rw [hc] at hy
          rcases hy with ⟨_, _, hitems, -⟩ | ⟨_, _, hes | hes, -⟩
          · cases hitems
          · cases hes
          · cases hes
  | _ => cases hc'

end Store

/-! ### Children under segments -/

namespace Spot

theorem itemAt_eq_getElem? (between items : List Node) (n : Nat) :
    Node.partAt.itemAt between items n = (Node.partsOfItems between items)[n]? := by
  induction items generalizing between n with
  | nil => rfl
  | cons item rest ih =>
      cases n with
      | zero => rfl
      | succ n => exact ih _ _

/-- Under a position of a sequence is the child there. -/
theorem into_index {o : Spot} {span : Option Span} {anchor : Option String} {items : List Node}
    (h : o.node = .sequence span anchor items) {n : Int} (hn : 0 ≤ n) :
    o.into (.index n) = o.children[n.toNat]? := by
  rw [into, children, h, Node.partAt, if_neg (by omega), itemAt_eq_getElem?, List.getElem?_map]
  rfl

theorem valueAt_of_mem {before between : List Node} {ps : List (Node × Node)}
    (hnodup : (Node.keyNames ps).Nodup) {p : Spot × Spot}
    (hp : p ∈ rowOfPairs (before ++ between) ps) {span : Option Span} {anchor : Option String}
    {name : String} (hname : p.1.node = .scalar span anchor name) :
    (Node.partAt.valueAt between name ps).map (fun q => (⟨before ++ q.1, q.2⟩ : Spot)) =
      some p.2 := by
  induction ps generalizing between with
  | nil => cases hp
  | cons pair rest ih =>
      obtain ⟨key, value⟩ := pair
      have hrow : ∀ mid, mid = key.nodes ++ value.nodes →
          before ++ between ++ key.nodes ++ value.nodes = before ++ (between ++ mid) := by
        rintro _ rfl
        simp
      cases key with
      | scalar sp a text =>
          obtain ⟨hnot, hnodup⟩ := List.nodup_cons.mp hnodup
          rw [Node.partAt.valueAt]
          rcases List.mem_cons.mp hp with rfl | hp
          · cases hname
            rw [if_pos rfl, Option.map_some]
            simp [Node.nodes]
          · have hmem : (p.1.node, p.2.node) ∈ rest := by
              rw [← rowOfPairs_map _ rest]
              exact List.mem_map.mpr ⟨p, hp, rfl⟩
            -- an earlier key of this name would have it twice
            have hne : text ≠ name := by
              rintro rfl
              exact hnot (List.mem_filterMap.mpr ⟨_, hmem, by simp [hname]⟩)
            rw [hrow ([.scalar sp a text] ++ value.nodes) rfl] at hp
            rw [if_neg hne, List.append_assoc]
            exact ih hnodup hp
      -- keys that are no scalars are passed over by both
      | _ =>
          rcases List.mem_cons.mp hp with rfl | hp
          · cases hname
          · rw [hrow _ rfl] at hp
            rw [Node.partAt.valueAt, List.append_assoc]
            · exact ih hnodup hp
            · simp

/-- Under the text of a scalar key is its value. -/
theorem into_key {o : Spot} (hnodup : (Node.keyNames o.node.pairs).Nodup) {p : Spot × Spot}
    (hp : p ∈ o.pairs) {span : Option Span} {anchor : Option String} {name : String}
    (hname : p.1.node = .scalar span anchor name) : o.into (.key name) = some p.2 := by
  cases hn : o.node with
  | mapping sp a ps =>
      rw [pairs, hn] at hp
      rw [hn] at hnodup
      rw [into, hn, Node.partAt]
      exact valueAt_of_mem hnodup hp hname
  | _ =>
      rw [pairs, hn] at hp
      cases hp

end Spot

/-! ### One step on both sides -/

namespace Node

/-- Keys that are kept as they are written have different texts. -/
theorem hasKeys_of_entries {o : Spot} (hscalar : ∀ pair ∈ o.node.pairs, pair.1.isScalar)
    {es : List (Value × Value)} (hes : List.Forall₂ (fun (p : Spot × Spot) e =>
      ∀ span anchor t, p.1.node = .scalar span anchor t → e.1 = .text t) o.pairs es)
    (hdistinct : DistinctKeys es) : o.node.HasKeys := by
  have hkeys : ∀ {ps : List (Spot × Spot)} {es : List (Value × Value)},
      (∀ p ∈ ps, p.1.node.isScalar) → List.Forall₂ (fun (p : Spot × Spot) e =>
        ∀ span anchor t, p.1.node = .scalar span anchor t → e.1 = .text t) ps es →
      es.map Prod.fst = (keyNames (ps.map fun p => (p.1.node, p.2.node))).map Value.text := by
    intro ps es hscalar hes
    induction hes with
    | nil => rfl
    | @cons p e ps es hpe _ ih =>
        have hp := hscalar p List.mem_cons_self
        have ih := ih fun q hq => hscalar q (by simp [hq])
        cases hn : p.1.node with
        | scalar span anchor t => simp [keyNames, hn, hpe _ _ _ hn, ih]
        | _ => rw [hn] at hp; cases hp
  refine ⟨hscalar, ?_⟩
  have hmap := hkeys (fun p hp => hscalar _ (o.pairs_map_node ▸ List.mem_map.mpr ⟨p, hp, rfl⟩)) hes
  have hpairwise : (es.map Prod.fst).Pairwise fun a b => a.sameKey b = false :=
    List.pairwise_map.mpr hdistinct
  rw [hmap, o.pairs_map_node, List.pairwise_map] at hpairwise
  refine hpairwise.imp ?_
  rintro a b hab rfl
  simp [Value.sameKey] at hab

namespace Mirrored

variable {d : Node} {s : Store} {val : Spot → Option Value} {standard : Prop}

/-- A step down in the value of a spot is a step down in the spot. -/
theorem step (hm : d.Mirrored True standard s val) (hw : ∀ n ∈ d.nodes, n.IsWritten)
    (hkeys : d.ScalarKeys) {o : Spot} (ho : Spot.Inside (.root d) o)
    (hna : o.node.isAlias = false) {v : Value} (hv : val o = some v) {segment : Segment}
    {x : Datum} (h : Datum.step? ⟨s.withCopies, s.copyOf v⟩ segment = some x) :
    o.node.HasKeys ∧ ∃ c w, o.into segment = some c ∧ val c = some w ∧
      x = ⟨s.withCopies, s.copyOf w⟩ := by
  obtain ⟨c, w, rfl, rfl, hstep⟩ := Store.step?_copyOf (fun c hc => hm.bound o c (hc ▸ hv)) h
  cases hn : o.node with
  | scalar => exact (hm.scalar o _ _ _ _ ho hv hn).elim
  | «alias» => rw [hn] at hna; cases hna
  | bare => exact absurd hn ((hw _ ho.mem_nodes).2.2 _ _)
  | sequence span anchor items =>
      obtain ⟨c', vs, hc', hget, hvs⟩ := hm.sequence o _ _ _ _ ho hv hn
      cases hc'
      refine ⟨⟨by simp [pairs], by simp [pairs, keyNames]⟩, ?_⟩
      rcases hstep with ⟨items', n, hitems, rfl, hpos, hitem⟩ | ⟨es, name, hes, -⟩
      · cases hget.symm.trans hitems
        -- the items of the value are those of the node, place by place
        obtain ⟨i, hi, hval⟩ := exists_getElem?_of_forall₂ hvs hitem
        exact ⟨i, w, (Spot.into_index hn hpos).trans hi, hval, rfl⟩
      · rcases hes with hes | hes <;> cases hget.symm.trans hes
  | mapping span anchor ps =>
      rcases hm.mapping o _ _ _ _ ho hv hn with ⟨c', es, hc', hget, hes, hdistinct⟩ |
        ⟨-, hatom | ⟨c', vs, hc', hget⟩⟩
      · cases hc'
        have hscalar := hkeys _ ho.mem_nodes
        have hown : o.node.HasKeys := hasKeys_of_entries hscalar
          (hes.imp fun _ _ h => h.2 trivial) hdistinct
        refine ⟨hn ▸ hown, ?_⟩
        rcases hstep with ⟨items, n, hitems, -⟩ | ⟨es', name, hes', rfl, k, hk, ht⟩
        · cases hget.symm.trans hitems
        · rcases hes' with hes' | hes'
          · cases hget.symm.trans hes'
            -- the entry is that of a pair, and its key is the text of the key there
            obtain ⟨i, hi⟩ := List.getElem?_of_mem hk
            obtain ⟨p, hp, hval, hkey⟩ := exists_getElem?_of_forall₂ hes hi
            have hp := List.mem_of_getElem? hp
            have hpn := hscalar _ (o.pairs_map_node ▸ List.mem_map.mpr ⟨p, hp, rfl⟩)
            cases hpk : p.1.node with
            | scalar sp a t =>
                obtain rfl := hkey trivial _ _ _ hpk
                obtain rfl : t = name := ht
                exact ⟨p.2, w, Spot.into_key hown.2 hp hpk, hval, rfl⟩
            | _ => simp [hpk, isScalar] at hpn
          · cases hget.symm.trans hes'
      -- neither an atom nor a set has members
      · exact hatom.elim
      · cases hc'
        rcases hstep with ⟨items, n, hitems, -⟩ | ⟨es, name, hes, -⟩
        · cases hget.symm.trans hitems
        · rcases hes with hes | hes <;> cases hget.symm.trans hes

end Mirrored

end Node

/-! ### All steps of a path -/

/-- A name by which an alias stands for a key. -/
def Node.SharesKey (d : Node) (name : String) : Prop :=
  ∃ a o p, Spot.Inside (.root d) a ∧ a.node.aliasName? = some name ∧ Spot.Inside (.root d) o ∧
    p ∈ o.pairs ∧ a.referent = some p.1

/-- The tags under which values are shaped as they are written: nothing is merged, a sequence is
neither an ordered map nor a list of pairs, and a key for which an alias stands is a text. -/
def Node.KeepsShape (d : Node) : Yaml.TagRule
  | anchor, .scalar, tag => tag ≠ Yaml.ScalarType.merge.tag ∧
      ∀ name ∈ anchor, d.SharesKey name → tag = Yaml.ScalarType.text.tag
  | _, .sequence, tag => tag ≠ "tag:yaml.org,2002:omap" ∧ tag ≠ "tag:yaml.org,2002:pairs"
  | _, .mapping, _ => True

/-- Every key is written in place or is an alias. -/
def Node.NoCollectionKeys (d : Node) : Prop :=
  ∀ n ∈ d.nodes, ∀ pair ∈ n.pairs, pair.1.isScalar ∨ pair.1.isAlias

instance (d : Node) : Decidable d.NoCollectionKeys :=
  inferInstanceAs (Decidable (∀ n ∈ d.nodes, ∀ pair ∈ n.pairs, _ ∨ _))

/-- Spots of one document are told apart by where they are. -/
theorem Node.sharesKey_iff {d : Node} {name : String} : d.SharesKey name ↔
    ∃ a ∈ Spot.spots d, a.node.aliasName? = some name ∧ ∃ o ∈ Spot.spots d, ∃ p ∈ o.pairs,
      ∃ r ∈ a.referent, r.before.length = p.1.before.length := by
  simp only [SharesKey, Spot.mem_spots_iff]
  constructor
  · rintro ⟨a, o, p, ha, hname, ho, hp, hr⟩
    exact ⟨a, ha, hname, o, ho, p, hp, p.1, hr, rfl⟩
  · rintro ⟨a, ha, hname, o, ho, p, hp, r, hr, hlen⟩
    obtain rfl := Spot.eq_of_before_length (ha.referent hr)
      (ho.tail (Spot.pairs_mem_children hp).1) hlen
    exact ⟨a, o, p, ha, hname, ho, hp, hr⟩

instance (d : Node) (name : String) : Decidable (d.SharesKey name) :=
  decidable_of_iff' _ Node.sharesKey_iff

instance (d : Node) (anchor : Option String) (kind : Yaml.NodeKind) (tag : String) :
    Decidable (d.KeepsShape anchor kind tag) :=
  match kind with
  | .scalar => inferInstanceAs (Decidable (_ ∧ _))
  | .sequence => inferInstanceAs (Decidable (_ ∧ _))
  | .mapping => inferInstanceAs (Decidable True)

/-- The key `&k 0x10` stands for no text, which matters only because of the alias. -/
example :
    let entry : Node := .mapping none none [(.scalar none (some "k") "0x10", .scalar none none "1")]
    let shared : Node := .sequence none none [entry, .alias none none (some "k")]
    entry.KeepsShape (some "k") .scalar Yaml.ScalarType.int.tag ∧
      ¬ shared.KeepsShape (some "k") .scalar Yaml.ScalarType.int.tag := by
  decide +kernel

theorem Yaml.Build.Recipe.ofTag?_ne {tag : String} (homap : tag ≠ "tag:yaml.org,2002:omap")
    (hpairs : tag ≠ "tag:yaml.org,2002:pairs") :
    ofTag? tag ≠ some (.collection .ordered) ∧ ofTag? tag ≠ some (.collection .pairs) := by
  unfold ofTag?
  constructor
  · split <;> simp_all
  · split <;> simp_all

namespace Yaml.Graph.Of

variable {T : TagRule} {g : Graph} {d : Node} {o : Spot} {p : Spot × Spot}

/-- A key that is a scalar is a scalar of the graph. -/
theorem key (h : g.Of T d) (hkeys : d.ScalarKeys) (ho : Spot.Inside (.root d) o)
    (hp : p ∈ o.pairs) : p.1.node.isAlias = false ∧ (g.get p.1.ref).content.kind = .scalar ∧
      T p.1.node.anchor .scalar (g.get p.1.ref).tag := by
  have hscalar : p.1.node.isScalar :=
    hkeys _ ho.mem_nodes _ (o.pairs_map_node ▸ List.mem_map.mpr ⟨p, hp, rfl⟩)
  cases hn : p.1.node with
  | scalar span anchor t =>
      have hna : p.1.node.isAlias = false := by rw [hn]; rfl
      have hhas := h.draws.has _ (ho.tail (Spot.pairs_mem_children hp).1) hna
      rw [Spot.ref_of_not_isAlias hna]
      have hc := hhas.draws.content_scalar hn
      have htag := hhas.tagged
      rw [hc, hn] at htag
      rw [hc]
      exact ⟨rfl, rfl, htag⟩
  | _ => rw [hn] at hscalar; cases hscalar

/-- What has the number of a key stands for that key. -/
theorem home_eq_key (h : g.Of T d) (hkeys : d.ScalarKeys) (ho : Spot.Inside (.root d) o)
    (hp : p ∈ o.pairs) {v : Spot} (hv : Spot.Inside (.root d) v) (href : v.ref = p.1.ref) :
    v.home = p.1 := by
  rw [h.home_eq hv (ho.tail (Spot.pairs_mem_children hp).1) href,
    Spot.home_of_not_isAlias (h.key hkeys ho hp).1]

/-- A document with scalar keys has a plan that keeps them as they are. -/
theorem exists_literal (h : g.Of d.KeepsShape d) (hkeys : d.ScalarKeys) (hopen : d.Open) :
    ∃ literal, (g.plan d literal).Sound ∧
      (literal (Spot.ref (.root d)) → (g.get (Spot.ref (.root d))).tag = ScalarType.text.tag) ∧
      (True → ∀ o, Spot.Inside (.root d) o → ∀ p ∈ o.pairs, literal p.1.ref) := by
  -- the numbers of keys
  let literal (k : Nat) : Prop := ∃ o p, Spot.Inside (.root d) o ∧ p ∈ o.pairs ∧ k = p.1.ref
  refine ⟨literal, h.sound hopen ?_ ?_ ?_ fun _ tag ht => Build.Recipe.ofTag?_ne ht.1 ht.2,
    ?_, fun _ o ho p hp => ⟨o, p, ho, hp, rfl⟩⟩
  · rintro _ ⟨o, p, ho, hp, rfl⟩
    exact (h.key hkeys ho hp).2.1
  · rintro o' ho' v hv ⟨o, p, ho, hp, href⟩
    have hv' := ho'.tail (Spot.values_subset_children hv)
    have hvp := h.home_eq_key hkeys ho hp hv' href
    cases hr : v.referent with
    | none =>
        rw [Spot.home, hr] at hvp
        exact absurd hvp.symm (Spot.key_ne_value ho ho' hp hv)
    | some r =>
        -- an alias stands for the key, so the key is a text
        rw [Spot.home_of_referent hr] at hvp
        subst hvp
        obtain ⟨name, hname, hlast⟩ := Spot.referent_eq_some.mp hr
        obtain ⟨-, -, hcarries, -⟩ := Spot.lastCarrier_eq_some.mp hlast
        rw [href]
        exact (h.key hkeys ho hp).2.2.2 name hcarries ⟨v, o, p, hv', hname, ho, hp, hr⟩
  · intro o ho p hp
    obtain ⟨-, hkind, hmerge, -⟩ := h.key hkeys ho hp
    exact ⟨hmerge, fun _ => hkind⟩
  · rintro ⟨o, p, ho, hp, href⟩
    have hroot : Spot.home (.root d) = .root d := by
      rw [Spot.home, Spot.referent_root]
      rfl
    have hkey := h.home_eq_key hkeys ho hp (.refl _) href
    exact absurd (hkey.symm.trans hroot) (Spot.key_ne_root ho hp)

end Yaml.Graph.Of

namespace RangeMap

/-- Every path of the value of a spot is a path of its map. -/
theorem exists_find? {t : LineTable} {d : Node} {s : Store} {val : Spot → Option Value}
    {standard : Prop} (hm : d.Mirrored True standard s val) (hw : ∀ n ∈ d.nodes, n.IsWritten)
    (hd : d.Regular) (hkeys : d.ScalarKeys) (path : List Segment) :
    ∀ {o : Spot} {v : Value} {m : RangeMap}, Spot.Inside (.root d) o → val o = some v →
      Pictures t o m → (Datum.find? ⟨s.withCopies, s.copyOf v⟩ path).isSome →
      ∃ c, m.find? path = some c := by
  induction path with
  | nil => exact fun _ _ _ _ => ⟨_, rfl⟩
  | cons segment rest ih =>
      intro o v m ho hv hpic hfind
      obtain ⟨x, hx⟩ := Option.isSome_iff_exists.mp hfind
      obtain ⟨y, hy, hrest⟩ := Option.bind_eq_some_iff.mp hx
      have hna := Spot.isAlias_home hw hd.settled ho
      rw [← hm.home o ho] at hv
      obtain ⟨hown, c, w, hc, hval, rfl⟩ := hm.step hw hkeys ho.home hna hv hy
      have hin := ho.home.tail (Spot.mem_children_of_into hc)
      have hcharted : c.node.isCharted = true :=
        (hkeys.of_mem hin.mem_nodes).isCharted fun sp a h =>
          (hw _ (Node.nodes_subset hin.mem_nodes h)).2.2 sp a rfl
      have hchild := (hpic.follow hd ho hna).child hown segment
      rw [hc, Option.filter_some, hcharted, if_pos rfl] at hchild
      rw [find?]
      generalize m.follow.2.child segment = next at hchild
      cases hchild with
      | some hnext => exact ih hin hval hnext (Option.isSome_iff_exists.mpr ⟨x, hrest⟩)

end RangeMap

namespace Loader

/-- In the map of a loaded document there is a position for every path of its value, and a walk along
the path ends there. -/
theorem exists_find?_of_load {l : Loader} {text : String} {doc : LoadedDocument} {m : RangeMap}
    {d : Node} (hl : l.Ready) (hload : (l.load text).1 = .ok doc) (hmap : doc.rangeMap = some m)
    (htree : (l.readTree text.toList).1 = .ok (some d)) (hkeys : d.ScalarKeys)
    (hopen : d.Open) (hsteady : d.Steady)
    (htags : ∀ part ∈ (Yaml.Markup.run l.treeVersion text.toList).parts, part.Tagged d.KeepsShape)
    (path : List Segment) (hpath : (doc.data.find? path).isSome) :
    ∃ c, m.find? path = some c ∧ (m.walk path).2 = c.follow.2 := by
  obtain ⟨hindexed, hsettled, hw, data, val, -, hdata, hm, hval⟩ := mirrored_of_load True False
    hl hload htree htags (fun g hg => hg.exists_literal hkeys hopen) False.elim
  have hd : d.Regular := ⟨hsettled, hopen, hsteady⟩
  rw [hmap] at hindexed
  have hpos := RangeMap.positioned_of_index hkeys (fun n hn => (hw n hn).1) hindexed
  obtain ⟨m', hm', hpic⟩ := RangeMap.exists_index_pictures hpos
  obtain rfl : m = m' := Option.some.inj (Except.ok.inj (hindexed.symm.trans hm'))
  rw [hdata] at hpath
  obtain ⟨c, hc⟩ := RangeMap.exists_find? hm hw hd hkeys path (.refl _) hval hpic hpath
  exact ⟨c, hc, RangeMap.walk_of_find? hc⟩

theorem exists_find?_of_load_sharedKey :
    let text := "&k a: &x {p: 1}\nb: [*x, *k]\n"
    let path : List Segment := [.key "b", .index 0, .key "p"]
    ∃ doc m d, ((start {}).load text).1 = .ok doc ∧ doc.rangeMap = some m ∧
      ((start {}).readTree text.toList).1 = .ok (some d) ∧ d.ScalarKeys ∧ d.Open ∧ d.Steady ∧
      (∀ part ∈ (Yaml.Markup.run (start {}).treeVersion text.toList).parts,
        part.Tagged d.KeepsShape) ∧ (doc.data.find? path).isSome ∧
      ∃ c, m.find? path = some c ∧ (m.walk path).2 = c.follow.2 := by
  intro text path
  have hall : (((start {}).load text).1.toOption.any (fun doc => doc.rangeMap.any fun _ =>
        (doc.data.find? path).isSome) &&
      ((start {}).readTree text.toList).1.toOption.any fun root => root.any fun d =>
        decide (d.ScalarKeys ∧ d.Open ∧ d.Settled ∧ d.anchorNames.Nodup ∧
          ∀ part ∈ (Yaml.Markup.run (start {}).treeVersion text.toList).parts,
            part.Tagged d.KeepsShape)) = true := by decide +kernel
  obtain ⟨doc, m, d, hload, hmap, htree, hpath, hd⟩ := exists_of_any_load hall
  obtain ⟨hkeys, hopen, hsettled, hnodup, htags⟩ := of_decide_eq_true hd
  have hsteady := Spot.steady_of_nodup hsettled hnodup
  exact ⟨doc, m, d, hload, hmap, htree, hkeys, hopen, hsteady, htags, hpath,
    exists_find?_of_load (ready_start {}) hload hmap htree hkeys hopen hsteady htags path hpath⟩

/-- Not every loaded document has all positions: not where an alias is a key, where something is
merged, in an ordered map or a list of pairs, where an alias stands for a key that is no text, nor
where an alias is overtaken. -/
theorem exists_find?_eq_none :
    List.Forall (fun input : String × List Segment =>
      ∃ doc m d, ((start {}).load input.1).1 = .ok doc ∧ doc.rangeMap = some m ∧
        ((start {}).readTree input.1.toList).1 = .ok (some d) ∧ d.NoCollectionKeys ∧ d.Open ∧
        (doc.data.find? input.2).isSome ∧ m.find? input.2 = none)
      [("a: &k 1\n*k : 2\n", [.key "1"]),
        ("a: &x {p: 1}\nb: {<<: *x}\n", [.key "b", .key "p"]),
        ("!!omap [k: 1]\n", [.key "k"]),
        ("- !!pairs [&m {0x10: 1}]\n- *m\n", [.index 1, .key "16"]),
        ("[{? &k 0x10 : 1}, *k]\n", [.index 0, .key "16"]),
        ("[&a {p: 1}, &b [*a], &a 1, *b]\n", [.index 3, .index 0, .key "p"])] := by
  rw [List.forall_iff_forall_mem]
  intro input hinput
  have hall : (((start {}).load input.1).1.toOption.any (fun doc => doc.rangeMap.any fun m =>
        (doc.data.find? input.2).isSome && (m.find? input.2).isNone) &&
      ((start {}).readTree input.1.toList).1.toOption.any fun root => root.any fun d =>
        decide (d.NoCollectionKeys ∧ d.Open)) = true := by
    revert input
    decide +kernel
  obtain ⟨doc, m, d, hload, hmap, htree, hfound, hd⟩ := exists_of_any_load hall
  obtain ⟨hpath, hnone⟩ := Bool.and_eq_true_iff.mp hfound
  obtain ⟨hkeys, hopen⟩ := of_decide_eq_true hd
  exact ⟨doc, m, d, hload, hmap, htree, hkeys, hopen, hpath, Option.isNone_iff_eq_none.mp hnone⟩

end Loader

end YamlAudit
