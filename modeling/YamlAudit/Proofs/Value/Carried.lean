import YamlAudit.Proofs.Value.Twin

/-!
# Value — values carried into another store

The containers of a store may be taken into another one, each to a place of its own there
(`Store.Carries`): a store that has grown still has what it had (`Store.Extends`), and the containers
of a document move up when it joins others.  What could be written out still can
(`Store.Carries.unfolds`), and what were twins still are, each in its new store (`Twin.carried`).

Nothing in a store depends on the number of a container, so all that a value is asked has the same
answer where it has been taken.  Both ways in which a structure comes into a registry are of this
kind: it is taken in behind what is there, and more is taken in behind it.
-/

namespace YamlAudit

/-- A container with other values in the places of its own. -/
def Container.mapped (f : Value → Value) : Container → Container
  | .list vs => .list (vs.map f)
  | .mapping es => .mapping (es.map (Prod.map f f))
  | .ordered es => .ordered (es.map (Prod.map f f))
  | .set vs => .set (vs.map f)

/-- The containers of a store are in another one, each where `f` says. -/
structure Store.Carries (s s' : Store) (f : Value → Value) : Prop where
  leaf (v : Value) : v.IsLeaf → f v = v
  tuple (vs : List Value) : f (.tuple vs) = .tuple (vs.map f)
  ref (n : Nat) : n < s.containers.size →
    ∃ n' < s'.containers.size, f (.ref n) = .ref n' ∧ s'.get n' = (s.get n).mapped f

/-- A store that has grown. -/
structure Store.Extends (s s' : Store) : Prop where
  size : s.containers.size ≤ s'.containers.size
  get (n : Nat) : n < s.containers.size → s'.get n = s.get n

theorem Container.mapped_id (c : Container) : c.mapped id = c := by
  cases c <;> simp [mapped]

namespace Store

/-- A store that has grown has its containers in the same places. -/
theorem Extends.carries {s s' : Store} (h : s.Extends s') : s.Carries s' id where
  leaf _ _ := rfl
  tuple vs := by simp
  ref n hn := ⟨n, hn.trans_le h.size, rfl, by rw [h.get n hn, Container.mapped_id]⟩

theorem Extends.refl (s : Store) : s.Extends s := ⟨Nat.le_refl _, fun _ _ => rfl⟩

theorem Extends.trans {s s' s'' : Store} (h : s.Extends s') (h' : s'.Extends s'') : s.Extends s'' :=
  ⟨h.size.trans h'.size, fun n hn => (h'.get n (hn.trans_le h.size)).trans (h.get n hn)⟩

theorem get_add (s : Store) (c : Container) : (s.add c).2.get s.containers.size = c := by
  simp [add, get]

theorem size_lt_add (s : Store) (c : Container) :
    s.containers.size < (s.add c).2.containers.size := by
  simp [add]

/-- A container that is added leaves the others as they are. -/
theorem extends_add (s : Store) (c : Container) : s.Extends (s.add c).2 where
  size := (size_lt_add s c).le
  get n hn := by simp [add, get, Array.getElem?_push, hn, Nat.ne_of_lt hn]

namespace Carries

variable {s s' : Store} {f : Value → Value}

mutual

/-- A key that is the same in all stores stays as it is. -/
theorem own (h : s.Carries s' f) : ∀ {v : Value}, v.IsOwn → f v = v
  | .tuple vs, hv => by rw [h.tuple, allOwn h hv]
  | .ref _, hv | .nan _, hv => hv.elim
  | .null, _ | .bool _, _ | .int _, _ | .float _, _ | .text _, _ | .bytes _, _ | .date _, _
  | .moment _, _ => h.leaf _ trivial

theorem allOwn (h : s.Carries s' f) : ∀ {vs : List Value}, AllOwn vs → vs.map f = vs
  | [], _ => rfl
  | v :: vs, hvs => by rw [List.map_cons, own h hvs.1, allOwn h hvs.2]

end

/-- Such a key stays one. -/
theorem isOwn (h : s.Carries s' f) {v : Value} (hv : v.IsOwn) : (f v).IsOwn := by
  rwa [h.own hv]

/-- The pair of an entry becomes the pair of what its parts become. -/
theorem pair (h : s.Carries s' f) (e : Value × Value) : f (.pair e) = .pair (f e.1, f e.2) :=
  h.tuple _

/-- What can be written out still can, and goes no deeper. -/
theorem unfolds (h : s.Carries s' f) : ∀ {depth : Nat} {v : Value}, s.Unfolds depth v →
    s'.Unfolds depth (f v)
  | 0, _, hv => hv.elim
  | depth + 1, .tuple vs, hv => by
      rw [h.tuple]
      exact List.forall_mem_map.mpr fun v hmem => unfolds h (hv v hmem)
  | depth + 1, .ref n, hv => by
      obtain ⟨n', hn', hf, hget⟩ := h.ref n hv.1
      rw [hf]
      refine ⟨hn', ?_⟩
      rw [hget]
      -- the content is the content of the original, carried part by part
      have hof := hv.2
      generalize s.get n = c at hof
      cases c with
      | list vs => exact List.forall_mem_map.mpr fun v hmem => unfolds h (hof v hmem)
      | mapping es =>
          refine List.forall_mem_map.mpr fun e he => ?_
          obtain ⟨hown, hkey, hvalue⟩ := hof e he
          exact ⟨h.isOwn hown, unfolds h hkey, unfolds h hvalue⟩
      | ordered es =>
          refine List.forall_mem_map.mpr fun e he => ?_
          obtain ⟨hown, hpair⟩ := hof e he
          exact ⟨h.isOwn hown, h.pair e ▸ unfolds h hpair⟩
      | set vs => exact hof
  | _ + 1, .nan _, hv => hv.elim
  | _ + 1, .null, _ | _ + 1, .bool _, _ | _ + 1, .int _, _ | _ + 1, .float _, _ | _ + 1, .text _, _
  | _ + 1, .bytes _, _ | _ + 1, .date _, _ | _ + 1, .moment _, _ => by
      rw [h.leaf]
      exacts [trivial, trivial]

end Carries

end Store

section Twins

variable {s s' t t' : Store} {f g : Value → Value} {v w : Value}

/-- What were twins are twins in the stores they are carried into. -/
theorem Twin.carried (hf : s.Carries s' f) (hg : t.Carries t' g) (h : Twin s t v w) :
    Twin s' t' (f v) (g w) := by
  obtain ⟨_, hv⟩ := h.left.unfolds
  obtain ⟨_, hw⟩ := h.right.unfolds
  refine ⟨⟨fun x y => ∃ v w, Twin s t v w ∧ x = f v ∧ y = g w, ⟨v, w, h, rfl, rfl⟩, ?_⟩,
    .of_unfolds (hf.unfolds hv), .of_unfolds (hg.unfolds hw)⟩
  -- the relation between the carried values is one: it is closed under what a step asks for
  rintro _ _ ⟨v, w, h, rfl, rfl⟩
  have hlist : ∀ {around around' : List Nat} {vs ws : List Value},
      List.Forall₂ (Apart s t around around') vs ws →
      List.Forall₂ (fun x y => ∃ v w, Twin s t v w ∧ x = f v ∧ y = g w) (vs.map f) (ws.map g) :=
    fun hall => List.forall₂_map_left_iff.mpr (List.forall₂_map_right_iff.mpr
      (hall.imp fun v w hvw => ⟨v, w, hvw.twin, rfl, rfl⟩))
  have hentries : ∀ {around around' : List Nat} {es fs : List (Value × Value)},
      List.Forall₂ (SameEntry (Apart s t around around')) es fs →
      List.Forall₂ (EntryRel fun x y => ∃ v w, Twin s t v w ∧ x = f v ∧ y = g w)
        (es.map (Prod.map f f)) (fs.map (Prod.map g g)) :=
    fun hall => List.forall₂_map_left_iff.mpr (List.forall₂_map_right_iff.mpr
      (hall.imp fun e e' he =>
        ⟨⟨e.1, e'.1, he.keyed.twin, rfl, rfl⟩, e.2, e'.2, he.value.twin, rfl, rfl⟩))
  have hlt : ∀ {m n : Nat}, Twin s t (.ref m) (.ref n) → m < s.containers.size ∧
      n < t.containers.size := fun h => ⟨h.left.lt, h.right.lt⟩
  cases h.shape with
  | leaf hleaf =>
      rw [hf.leaf v hleaf, hg.leaf v hleaf]
      exact .leaf hleaf
  | tuple hall =>
      rw [hf.tuple, hg.tuple]
      exact .tuple (hlist hall)
  | @list m n vs ws _ _ hvs hws hall =>
      obtain ⟨m', -, hm, hgetm⟩ := hf.ref m (hlt h).1
      obtain ⟨n', -, hn, hgetn⟩ := hg.ref n (hlt h).2
      rw [hm, hn]
      refine .ref ?_
      rw [hgetm, hgetn, hvs, hws]
      exact .list (hlist hall)
  | @mapping m n es fs _ _ hes hfs hall =>
      obtain ⟨m', -, hm, hgetm⟩ := hf.ref m (hlt h).1
      obtain ⟨n', -, hn, hgetn⟩ := hg.ref n (hlt h).2
      rw [hm, hn]
      refine .ref ?_
      rw [hgetm, hgetn, hes, hfs]
      exact .mapping (hentries hall)
  | @ordered m n es fs _ _ hes hfs hall =>
      obtain ⟨m', -, hm, hgetm⟩ := hf.ref m (hlt h).1
      obtain ⟨n', -, hn, hgetn⟩ := hg.ref n (hlt h).2
      rw [hm, hn]
      refine .ref ?_
      rw [hgetm, hgetn, hes, hfs]
      exact .ordered (hentries hall)

/-- What were twins are twins in stores that have grown. -/
theorem Twin.extend (hs : s.Extends s') (ht : t.Extends t') (h : Twin s t v w) : Twin s' t' v w :=
  h.carried hs.carries ht.carries

end Twins

/-! ### New containers -/

namespace Store

/-- Several values that can be written out need no more than the deepest of them. -/
theorem exists_unfolds {s : Store} {vs : List Value} (h : ∀ v ∈ vs, ∃ depth, s.Unfolds depth v) :
    ∃ depth, ∀ v ∈ vs, s.Unfolds depth v := by
  induction vs with
  | nil => exact ⟨0, fun _ hv => nomatch hv⟩
  | cons v rest ih =>
      obtain ⟨⟨depth, hv⟩, hrest⟩ := List.forall_mem_cons.mp h
      obtain ⟨depth', hall⟩ := ih hrest
      exact ⟨max depth depth', List.forall_mem_cons.mpr
        ⟨hv.mono (Nat.le_max_left _ _), fun w hw => (hall w hw).mono (Nat.le_max_right _ _)⟩⟩

/-- A list of values that can be written out can be written out. -/
theorem Unfolds.list {s : Store} {n : Nat} {vs : List Value} (hn : n < s.containers.size)
    (hget : s.get n = .list vs) (h : ∀ v ∈ vs, ∃ depth, s.Unfolds depth v) :
    ∃ depth, s.Unfolds depth (.ref n) := by
  obtain ⟨depth, hall⟩ := exists_unfolds h
  exact ⟨depth + 1, hn, hget ▸ hall⟩

/-- So can a mapping from names to such values. -/
theorem Unfolds.mapping {s : Store} {n : Nat} {es : List (String × Value)}
    (hn : n < s.containers.size) (hget : s.get n = .mapping (es.map fun e => (.text e.1, e.2)))
    (h : ∀ e ∈ es, ∃ depth, s.Unfolds depth e.2) : ∃ depth, s.Unfolds depth (.ref n) := by
  have hvalues : ∀ v ∈ es.map Prod.snd, ∃ depth, s.Unfolds depth v := List.forall_mem_map.mpr h
  obtain ⟨depth, hall⟩ := exists_unfolds hvalues
  refine ⟨depth + 1 + 1, hn, ?_⟩
  rw [hget]
  exact List.forall_mem_map.mpr fun e he =>
    ⟨trivial, trivial, (hall e.2 (List.mem_map_of_mem he)).succ⟩

end Store

namespace Twin

variable {s t : Store} {m n : Nat}

/-- Lists of twins are twins. -/
theorem of_list {vs ws : List Value} (hm : m < s.containers.size) (hn : n < t.containers.size)
    (hvs : s.get m = .list vs) (hws : t.get n = .list ws) (h : List.Forall₂ (Twin s t) vs ws) :
    Twin s t (.ref m) (.ref n) := by
  obtain ⟨_, hleft⟩ := Store.Unfolds.list hm hvs
    (forall_left_of_forall₂ h fun _ _ h => h.left.unfolds)
  obtain ⟨_, hright⟩ := Store.Unfolds.list hn hws
    (forall_left_of_forall₂ h.flip fun _ _ h => h.right.unfolds)
  refine ⟨.ref ?_, .of_unfolds hleft, .of_unfolds hright⟩
  rw [hvs, hws]
  exact .list (h.imp fun _ _ h => h.alike)

/-- So are mappings with twins under the same names. -/
theorem of_mapping (es fs : List (String × Value)) (hm : m < s.containers.size)
    (hn : n < t.containers.size) (hes : s.get m = .mapping (es.map fun e => (.text e.1, e.2)))
    (hfs : t.get n = .mapping (fs.map fun f => (.text f.1, f.2)))
    (h : List.Forall₂ (fun e f => e.1 = f.1 ∧ Twin s t e.2 f.2) es fs) :
    Twin s t (.ref m) (.ref n) := by
  obtain ⟨_, hleft⟩ := Store.Unfolds.mapping hm hes
    (forall_left_of_forall₂ h fun _ _ h => h.2.left.unfolds)
  obtain ⟨_, hright⟩ := Store.Unfolds.mapping hn hfs
    (forall_left_of_forall₂ h.flip fun _ _ h => h.2.right.unfolds)
  refine ⟨.ref ?_, .of_unfolds hleft, .of_unfolds hright⟩
  rw [hes, hfs]
  refine .mapping (List.forall₂_map_left_iff.mpr (List.forall₂_map_right_iff.mpr (h.imp ?_)))
  rintro ⟨name, v⟩ ⟨_, w⟩ ⟨rfl, hvw⟩
  exact ⟨.leaf trivial, hvw.alike⟩

end Twin

end YamlAudit
