import YamlAudit.Proofs.Value.Twin
import YamlAudit.Value.Layout

/-!
# Value — layouts of twins

A layout goes into tuples and containers, each of which takes one of its calls.  A container leaves one
container less to go into, and inside it there are at most as many tuples inside one another as in any
container of the store (`Store.nesting`), so the calls that `Datum.layout` gives are enough.  Twins may
lie in stores of different sizes and be given different numbers of calls; as neither runs out of them,
both have the same layout.

* `Apart.layoutFrom`: values apart from the containers around them, with enough calls each.
* `Twin.layout`: twins have one layout.
-/

namespace YamlAudit

/-! ### Tuples inside one another -/

theorem Value.nesting_le_of_mem {v : Value} {vs : List Value} (h : v ∈ vs) :
    v.nesting ≤ nestingOf vs := by
  induction vs with
  | nil => cases h
  | cons w rest ih =>
      rw [nestingOf]
      rcases List.mem_cons.mp h with rfl | h
      · exact Nat.le_max_left _ _
      · exact (ih h).trans (Nat.le_max_right _ _)

/-- How many tuples lie inside one another in what is in some container, or in a value beside them. -/
def Store.nesting (s : Store) (v : Value) : Nat :=
  s.containers.foldl (fun most c => max most c.nesting) v.nesting

namespace Store

variable {s : Store} {v : Value}

/-- The depth of all containers together is no less than that of each of them. -/
theorem le_foldl_nesting (cs : List Container) (most : Nat) :
    most ≤ cs.foldl (fun most c => max most c.nesting) most ∧
      ∀ c ∈ cs, c.nesting ≤ cs.foldl (fun most c => max most c.nesting) most := by
  induction cs generalizing most with
  | nil => exact ⟨Nat.le_refl _, fun _ h => nomatch h⟩
  | cons c rest ih =>
      obtain ⟨hmost, hrest⟩ := ih (max most c.nesting)
      refine ⟨(Nat.le_max_left _ _).trans hmost, List.forall_mem_cons.mpr ⟨?_, hrest⟩⟩
      exact (Nat.le_max_right _ _).trans hmost

theorem nesting_le (s : Store) (v : Value) : v.nesting ≤ s.nesting v := by
  rw [nesting, ← Array.foldl_toList]
  exact (le_foldl_nesting _ _).1

theorem nesting_get_le (s : Store) (v : Value) (n : Nat) : (s.get n).nesting ≤ s.nesting v := by
  by_cases hn : n < s.containers.size
  · rw [nesting, ← Array.foldl_toList]
    refine (le_foldl_nesting _ _).2 _ ?_
    simp [get, Array.getD, hn]
  · rw [get_of_size_le (Nat.le_of_not_lt hn)]
    exact Nat.zero_le _

end Store

/-! ### Calls enough -/

/-- A number of calls that is enough for the layout of a value inside some containers, where there are
at most `nesting` tuples inside one another in any container. -/
def Store.Suffices (s : Store) (nesting : Nat) (around : List Nat) (v : Value) (calls : Nat) : Prop :=
  s.outside around * (nesting + 1) + v.nesting < calls

namespace Store.Suffices

variable {s : Store} {nesting calls n : Nat} {around : List Nat} {v : Value}

/-- An item of a tuple is left one call less. -/
theorem item {vs : List Value} (h : s.Suffices nesting around (.tuple vs) (calls + 1)) (hv : v ∈ vs) :
    s.Suffices nesting around v calls := by
  have hle := Value.nesting_le_of_mem hv
  rw [Suffices, Value.nesting] at h
  rw [Suffices]
  omega

/-- So is what lies in a container that was not entered. -/
theorem inside (h : s.Suffices nesting around (.ref n) (calls + 1)) (hn : n ∉ around)
    (hlt : n < s.containers.size) (hv : v.nesting ≤ nesting) :
    s.Suffices nesting (n :: around) v calls := by
  have hless := s.outside_cons_lt hn hlt
  have hzero : (Value.ref n).nesting = 0 := rfl
  rw [Suffices, hzero] at h
  rw [Suffices]
  have hmul : (s.outside (n :: around) + 1) * (nesting + 1) ≤ s.outside around * (nesting + 1) :=
    Nat.mul_le_mul_right _ hless
  rw [Nat.add_mul] at hmul
  omega

end Store.Suffices

section Items

variable {α β : Type} {R : α → β → Prop}

/-- Items are laid out one after the other. -/
theorem itemsLayout_cons (place : LineRoom → α → String) (r : LineRoom) (a b : α) (rest : List α) :
    itemsLayout place r (a :: b :: rest) =
      place r.beforeComma a ++ "," ++ r.lineBreak ++ itemsLayout place r (b :: rest) := rfl

/-- Items that are placed alike have one layout. -/
theorem itemsLayout_eq {place : LineRoom → α → String} {place' : LineRoom → β → String}
    {as : List α} {bs : List β} (h : List.Forall₂ R as bs)
    (hplace : ∀ r a b, a ∈ as → b ∈ bs → R a b → place r a = place' r b) (r : LineRoom) :
    itemsLayout place r as = itemsLayout place' r bs := by
  induction h with
  | nil => rfl
  | @cons a b as bs hab hrest ih =>
      have ih := ih fun r a b ha hb =>
        hplace r a b (List.mem_cons_of_mem _ ha) (List.mem_cons_of_mem _ hb)
      have hfirst := fun r => hplace r a b List.mem_cons_self List.mem_cons_self hab
      cases hrest with
      | nil => exact hfirst r
      | cons => rw [itemsLayout_cons, itemsLayout_cons, hfirst, ih]

end Items

/-! ### Layouts -/

variable {s t : Store} {nesting nesting' : Nat}

/-- With enough calls each, values that are apart from the containers around them have one layout. -/
theorem Apart.layoutFrom (hnesting : ∀ n, (s.get n).nesting ≤ nesting)
    (hnesting' : ∀ n, (t.get n).nesting ≤ nesting') {calls calls' : Nat} {outermost : Bool}
    {around around' : List Nat} {r : LineRoom} {v w : Value} (h : Apart s t around around' v w)
    (hv : s.Suffices nesting around v calls) (hw : t.Suffices nesting' around' w calls') :
    layoutFrom s calls outermost around r v = layoutFrom t calls' outermost around' r w := by
  -- by induction on the calls of the left layout; those of the right one only have to suffice
  induction calls generalizing calls' outermost around around' r v w with
  | zero => exact absurd hv (Nat.not_lt_zero _)
  | succ calls ih =>
      cases calls' with
      | zero => exact absurd hw (Nat.not_lt_zero _)
      | succ calls' =>
          have hliteral := h.literalFrom_room
          unfold YamlAudit.layoutFrom
          simp only [hliteral]
          refine ite_congr rfl (fun _ => rfl) fun _ => ?_
          cases h.shape with
          | leaf hleaf => cases v <;> first | rfl | exact hleaf.elim
          | @tuple vs ws hall =>
              have hitems : ∀ r, itemsLayout (YamlAudit.layoutFrom s calls false around) r vs =
                  itemsLayout (YamlAudit.layoutFrom t calls' false around') r ws :=
                itemsLayout_eq hall fun _ _ _ ha hb hab => ih hab (hv.item ha) (hw.item hb)
              cases hall with
              -- a tuple with one item is laid out in a room of its own
              | nil => simp only [itemsLayout]
              | @cons a b _ _ hab hrest =>
                  cases hrest with
                  | nil =>
                      have hitem : YamlAudit.layoutFrom s calls false around (r.within 1 2) a =
                          YamlAudit.layoutFrom t calls' false around' (r.within 1 2) b :=
                        ih hab (hv.item List.mem_cons_self) (hw.item List.mem_cons_self)
                      simp only [hitem]
                  | cons => simp only [hitems]
          | @list m n vs ws hm hn hvs hws hall =>
              -- inside a container the calls suffice for one container less
              have hs : nestingOf vs ≤ nesting := by simpa [hvs, Container.nesting] using hnesting m
              have ht : nestingOf ws ≤ nesting' := by simpa [hws, Container.nesting] using hnesting' n
              have hitems : ∀ r, itemsLayout (YamlAudit.layoutFrom s calls false (m :: around)) r vs =
                  itemsLayout (YamlAudit.layoutFrom t calls' false (n :: around')) r ws :=
                itemsLayout_eq hall fun _ _ _ ha hb hab => ih hab
                  (hv.inside hm h.left.lt ((Value.nesting_le_of_mem ha).trans hs))
                  (hw.inside hn h.right.lt ((Value.nesting_le_of_mem hb).trans ht))
              simp only [List.contains_eq_mem, hm, hn, decide_false, Bool.false_eq_true, if_false, hvs,
                hws, hitems]
          | @mapping m n es fs hm hn hes hfs hall =>
              have hs : nestingOf (es.map Prod.snd) ≤ nesting := by
                simpa [hes, Container.nesting] using hnesting m
              have ht : nestingOf (fs.map Prod.snd) ≤ nesting' := by
                simpa [hfs, Container.nesting] using hnesting' n
              simp only [List.contains_eq_mem, hm, hn, decide_false, Bool.false_eq_true, if_false, hes,
                hfs]
              refine congrArg braced (itemsLayout_eq hall (fun r e f he hf hef => ?_) _)
              rw [hef.keyed.literalFrom_room]
              refine congrArg (_ ++ ·) (ih hef.value (hv.inside hm h.left.lt ?_)
                (hw.inside hn h.right.lt ?_))
              · exact (Value.nesting_le_of_mem (List.mem_map_of_mem he)).trans hs
              · exact (Value.nesting_le_of_mem (List.mem_map_of_mem hf)).trans ht
          | @ordered m n es fs hm hn hes hfs hall hpairs =>
              have hs : nestingOf (es.map .pair) ≤ nesting := by
                simpa [hes, Container.nesting] using hnesting m
              have ht : nestingOf (fs.map .pair) ≤ nesting' := by
                simpa [hfs, Container.nesting] using hnesting' n
              have hliterals := map_eq_of_forall₂ hpairs fun _ _ h => h.literalFrom_room
              have hitems : ∀ r, itemsLayout (YamlAudit.layoutFrom s calls false (m :: around)) r
                  (es.map .pair) = itemsLayout (YamlAudit.layoutFrom t calls' false (n :: around')) r
                  (fs.map .pair) :=
                itemsLayout_eq hpairs fun _ _ _ ha hb hab => ih hab
                  (hv.inside hm h.left.lt ((Value.nesting_le_of_mem ha).trans hs))
                  (hw.inside hn h.right.lt ((Value.nesting_le_of_mem hb).trans ht))
              simp only [List.contains_eq_mem, hm, hn, decide_false, Bool.false_eq_true, if_false, hes,
                hfs, isEmpty_eq_of_forall₂ hall, hliterals, hitems]

/-- Twins have one layout. -/
theorem Twin.layout {v w : Value} (h : Twin s t v w) : Datum.layout ⟨s, v⟩ = Datum.layout ⟨t, w⟩ := by
  have hsuffices : ∀ (u : Store) (x : Value),
      u.Suffices (u.nesting x) [] x (u.room * (u.nesting x + 1)) := by
    intro u x
    have hless : u.outside [] + 1 ≤ u.room := u.outside_lt_room []
    have hmul := Nat.mul_le_mul_right (u.nesting x + 1) hless
    have hle := u.nesting_le x
    rw [Nat.add_mul] at hmul
    rw [Store.Suffices]
    omega
  exact h.layoutFrom (s.nesting_get_le v) (t.nesting_get_le w) (hsuffices s v) (hsuffices t w)

end YamlAudit
