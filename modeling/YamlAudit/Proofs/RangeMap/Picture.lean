import YamlAudit.Proofs.RangeMap.Step
import YamlAudit.Proofs.RangeMap.Built
import YamlAudit.RangeMap.Locate

/-!
# RangeMap — the map of a regular document

In a regular document the map of a node does not depend on the way to it: below every position lie
the maps of the children (`Pictures.child`), behind every alias lies the map of its referent
(`Pictures.target`), and nothing else is there.

* `Pictures.follow`: following targets leads to what an alias stands for in the end.
* `exists_index_pictures`: a regular document whose nodes have ranges has such a map.

In other documents what lies behind an alias depends on the way to it, since names are looked up
among the nodes met on the way.  Here every way to an alias has the same node last among the
carriers of its name, and so the scope of the walk need not be mentioned any more.
-/

namespace YamlAudit

theorem Node.ScalarKeys.of_mem {d n : Node} (h : d.ScalarKeys) (hn : n ∈ d.nodes) :
    n.ScalarKeys :=
  fun x hx => h x (Node.nodes_subset hn hx)

namespace RangeMap

/-- A map shows a spot in a scope that knows what the spot leads to. -/
def Pictures (t : LineTable) (o : Spot) (m : RangeMap) : Prop :=
  ∃ s : AnchorScope, Shows t s o.node m ∧ s.Faithful o ∧ s.Unmarked o

namespace Pictures

variable {t : LineTable} {d : Node} {o : Spot} {m : RangeMap}

theorem nodeRange (h : Pictures t o m) : t.nodeRange o.node = .ok (some m.value) :=
  h.elim fun _ h => h.1.nodeRange

/-- Below a position lie the maps of the charted children. -/
theorem child (h : Pictures t o m) (hkeyed : o.node.HasKeys) (segment : Segment) :
    Option.Rel (Pictures t) ((o.into segment).filter (·.node.isCharted)) (m.child segment) := by
  obtain ⟨s, hshow, hfaithful, hunmarked⟩ := h
  have hrel := hshow.child hkeyed.2 segment
  unfold Spot.into
  cases hp : o.node.partAt segment with
  | none =>
      rw [hp] at hrel
      cases hc : m.child segment with
      | none => exact .none
      | some c => rw [hc] at hrel; cases hrel
  | some p =>
      rw [hp] at hrel
      have hmem := Node.partAt_mem hp
      simp only [Option.map_some, Option.filter_some] at hrel ⊢
      split at hrel
      · next hcharted =>
        rw [if_pos hcharted]
        generalize m.child segment = c at hrel
        cases hrel with
        | some hc => exact .some ⟨_, hc, hfaithful.child hmem, hunmarked.child hmem⟩
      · next hcharted =>
        rw [if_neg hcharted]
        generalize m.child segment = c at hrel
        cases hrel
        exact .none

/-- Behind an alias lies the map of its referent. -/
theorem target (hd : d.Regular) (ho : Spot.Inside (.root d) o) (h : Pictures t o m) :
    Option.Rel (Pictures t) o.referent m.target := by
  obtain ⟨s, hshow, hfaithful, hunmarked⟩ := h
  have hrel := hshow.target
  cases hr : o.referent with
  | none =>
      have hnone : s.hop o.node = none := by
        have hnot : ¬ o.node.isAlias := fun ha => by
          obtain ⟨r, hr'⟩ := hd.settled o ho ha
          rw [hr] at hr'
          cases hr'
        cases hn : o.node with
        | «alias» => rw [hn] at hnot; exact absurd rfl hnot
        | _ => rfl
      rw [hnone] at hrel
      generalize m.target = m' at hrel
      cases hrel
      exact .none
  | some r =>
      obtain ⟨name, hn, -⟩ := Spot.referent_eq_some.mp hr
      -- the scope gives the referent for the name, since it is faithful and the name is not marked
      have hhop : s.hop o.node = some ((s.register o.node).entering name, r.node) := by
        have hnot := hunmarked o name (.refl o) hn
        have hfind := hfaithful.find?_register hd.steady ho hn hr
        simp only [AnchorScope.hop, hn, Option.bind_some, AnchorScope.referent,
          AnchorScope.register_expanding, if_neg hnot, hfind, Option.map_some]
      rw [hhop] at hrel
      generalize m.target = m' at hrel
      cases hrel with
      | some htarget =>
          exact .some ⟨_, htarget, hfaithful.referent hd.steady ho hr name,
            hunmarked.referent hd.isOpen hd.steady ho hn hr⟩

/-- Following targets leads to the map of what a spot stands for, if that is no alias again. -/
theorem follow (hd : d.Regular) (ho : Spot.Inside (.root d) o) (h : Pictures t o m)
    (hhome : o.home.node.isAlias = false) : Pictures t o.home m.follow.2 := by
  -- at what is no alias there is nothing to follow
  have hself : ∀ {q : Spot} {m : RangeMap}, Spot.Inside (.root d) q → Pictures t q m →
      q.referent = none → m.follow.2 = m := by
    intro q m hq h hr
    have htarget := h.target hd hq
    rw [hr] at htarget
    obtain ⟨value, key, children, target⟩ := m
    cases htarget
    rfl
  cases hr : o.referent with
  | none =>
      rw [hself ho h hr, Spot.home, hr]
      exact h
  | some r =>
      rw [Spot.home_of_referent hr] at hhome ⊢
      have htarget := h.target hd ho
      rw [hr] at htarget
      obtain ⟨value, key, children, target⟩ := m
      cases htarget with
      | some hm =>
          have hr' := ho.referent hr
          have hnone := Spot.referent_eq_none_of_not_isAlias hhome
          have hfollow := hself hr' hm hnone
          rw [follow]
          dsimp only
          rwa [hfollow]

end Pictures

/-- A regular document whose nodes have ranges has a map that pictures it. -/
theorem exists_index_pictures {t : LineTable} {d : Node} (hpos : Node.Positioned t d.nodes) :
    ∃ m, index t d = .ok (some m) ∧ Pictures t (.root d) m := by
  obtain ⟨m, hm, hshow, -⟩ := exists_index hpos
  exact ⟨m, hm, .empty, hshow, .root _ d, fun _ _ _ _ => by simp [AnchorScope.empty]⟩

/-! ### Documents with a map -/

section Visits

variable {t : LineTable} {expand : Expansion}

theorem nodeRange_of_nodes {node : Node} (hr : ∃ r, t.nodeRange node = .ok r)
    (h : ∀ n ∈ Node.nodesOfItems node.children, ∃ r, t.nodeRange n = .ok r) :
    ∀ n ∈ node.nodes, ∃ r, t.nodeRange n = .ok r := by
  intro n hn
  rw [Node.nodes_eq] at hn
  rcases List.mem_cons.mp hn with rfl | hn
  · exact hr
  · exact h n hn

theorem nodeRange_of_visitItems {items : List Node}
    (ih : ∀ item ∈ items, ∀ path m s q, visit t expand item path m s = .ok q →
      ∀ n ∈ Node.nodesOfItems item.children, ∃ r, t.nodeRange n = .ok r)
    {path : Option (List PathStep)} : ∀ {k : Nat} {m : RangeMap} {s : AnchorScope}
      {q : RangeMap × AnchorScope}, visitItems t expand k items path m s = .ok q →
        ∀ n ∈ Node.nodesOfItems items, ∃ r, t.nodeRange n = .ok r := by
  induction items with
  | nil => intro _ _ _ _ _ n hn; cases hn
  | cons item rest ih' =>
      intro k m s q h n hn
      obtain ⟨r, hr, h⟩ := Except.bind_eq_ok.mp h
      obtain ⟨⟨m₁, s₁⟩, h₁, h₂⟩ := Except.bind_eq_ok.mp h
      rcases List.mem_append.mp hn with hn | hn
      · exact nodeRange_of_nodes ⟨r, hr⟩ (ih item (by simp) _ _ _ _ h₁) n hn
      · exact ih' (fun i hi => ih i (by simp [hi])) h₂ n hn

theorem nodeRange_of_visitPairs {pairs : List (Node × Node)}
    (hkeys : ∀ pair ∈ pairs, pair.1.isScalar)
    (ih : ∀ pair ∈ pairs, ∀ path m s q, visit t expand pair.2 path m s = .ok q →
      ∀ n ∈ Node.nodesOfItems pair.2.children, ∃ r, t.nodeRange n = .ok r)
    {path : Option (List PathStep)} : ∀ {m : RangeMap} {s : AnchorScope}
      {q : RangeMap × AnchorScope}, visitPairs t expand pairs path m s = .ok q →
        ∀ n ∈ Node.nodesOfPairs pairs, ∃ r, t.nodeRange n = .ok r := by
  induction pairs with
  | nil => intro _ _ _ _ n hn; cases hn
  | cons pair rest ih' =>
      obtain ⟨key, value⟩ := pair
      intro m s q h n hn
      have hkey := hkeys _ List.mem_cons_self
      cases key with
      | scalar span anchor name =>
          obtain ⟨kr, hkr, h⟩ := Except.bind_eq_ok.mp h
          obtain ⟨vr, hvr, h⟩ := Except.bind_eq_ok.mp h
          obtain ⟨⟨m₁, s₁⟩, h₁, h₂⟩ := Except.bind_eq_ok.mp h
          simp only [Node.nodesOfPairs, List.mem_append] at hn
          rcases hn with hn | hn | hn
          · exact List.mem_singleton.mp hn ▸ ⟨kr, hkr⟩
          · exact nodeRange_of_nodes ⟨vr, hvr⟩ (ih _ List.mem_cons_self _ _ _ _ h₁) n hn
          · exact ih' (fun p hp => hkeys p (by simp [hp])) (fun p hp => ih p (by simp [hp])) h₂ n hn
      | _ => cases hkey

/-- A walk that succeeds has seen the range of every node below its root. -/
theorem nodeRange_of_visit {node : Node} (hkeys : node.ScalarKeys) {path : Option (List PathStep)}
    {m : RangeMap} {s : AnchorScope} {q : RangeMap × AnchorScope}
    (h : visit t expand node path m s = .ok q) :
    ∀ n ∈ Node.nodesOfItems node.children, ∃ r, t.nodeRange n = .ok r := by
  induction node using Node.induction generalizing path m s q with
  | scalar | «alias» | bare => intro n hn; cases hn
  | sequence span anchor items ih =>
      obtain ⟨⟨m₁, s₁⟩, h₁, -⟩ := Except.bind_eq_ok.mp h
      refine nodeRange_of_visitItems (fun i hi path m s q hv => ih i hi (fun n hn => ?_) hv) h₁
      exact hkeys n (Node.nodes_subset_of_mem_children (by simpa [Node.children] using hi) hn)
  | mapping span anchor pairs ih =>
      obtain ⟨⟨m₁, s₁⟩, h₁, -⟩ := Except.bind_eq_ok.mp h
      rw [Node.children, ← Node.nodesOfPairs_eq]
      refine nodeRange_of_visitPairs (hkeys _ (Node.mem_nodes_self _))
        (fun p hp path m s q hv => (ih p hp).2 (fun n hn => ?_) hv) h₁
      refine hkeys n (Node.nodes_subset_of_mem_children ?_ hn)
      exact List.mem_flatMap.mpr ⟨p, hp, by simp⟩

/-- Where all keys are scalars, a document with spans that has a map has ranges for all its nodes. -/
theorem positioned_of_index {d : Node} (hkeys : d.ScalarKeys)
    (hspan : ∀ n ∈ d.nodes, ∃ span, n.span = some span) {m : RangeMap}
    (h : index t d = .ok (some m)) : Node.Positioned t d.nodes := by
  rw [index, build_eq] at h
  obtain ⟨r, hr, h⟩ := Except.bind_eq_ok.mp h
  cases r with
  | none => cases h
  | some r =>
      obtain ⟨q, hv, -⟩ := Except.bind_eq_ok.mp h
      intro n hn
      obtain ⟨r', hr'⟩ := nodeRange_of_nodes ⟨_, hr⟩ (nodeRange_of_visit hkeys hv) n hn
      obtain ⟨span, hs⟩ := hspan n hn
      cases r' with
      | some r' => exact ⟨r', hr'⟩
      | none =>
          simp only [LineTable.nodeRange, hs] at hr'
          cases ht : t.range span.start span.stop with
          | ok x => rw [ht] at hr'; cases hr'
          | error e => rw [ht] at hr'; cases hr'

end Visits

end RangeMap

end YamlAudit
