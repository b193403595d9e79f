import Mathlib.Data.List.Chain
import YamlAudit.Proofs.Document.Grammar

/-!
# Document — spans inside each other

Where events know their places and none begins before the one before it has ended, the spans of the
tree they compose to lie like brackets: none runs backwards, each lies inside that of its parent,
and siblings follow one another (`Node.Encloses`).

* `Event.InOrder.pairwise`: of any two events the earlier one ends before the later one begins.
* `Describes.encloses`: the span of a node begins and ends with one of the events of the node, and
  everything in it encloses its children.
* `encloses_of_compose`: the same of the tree that a whole list of events composes to.

An alias has no events inside it and stands for a node that has ended before, so its own span is all
there is to it.  The statements are about spans and not about characters: nothing is said of what
the text has at these places.
-/

namespace YamlAudit

open OpenCollection (spanOf)

namespace Event

/-- An event knows where it begins and where it ends, and does not run backwards. -/
def Placed (e : Event) : Prop := ∃ start ∈ e.start, ∃ stop ∈ e.stop, start ≤ stop

/-- An event has ended when another begins, as far as both know. -/
def EndsBefore (e f : Event) : Prop := ∀ stop ∈ e.stop, ∀ start ∈ f.start, stop ≤ start

instance (e : Event) : Decidable e.Placed :=
  inferInstanceAs (Decidable (∃ start ∈ e.start, ∃ stop ∈ e.stop, start ≤ stop))

instance (e f : Event) : Decidable (e.EndsBefore f) :=
  inferInstanceAs (Decidable (∀ stop ∈ e.stop, ∀ start ∈ f.start, stop ≤ start))

/-- Events that know where they stand, each beginning where or after the one before it ends. -/
structure InOrder (events : List Event) : Prop where
  placed : ∀ e ∈ events, e.Placed
  chain : events.IsChain EndsBefore

/-- Of any two events the earlier one ends before the later one begins. -/
theorem InOrder.pairwise {events : List Event} (h : InOrder events) :
    events.Pairwise EndsBefore := by
  obtain ⟨hplaced, hchain⟩ := h
  induction hchain with
  | nil => exact .nil
  | singleton e => exact List.pairwise_singleton _ _
  | @cons_cons e f rest hef _ ih =>
      obtain ⟨-, hplaced⟩ := List.forall_mem_cons.mp hplaced
      have hrest := ih hplaced
      obtain ⟨a, ha, b, hb, hab⟩ := hplaced f List.mem_cons_self
      refine List.pairwise_cons.mpr ⟨fun g hg => ?_, hrest⟩
      rcases List.mem_cons.mp hg with rfl | hg
      · exact hef
      · intro stop hstop start hstart
        have h₁ := hef stop hstop a ha
        have h₂ := (List.pairwise_cons.mp hrest).1 g hg b hb start hstart
        omega

end Event

namespace Node

/-- A node ends before another begins, as far as their spans are known. -/
def EndsBefore (a b : Node) : Prop := ∀ s ∈ a.span, ∀ t ∈ b.span, s.stop ≤ t.start

/-- How the spans of a node and its children lie: none runs backwards, the children lie inside, and
each of them ends before the next begins. -/
structure Encloses (n : Node) : Prop where
  spanned : ∃ span, n.span = some span ∧ span.start ≤ span.stop
  inside : ∀ c ∈ n.children, ∀ outer ∈ n.span, ∀ inner ∈ c.span,
    outer.start ≤ inner.start ∧ inner.stop ≤ outer.stop
  ordered : n.children.Pairwise EndsBefore

/-- A node stands where some events do: its span begins with one of them and ends with one. -/
def StandsIn (n : Node) (events : List Event) : Prop :=
  ∃ span, n.span = some span ∧ span.start ≤ span.stop ∧
    (∃ e ∈ events, e.start = some span.start) ∧ ∃ e ∈ events, e.stop = some span.stop

theorem StandsIn.mono {n : Node} {a b : List Event} (h : n.StandsIn a) (hab : a ⊆ b) :
    n.StandsIn b := by
  obtain ⟨span, hs, hle, ⟨e, he, hstart⟩, f, hf, hstop⟩ := h
  exact ⟨span, hs, hle, ⟨e, hab he, hstart⟩, f, hab hf, hstop⟩

theorem StandsIn.endsBefore {m n : Node} {a b : List Event} (hm : m.StandsIn a) (hn : n.StandsIn b)
    (h : ∀ e ∈ a, ∀ f ∈ b, e.EndsBefore f) : m.EndsBefore n := by
  obtain ⟨_, hs, -, -, e, he, hstop⟩ := hm
  obtain ⟨_, ht, -, ⟨f, hf, hstart⟩, -⟩ := hn
  intro s hs' t ht'
  cases hs.symm.trans hs'
  cases ht.symm.trans ht'
  exact h e he f hf _ hstop _ hstart

/-- The single event of a node without children. -/
theorem encloses_of_event {n : Node} {e : Event} (hspan : n.span = spanOf e.start e.stop)
    (hchildren : n.children = []) (he : e.Placed) :
    n.StandsIn [e] ∧ ∀ x ∈ n.nodes, x.Encloses := by
  obtain ⟨start, hstart, stop, hstop, hle⟩ := he
  rw [hstart, hstop] at hspan
  refine ⟨⟨⟨start, stop⟩, hspan, hle, ⟨e, by simp, hstart⟩, e, by simp, hstop⟩, fun x hx => ?_⟩
  rcases mem_nodes_iff.mp hx with rfl | ⟨c, hc, -⟩
  · refine ⟨⟨_, hspan, hle⟩, ?_, ?_⟩ <;> rw [hchildren]
    · exact fun _ hc => nomatch hc
    · exact .nil
  · rw [hchildren] at hc
    cases hc

/-- The events around the children of a node. -/
theorem encloses_of_events {n : Node} {first last : Event} {events : List Event}
    (hspan : n.span = spanOf first.start last.stop)
    (hplaced : ∀ e ∈ first :: (events ++ [last]), e.Placed)
    (hpair : (first :: (events ++ [last])).Pairwise Event.EndsBefore)
    (hchildren : ∀ c ∈ n.children, c.StandsIn events ∧ ∀ x ∈ c.nodes, x.Encloses)
    (hordered : n.children.Pairwise EndsBefore) :
    n.StandsIn (first :: (events ++ [last])) ∧ ∀ x ∈ n.nodes, x.Encloses := by
  have hlast : last ∈ events ++ [last] := List.mem_append_right _ (List.mem_singleton_self last)
  obtain ⟨hfirst, hpair⟩ := List.pairwise_cons.mp hpair
  obtain ⟨start, hstart, a, ha, hle⟩ := hplaced first List.mem_cons_self
  obtain ⟨b, hb, stop, hstop, hle'⟩ := hplaced last (List.mem_cons_of_mem _ hlast)
  rw [hstart, hstop] at hspan
  have hspanned : start ≤ stop := by
    have := hfirst last hlast a ha b hb
    omega
  have hself : n.Encloses := by
    refine ⟨⟨_, hspan, hspanned⟩, fun c hc outer houter inner hinner => ?_, hordered⟩
    cases hspan.symm.trans houter
    obtain ⟨_, hs, -, ⟨e, he, hestart⟩, f, hf, hfstop⟩ := (hchildren c hc).1
    cases hs.symm.trans hinner
    -- the span of a child begins and ends with events between the first and the last
    have h₁ := hfirst e (List.mem_append_left _ he) a ha _ hestart
    have h₂ := (List.pairwise_append.mp hpair).2.2 f hf last (List.mem_singleton_self last) _ hfstop
      b hb
    exact ⟨Int.le_trans hle h₁, Int.le_trans h₂ hle'⟩
  refine ⟨⟨_, hspan, hspanned, ⟨first, List.mem_cons_self, hstart⟩, last,
    List.mem_cons_of_mem _ hlast, hstop⟩, fun x hx => ?_⟩
  rcases mem_nodes_iff.mp hx with rfl | ⟨c, hc, hx⟩
  · exact hself
  · exact (hchildren c hc).2 x hx

end Node

section Described

variable {limit : Int}

mutual

/-- Described by events in order, a node stands where they do, and everything in it encloses its
children. -/
theorem Describes.encloses {depth : Nat} {events : List Event} {node : Node} :
    Describes limit depth events node → (∀ e ∈ events, e.Placed) →
      events.Pairwise Event.EndsBefore → node.StandsIn events ∧ ∀ n ∈ node.nodes, n.Encloses
  | .scalar _ _, hplaced, _ =>
      Node.encloses_of_event rfl rfl (hplaced _ (List.mem_singleton_self _))
  | .alias _ _, hplaced, _ =>
      Node.encloses_of_event rfl rfl (hplaced _ (List.mem_singleton_self _))
  | .sequence _ _ hall _, hplaced, hpair => by
      obtain ⟨hitems, hordered⟩ := hall.encloses (fun e he => hplaced e (by simp [he]))
        (hpair.sublist ((List.sublist_append_left ..).trans (List.sublist_cons_self ..)))
      exact Node.encloses_of_events rfl hplaced hpair hitems hordered
  | .mapping _ _ hall _, hplaced, hpair => by
      obtain ⟨hchildren, hordered⟩ := hall.encloses (fun e he => hplaced e (by simp [he]))
        (hpair.sublist ((List.sublist_append_left ..).trans (List.sublist_cons_self ..)))
      exact Node.encloses_of_events rfl hplaced hpair
        (fun c hc => hchildren c (List.mem_append_left _ hc))
        (hordered.sublist (List.sublist_append_left ..))

theorem DescribesAll.encloses {depth : Nat} {events : List Event} {nodes : List Node} :
    DescribesAll limit depth events nodes → (∀ e ∈ events, e.Placed) →
      events.Pairwise Event.EndsBefore →
      (∀ node ∈ nodes, node.StandsIn events ∧ ∀ n ∈ node.nodes, n.Encloses) ∧
        nodes.Pairwise Node.EndsBefore
  | .nil, _, _ => ⟨by simp, .nil⟩
  | .cons hnode hall, hplaced, hpair => by
      obtain ⟨hfirst, hrest⟩ := List.forall_mem_append.mp hplaced
      obtain ⟨hpair₁, hpair₂, hbetween⟩ := List.pairwise_append.mp hpair
      obtain ⟨hstands, hencloses⟩ := hnode.encloses hfirst hpair₁
      obtain ⟨hothers, hordered⟩ := hall.encloses hrest hpair₂
      refine ⟨List.forall_mem_cons.mpr
        ⟨⟨hstands.mono (List.subset_append_left ..), hencloses⟩, fun n hn => ?_⟩, ?_⟩
      · exact ⟨(hothers n hn).1.mono (List.subset_append_right ..), (hothers n hn).2⟩
      · exact List.pairwise_cons.mpr
          ⟨fun n hn => hstands.endsBefore (hothers n hn).1 hbetween, hordered⟩

end

end Described

/-- Every node of a tree that events in order compose to encloses its children. -/
theorem encloses_of_compose {limit : Int} {events : List Event} {root : Node}
    (h : compose limit events = .ok (some root)) (horder : Event.InOrder events) :
    ∀ n ∈ root.nodes, n.Encloses := by
  obtain ⟨before, first, body, after, hfilter, -, -, hbody, -⟩ := compose_eq_some_iff.mp h
  have hsub : body.Sublist events := by
    refine List.Sublist.trans ?_ (List.filter_sublist (p := fun e => !e.kind.isStream))
    rw [hfilter]
    exact ((List.sublist_append_left body after).trans (List.sublist_cons_self ..)).trans
      (List.sublist_append_right ..)
  exact (hbody.encloses (fun e he => horder.placed e (hsub.subset he))
    (horder.pairwise.sublist hsub)).2

end YamlAudit
