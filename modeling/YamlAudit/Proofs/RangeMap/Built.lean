import Mathlib.Data.List.Nodup
import Mathlib.Data.List.Perm.Subperm
import YamlAudit.Proofs.Document.Spot
import YamlAudit.Proofs.RangeMap.Shows
import YamlAudit.Proofs.Source.Order

/-!
# RangeMap — the map of a document

Each expansion marks a name of the document that was not marked before, so with room for as many
expansions as the document has names the room is never used up (`Within.referent_eq_none`).

* `Node.Spanned.positioned`: nodes whose spans do not run backwards have ranges.
* `exists_index`: a document whose nodes have ranges has a map, which shows the document.

Nothing is asked of the aliases: a document in which they lead in a circle has a map as well, with
the circle cut where a name comes again.
-/

namespace YamlAudit

namespace Node

/-- What is below a node of a tree belongs to the tree. -/
theorem nodes_subset {d n x : Node} (hn : n ∈ d.nodes) (hx : x ∈ n.nodes) : x ∈ d.nodes := by
  obtain ⟨pre, post, h⟩ := List.append_of_mem hn
  obtain ⟨post', h'⟩ := Spot.Inside.before_append (o := ⟨pre, n⟩)
    (by simpa [Spot.root] using Spot.inside_of_nodes (a := .root d) h)
  rw [h']
  simp [hx]

/-- Every node of a tree has a span, and none runs backwards. -/
def Spanned (d : Node) : Prop :=
  ∀ n ∈ d.nodes, ∃ span, span ∈ n.span ∧ span.start ≤ span.stop

instance (d : Node) : Decidable d.Spanned := inferInstanceAs (Decidable (∀ n ∈ d.nodes, _))

theorem Spanned.positioned {d : Node} (h : d.Spanned) (t : LineTable) : Positioned t d.nodes := by
  intro n hn
  obtain ⟨span, hs, hle⟩ := h n hn
  obtain ⟨r, hr, -⟩ := t.nodeRange_of_span hs hle
  exact ⟨r, hr⟩

end Node

namespace RangeMap

/-- How an alias is expanded with room for `budget` expansions inside each other. -/
def expansion (t : LineTable) : Nat → Expansion
  | 0, _, _ => .ok none
  | _ + 1, _, none => .ok none
  | budget + 1, scope, some name =>
    match scope.referent name with
    | some node => build t budget node (scope.entering name)
    | none => .ok none

theorem build_eq (t : LineTable) (budget : Nat) (node : Node) (s : AnchorScope) :
    build t budget node s = rootedAt t (expansion t budget) node s := by
  cases budget with
  | zero => rw [build]; congr
  | succ budget =>
      rw [build]
      congr
      funext scope source
      cases source <;> rfl

/-- A map that was built is the new map of its root with the leaves of the root written into it. -/
theorem build_eq_some {t : LineTable} {budget : Nat} {node : Node} {s : AnchorScope} {m : RangeMap}
    (h : build t budget node s = .ok (some m)) :
    ∃ r, t.nodeRange node = .ok (some r) ∧
      writeAll (expansion t budget) (node.leaves t (some []) s) (leaf r none) = .ok m := by
  rw [build_eq] at h
  obtain ⟨r, hr, h⟩ := Except.bind_eq_ok.mp h
  cases r with
  | none => cases h
  | some r =>
      obtain ⟨⟨m', s'⟩, hv, h⟩ := Except.bind_eq_ok.mp h
      cases h
      exact ⟨r, hr, (visit_eq_ok hv).2⟩

/-! ### Scopes within a document -/

/-- A scope that a walk through a document can have, with room for `budget` more expansions. -/
structure Within (d : Node) (budget : Nat) (s : AnchorScope) : Prop where
  bound : ∀ {name n}, AnchorScope.find? name s.anchors = some n → n ∈ d.nodes ∧ n.Carries name
  nodup : s.expanding.Nodup
  named : ∀ name ∈ s.expanding, name ∈ d.anchorNames
  room : d.anchorNames.length ≤ budget + s.expanding.length

namespace Within

variable {d : Node} {budget : Nat} {s : AnchorScope}

theorem empty (d : Node) : Within d d.anchorNames.length .empty where
  bound h := by cases h
  nodup := List.nodup_nil
  named _ h := by cases h
  room := Nat.le_add_right _ _

theorem kept (d : Node) (budget : Nat) : KeptBy d.nodes (Within d budget) := by
  intro n hn s hs
  refine ⟨fun {name n'} h => ?_, ?_, ?_, ?_⟩
  · rw [AnchorScope.find?_register] at h
    split at h
    · next hc => cases h; exact ⟨hn, hc⟩
    · exact hs.bound h
  · rw [AnchorScope.register_expanding]; exact hs.nodup
  · rw [AnchorScope.register_expanding]; exact hs.named
  · rw [AnchorScope.register_expanding]; exact hs.room

theorem referent {name : String} {n : Node} (h : s.referent name = some n) :
    name ∉ s.expanding ∧ AnchorScope.find? name s.anchors = some n := by
  unfold AnchorScope.referent at h
  split at h
  · cases h
  · next hn => exact ⟨hn, h⟩

/-- Behind an alias there is room for one expansion less. -/
theorem entering (hs : Within d (budget + 1) s) {name : String} {n : Node}
    (h : s.referent name = some n) : n ∈ d.nodes ∧ Within d budget (s.entering name) := by
  obtain ⟨hnot, hfind⟩ := referent h
  obtain ⟨hn, hc⟩ := hs.bound hfind
  refine ⟨hn, ?_⟩
  have heq : s.entering name = { s with expanding := s.expanding ++ [name] } := by
    simp [AnchorScope.entering, hnot]
  rw [heq]
  refine ⟨hs.bound, ?_, ?_, ?_⟩
  · exact List.nodup_append.mpr ⟨hs.nodup, List.nodup_singleton _, fun a ha b hb => by
      rw [List.mem_singleton.mp hb]; exact fun e => hnot (e ▸ ha)⟩
  · intro x hx
    rcases List.mem_append.mp hx with hx | hx
    · exact hs.named x hx
    · exact List.mem_singleton.mp hx ▸ Node.mem_anchorNames_iff.mpr ⟨n, hn, hc⟩
  · have := hs.room
    simp only [List.length_append, List.length_singleton]
    omega

/-- Without room all names of the document are marked. -/
theorem referent_eq_none (hs : Within d 0 s) (name : String) : s.referent name = none := by
  cases h : s.referent name with
  | none => rfl
  | some n =>
      obtain ⟨hnot, hfind⟩ := referent h
      obtain ⟨hn, hc⟩ := hs.bound hfind
      have hsub : name :: s.expanding ⊆ d.anchorNames := by
        intro x hx
        rcases List.mem_cons.mp hx with rfl | hx
        · exact Node.mem_anchorNames_iff.mpr ⟨n, hn, hc⟩
        · exact hs.named x hx
      have hlen := (List.Nodup.subperm (List.nodup_cons.mpr ⟨hnot, hs.nodup⟩) hsub).length_le
      have := hs.room
      simp only [List.length_cons] at hlen
      omega

end Within

/-! ### The map of a document -/

section Document

variable {t : LineTable} {d : Node}

/-- A tree whose aliases can be expanded to the right targets has a map that shows it. -/
theorem exists_build_of_expansion (hpos : Node.Positioned t d.nodes) {budget : Nat}
    (he : ∀ s source, Within d budget s →
      ∃ target, expansion t budget s source = .ok target ∧ IsTarget t s source target)
    {s : AnchorScope} {node : Node} (hs : Within d budget s) (hn : node ∈ d.nodes) :
    ∃ m, build t budget node s = .ok (some m) ∧ Shows t s node m ∧ m.key = none := by
  obtain ⟨r, hr⟩ := hpos node hn
  have hsub : ∀ n ∈ node.nodes, n ∈ d.nodes := fun _ => Node.nodes_subset hn
  obtain ⟨⟨m, s'⟩, hv⟩ := exists_visit_eq_ok (Within.kept d budget)
    (fun n hn => (hpos n hn).elim fun r h => ⟨some r, h⟩)
    (fun s source hs => (he s source hs).imp fun _ h => h.1) hsub (some []) (leaf r none) hs
  refine ⟨m, ?_, shows_of_writeAll hpos (Within.kept d budget) (fun s source target hs h => ?_)
    hsub hs hr (visit_eq_ok hv).2⟩
  · rw [build_eq]
    exact Except.bind_eq_ok.mpr ⟨some r, hr, Except.bind_eq_ok.mpr ⟨_, hv, rfl⟩⟩
  · obtain ⟨target', h', htarget⟩ := he s source hs
    rw [h] at h'
    exact (Except.ok.inj h').symm ▸ htarget

theorem exists_build (hpos : Node.Positioned t d.nodes) :
    ∀ {budget : Nat} {s : AnchorScope} {node : Node}, Within d budget s → node ∈ d.nodes →
      ∃ m, build t budget node s = .ok (some m) ∧ Shows t s node m ∧ m.key = none := by
  intro budget
  induction budget with
  | zero =>
      intro s node
      refine exists_build_of_expansion hpos fun s source hs => ⟨none, rfl, ?_⟩
      cases source with
      | none => rfl
      | some name => exact hs.referent_eq_none name
  | succ budget ih =>
      intro s node
      refine exists_build_of_expansion hpos fun s source hs => ?_
      cases source with
      | none => exact ⟨none, rfl, rfl⟩
      | some name =>
          rw [expansion]
          cases href : s.referent name with
          | none => exact ⟨none, rfl, href⟩
          | some n =>
              obtain ⟨hn, hs'⟩ := hs.entering href
              obtain ⟨m, hm, hshow, hkey⟩ := ih hs' hn
              exact ⟨some m, hm, name, n, rfl, href, hshow, hkey⟩

/-- A document whose nodes have ranges has a map, and the map shows it. -/
theorem exists_index (hpos : Node.Positioned t d.nodes) :
    ∃ m, index t d = .ok (some m) ∧ Shows t .empty d m ∧ m.key = none :=
  exists_build hpos (Within.empty d) (Node.mem_nodes_self d)

end Document

end RangeMap

end YamlAudit
