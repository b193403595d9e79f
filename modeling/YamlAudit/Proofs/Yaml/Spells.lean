import YamlAudit.Proofs.Document.Grammar
import YamlAudit.Proofs.Yaml.Yields
import YamlAudit.Yaml.Tree

/-!
# Yaml — trees and the parts that spell them

A tree that was composed from the parts of a text is spelled by them: after the start of the document
come the parts of its nodes in document order, and after these nothing but ends.

* `Awaits`: what is expected next fits the collections that are open, and tells how many children
  each has, so a mapping ends after a value.
* `MarkupRun.spelled`: a composed tree is spelled by the parts of its run.

An alias and a node that is not there have one part each, and a collection has two around those of
its children.  So a tree has as many parts as it is told by, and they can be taken apart in one way
only.
-/

namespace YamlAudit.Yaml

/-- Where a collection stands that begins with one part and ends with another. -/
def Markup.spanTo (m e : Markup) : Option Span := some ⟨m.start.index, e.stop.index⟩

mutual

/-- Parts that are the whole of a node. -/
inductive Spells : Node → List Markup → Prop
  | scalar {m p untyped value} : m.kind = .scalar p untyped value →
      Spells (.scalar (m.spanTo m) p.anchor value) [m]
  | alias {m name} : m.kind = .alias name → Spells (.alias (m.spanTo m) none (some name)) [m]
  | sequence {m p items parts e} : m.kind = .sequenceStart p → SpellsAll items parts →
      e.kind = .sequenceEnd → Spells (.sequence (m.spanTo e) p.anchor items) (m :: parts ++ [e])
  | mapping {m p pairs parts e} : m.kind = .mappingStart p →
      SpellsAll (pairs.flatMap fun pair => [pair.1, pair.2]) parts → e.kind = .mappingEnd →
      Spells (.mapping (m.spanTo e) p.anchor pairs) (m :: parts ++ [e])

/-- Parts that are the whole of some nodes. -/
inductive SpellsAll : List Node → List Markup → Prop
  | nil : SpellsAll [] []
  | cons {node rest parts more} : Spells node parts → SpellsAll rest more →
      SpellsAll (node :: rest) (parts ++ more)

end

theorem SpellsAll.append {a b : List Node} {ps qs : List Markup} (ha : SpellsAll a ps)
    (hb : SpellsAll b qs) : SpellsAll (a ++ b) (ps ++ qs) := by
  induction a generalizing ps with
  | nil => cases ha; exact hb
  | cons node rest ih =>
      cases ha with
      | cons hnode hrest => rw [List.append_assoc]; exact .cons hnode (ih hrest)

/-- Parts that begin some collections and are the whole of the children these have so far. -/
inductive SpellsOpen : List OpenCollection → List Markup → Prop
  | nil : SpellsOpen [] []
  | sequence {c outer parts m p more} : SpellsOpen outer parts → m.kind = .sequenceStart p →
      c.shape = .sequence → c.anchor = p.anchor → c.start = some (m.start.index : Int) →
      SpellsAll c.children.reverse more → SpellsOpen (c :: outer) (parts ++ m :: more)
  | mapping {c outer parts m p more} : SpellsOpen outer parts → m.kind = .mappingStart p →
      c.shape = .mapping → c.anchor = p.anchor → c.start = some (m.start.index : Int) →
      SpellsAll c.children.reverse more → SpellsOpen (c :: outer) (parts ++ m :: more)

namespace SpellsOpen

theorem pairUp_flatten {l : List Node} (h : l.length % 2 = 0) :
    (OpenCollection.pairUp l).flatMap (fun pair => [pair.1, pair.2]) = l := by
  obtain ⟨odd, hodd⟩ := OpenCollection.exists_flatten l
  cases odd with
  | none => simpa using hodd.symm
  | some node =>
      -- one more child than there are in pairs
      have hlength := congrArg List.length hodd
      simp only [List.length_append, List.length_flatMap, Option.toList_some, List.length_cons,
        List.length_nil, List.map_const', List.sum_replicate_nat] at hlength
      omega

/-- A whole node is one more child of the innermost collection. -/
theorem child {c : OpenCollection} {outer : List OpenCollection} {parts more : List Markup}
    {node : Node} (h : SpellsOpen (c :: outer) parts) (hnode : Spells node more) :
    SpellsOpen ({ c with children := node :: c.children } :: outer) (parts ++ more) := by
  have hone : SpellsAll [node] more := by simpa using SpellsAll.cons hnode .nil
  cases h with
  | sequence houter hm hshape hanchor hstart hall =>
      rw [List.append_assoc]
      exact .sequence houter hm hshape hanchor hstart (by simpa using hall.append hone)
  | mapping houter hm hshape hanchor hstart hall =>
      rw [List.append_assoc]
      exact .mapping houter hm hshape hanchor hstart (by simpa using hall.append hone)

/-- The innermost collection is a whole node when it ends. -/
theorem close {c : OpenCollection} {outer : List OpenCollection} {parts : List Markup} {e : Markup}
    (h : SpellsOpen (c :: outer) parts) (he : e.kind.event = c.endEvent)
    (heven : c.shape = .mapping → c.children.length % 2 = 0) :
    ∃ before more, parts = before ++ more ∧ SpellsOpen outer before ∧
      Spells (c.close (some (e.stop.index : Int))) (more ++ [e]) := by
  obtain ⟨shape, anchor, start, children⟩ := c
  cases h with
  | sequence houter hm hshape hanchor hstart hall =>
      obtain ⟨rfl, rfl, rfl⟩ : shape = .sequence ∧ anchor = _ ∧ start = some _ :=
        ⟨hshape, hanchor, hstart⟩
      have hkind : e.kind = .sequenceEnd := by
        cases h : e.kind <;> rw [h] at he <;> cases he
      exact ⟨_, _, rfl, houter, .sequence hm hall hkind⟩
  | mapping houter hm hshape hanchor hstart hall =>
      obtain ⟨rfl, rfl, rfl⟩ : shape = .mapping ∧ anchor = _ ∧ start = some _ :=
        ⟨hshape, hanchor, hstart⟩
      have hkind : e.kind = .mappingEnd := by
        cases h : e.kind <;> rw [h] at he <;> cases he
      refine ⟨_, _, rfl, houter, .mapping hm ?_ hkind⟩
      rw [pairUp_flatten (by simpa using heven rfl)]
      exact hall

end SpellsOpen

/-! ### Expectations and open collections -/

/-- Whether the value of a key is expected in a mapping. -/
def Expected.awaitsValue : Expected → Bool
  | blockMappingValue | flowMappingValue | flowMappingNoValue => true
  | _ => false

/-- What is expected fits some collections with the numbers of their children, the innermost first.
The child that is being read counts as a child of the collection around it. -/
inductive Awaits : List Expected → List (Shape × Nat) → Prop
  | root : Awaits [.documentEnd] []
  | items {e rest n os} : e.endsSequence → Awaits rest os → Awaits (e :: rest) ((.sequence, n) :: os)
  | key {e rest n os} : e.endsMapping → n % 2 = 0 → Awaits rest os →
      Awaits (e :: rest) ((.mapping, n) :: os)
  | value {e rest n os} : e.awaitsValue → n % 2 = 1 → Awaits rest os →
      Awaits (e :: rest) ((.mapping, n) :: os)
  | pairKey {rest n k os} : n % 2 = 0 → Awaits rest os →
      Awaits (.flowPairKey :: rest) ((.mapping, n) :: (.sequence, k) :: os)
  | pairValue {rest n k os} : n % 2 = 1 → Awaits rest os →
      Awaits (.flowPairValue :: rest) ((.mapping, n) :: (.sequence, k) :: os)
  | pairEnd {rest n k os} : n % 2 = 0 → Awaits rest os →
      Awaits (.flowPairEnd :: rest) ((.mapping, n) :: (.sequence, k) :: os)

namespace Awaits

variable {e : Expected} {rest : List Expected} {os : List (Shape × Nat)}

/-- After a node the innermost collection has one child more. -/
theorem next {sh : Shape} {n : Nat} (h : Awaits (e :: rest) ((sh, n) :: os))
    {following : List Expected} (hf : following ∈ e.after) :
    Awaits (following ++ rest) ((sh, n + 1) :: os) := by
  cases h with
  | items he hr => cases e <;> cases he <;> cases List.mem_singleton.mp hf <;> exact .items rfl hr
  | key he hn hr =>
      cases e <;> cases he <;>
        simp only [Expected.after, List.mem_cons, List.not_mem_nil, or_false] at hf
      · cases hf; exact .value rfl (by omega) hr
      · cases hf; exact .value rfl (by omega) hr
      · rcases hf with rfl | rfl <;> exact .value rfl (by omega) hr
      · rcases hf with rfl | rfl <;> exact .value rfl (by omega) hr
  | value he hn hr =>
      cases e <;> cases he <;> cases List.mem_singleton.mp hf <;> exact .key rfl (by omega) hr
  | pairKey hn hr => cases List.mem_singleton.mp hf; exact .pairValue (by omega) hr
  | pairValue hn hr => cases List.mem_singleton.mp hf; exact .pairEnd (by omega) hr
  | pairEnd hn hr => cases hf

/-- A sequence ends where one may. -/
theorem sequenceEnd {p : Shape × Nat} (h : Awaits (e :: rest) (p :: os)) (he : e.endsSequence) :
    p.1 = .sequence ∧ Awaits rest os := by
  cases h with
  | items _ hr => exact ⟨rfl, hr⟩
  | key he' | value he' => cases e <;> cases he <;> cases he'
  | pairKey | pairValue | pairEnd => cases he

/-- A mapping ends where one may, with a value for each key. -/
theorem mappingEnd {p : Shape × Nat} (h : Awaits (e :: rest) (p :: os)) (he : e.endsMapping) :
    p.2 % 2 = 0 ∧ Awaits rest os := by
  cases h with
  | key _ hn hr => exact ⟨hn, hr⟩
  | items he' | value he' => cases e <;> cases he <;> cases he'
  | pairKey | pairValue | pairEnd => cases he

/-- A pair in a sequence ends with a value for its key. -/
theorem of_pairEnd {p : Shape × Nat} (h : Awaits (.flowPairEnd :: rest) (p :: os)) :
    p.2 % 2 = 0 ∧ ∃ k os', os = (.sequence, k) :: os' ∧ Awaits rest os' := by
  cases h with
  | pairEnd hn hr => exact ⟨hn, _, _, rfl, hr⟩
  | items h | key h | value h => cases h

/-- Inside a collection no document begins or ends. -/
theorem inside {p : Shape × Nat} (h : Awaits (e :: rest) (p :: os)) :
    e.beginsDocument = false ∧ e ≠ .documentEnd := by
  cases h with
  | items he | key he | value he => cases e <;> cases he <;> exact ⟨rfl, by simp⟩
  | pairKey | pairValue | pairEnd => exact ⟨rfl, by simp⟩

end Awaits

/-- The numbers of children of collections around another, which counts. -/
def aroundCounts (outer : List OpenCollection) : List (Shape × Nat) :=
  outer.map fun c => (c.shape, c.children.length + 1)

/-- The numbers of children of open collections. -/
def childCounts : List OpenCollection → List (Shape × Nat)
  | [] => []
  | c :: outer => (c.shape, c.children.length) :: aroundCounts outer

/-! ### Composing the parts of a run -/

/-- Parts that are a document with its root, and after it only ends. -/
def SpellsDocument (root : Node) (parts : List Markup) : Prop :=
  ∃ m body tail, parts = m :: body ++ tail ∧ m.kind = .documentStart ∧ Spells root body ∧
    ∀ e ∈ tail, e.kind = .documentEnd ∨ e.kind = .streamEnd

/-- How far a reading and the composition of its parts have come together. -/
inductive Together : List Expected → Progress → List Markup → Prop
  | before {e} : e.beginsDocument → Together [e] .before []
  | nothing {parts} : Together [] .before parts
  | opened {e m} : e = .documentContent ∨ e = .blockNode → m.kind = .documentStart →
      Together [e, .documentEnd] .opened [m]
  | inside {stack top outer m parts} : Awaits stack (childCounts (top :: outer)) →
      m.kind = .documentStart → SpellsOpen (top :: outer) parts →
      Together stack (.inside top outer) (m :: parts)
  | complete {stack root parts} : SpellsDocument root parts →
      (stack = [.documentEnd] ∨ stack = [] ∨ ∃ e : Expected, e.beginsDocument ∧ stack = [e]) →
      Together stack (.complete root) parts

namespace Together

variable {limit : Int} {e : Expected} {stack rest pushed : List Expected} {m₀ m : Markup}
  {p : Progress} {outer : List OpenCollection} {body done : List Markup}

theorem spells {root : Node} {parts : List Markup} (h : Together stack (.complete root) parts) :
    SpellsDocument root parts := by
  cases h with
  | complete hdoc => exact hdoc

/-- A whole node goes where it belongs. -/
theorem place {node : Node} {more : List Markup} (hm₀ : m₀.kind = .documentStart)
    (hopen : SpellsOpen outer body) (hnode : Spells node more)
    (hstack : Awaits stack (aroundCounts outer)) :
    Together stack (Progress.place node outer) (m₀ :: (body ++ more)) := by
  cases outer with
  | nil =>
      cases hopen
      cases hstack
      exact .complete ⟨m₀, more, [], by simp, hm₀, hnode, by simp⟩ (.inl rfl)
  | cons c outer => exact .inside hstack hm₀ (hopen.child hnode)

theorem begin_scalar {p : Properties} {untyped : Bool} {value : String} {q : Progress}
    (hk : m.kind = .scalar p untyped value) (h : Progress.begin limit outer m.event = .ok q) :
    ∃ node, Spells node [m] ∧ q = Progress.place node outer := by
  unfold Progress.begin at h
  split at h
  · cases h
  · simp only [Markup.event, hk, MarkupKind.event, Except.ok.injEq] at h
    exact ⟨_, .scalar hk, h.symm⟩

theorem begin_alias {name : String} {q : Progress} (hk : m.kind = .alias name)
    (h : Progress.begin limit outer m.event = .ok q) :
    ∃ node, Spells node [m] ∧ q = Progress.place node outer := by
  unfold Progress.begin at h
  split at h
  · cases h
  · simp only [Markup.event, hk, MarkupKind.event, Except.ok.injEq] at h
    exact ⟨_, .alias hk, h.symm⟩

theorem begin_sequence {p : Properties} {q : Progress} (hk : m.kind = .sequenceStart p)
    (h : Progress.begin limit outer m.event = .ok q) :
    q = .inside ⟨.sequence, p.anchor, some (m.start.index : Int), []⟩ outer := by
  unfold Progress.begin at h
  split at h
  · cases h
  · simp only [Markup.event, hk, MarkupKind.event, Except.ok.injEq] at h
    exact h.symm

theorem begin_mapping {p : Properties} {q : Progress} (hk : m.kind = .mappingStart p)
    (h : Progress.begin limit outer m.event = .ok q) :
    q = .inside ⟨.mapping, p.anchor, some (m.start.index : Int), []⟩ outer := by
  unfold Progress.begin at h
  split at h
  · cases h
  · simp only [Markup.event, hk, MarkupKind.event, Except.ok.injEq] at h
    exact h.symm

/-- A sequence that begins. -/
theorem openSequence {pr : Properties} (hm₀ : m₀.kind = .documentStart)
    (hopen : SpellsOpen outer body) (hk : m.kind = .sequenceStart pr)
    (h : Progress.begin limit outer m.event = .ok p) (he : e.endsSequence)
    (hstack : Awaits stack (aroundCounts outer)) :
    Together (e :: stack) p (m₀ :: (body ++ [m])) := by
  rw [begin_sequence hk h]
  exact .inside (.items he hstack) hm₀ (.sequence hopen hk rfl rfl rfl .nil)

/-- A mapping that begins. -/
theorem openMapping {pr : Properties} (hm₀ : m₀.kind = .documentStart)
    (hopen : SpellsOpen outer body) (hk : m.kind = .mappingStart pr)
    (h : Progress.begin limit outer m.event = .ok p)
    (hstack : Awaits stack ((.mapping, 0) :: aroundCounts outer)) :
    Together stack p (m₀ :: (body ++ [m])) := by
  rw [begin_mapping hk h]
  exact .inside hstack hm₀ (.mapping hopen hk rfl rfl rfl .nil)

/-- A node that begins, and may be whole. -/
theorem node {inner : List Expected} (hm₀ : m₀.kind = .documentStart) (hopen : SpellsOpen outer body)
    (hk : NodeYields m.kind inner) (h : Progress.begin limit outer m.event = .ok p)
    (hstack : Awaits stack (aroundCounts outer)) :
    Together (inner ++ stack) p (m₀ :: (body ++ [m])) := by
  generalize hkind : m.kind = kind at hk
  cases hk with
  | «alias» =>
      obtain ⟨node, hnode, rfl⟩ := begin_alias hkind h
      exact place hm₀ hopen hnode hstack
  | scalar =>
      obtain ⟨node, hnode, rfl⟩ := begin_scalar hkind h
      exact place hm₀ hopen hnode hstack
  | indentless | flowSequence | blockSequence => exact openSequence hm₀ hopen hkind h rfl hstack
  | flowMapping | blockMapping => exact openMapping hm₀ hopen hkind h (.key rfl rfl hstack)

/-- The innermost collection ends. -/
theorem close {top : OpenCollection} (hm₀ : m₀.kind = .documentStart)
    (hopen : SpellsOpen (top :: outer) body)
    (hend : m.kind = .sequenceEnd ∨ m.kind = .mappingEnd)
    (h : Progress.step limit (.inside top outer) m.event = .ok p)
    (heven : top.shape = .mapping → top.children.length % 2 = 0)
    (hstack : Awaits stack (aroundCounts outer)) :
    Together stack p (m₀ :: (body ++ [m])) := by
  rw [Progress.step] at h
  split at h
  · next hevent =>
    cases h
    obtain ⟨before, more, rfl, houter, hnode⟩ := hopen.close hevent heven
    rw [List.append_assoc]
    exact place hm₀ houter hnode hstack
  · unfold Progress.begin at h
    split at h
    · cases h
    · rcases hend with hk | hk <;> simp [Markup.event, hk, MarkupKind.event] at h

/-- A part that only begins a node does not end the innermost collection. -/
theorem begin_of_step {top : OpenCollection} (hk : ∀ shape, m.kind.event ≠
      OpenCollection.endEvent ⟨shape, none, none, []⟩)
    (h : Progress.step limit (.inside top outer) m.event = .ok p) :
    Progress.begin limit (top :: outer) m.event = .ok p := by
  rw [Progress.step] at h
  split at h
  · next hevent => exact absurd hevent (hk top.shape)
  · exact h

/-- Inside a collection each part keeps it together. -/
theorem step_inside {top : OpenCollection} (hawaits : Awaits (e :: rest) (childCounts (top :: outer)))
    (hm₀ : m₀.kind = .documentStart) (hopen : SpellsOpen (top :: outer) body)
    (hy : Yields e m.kind pushed) {q : Progress}
    (hstep : m.kind ≠ .streamEnd → Progress.step limit (.inside top outer) m.event = .ok q) :
    Together (pushed ++ rest) q (m₀ :: body ++ [m]) := by
  -- a part that ends no collection begins a node
  have hbegin : ∀ {kind}, m.kind = kind → (∀ shape, kind.event ≠
      OpenCollection.endEvent ⟨shape, none, none, []⟩) → kind ≠ .streamEnd →
      Progress.begin limit (top :: outer) m.event = .ok q := fun hk hshape hne =>
    begin_of_step (hk ▸ hshape) (hstep (hk ▸ hne))
  rw [List.cons_append]
  generalize hk : m.kind = kind at hy
  cases hy with
  | node hnext hnode =>
      have hq := hbegin hk (by cases hnode <;> rintro ⟨⟩ <;> simp [MarkupKind.event,
        OpenCollection.endEvent]) (by rintro rfl; cases hnode)
      rw [List.append_assoc]
      exact node hm₀ hopen (hk ▸ hnode) hq (hawaits.next hnext)
  | sequenceEnd he =>
      obtain ⟨hshape, hrest⟩ := hawaits.sequenceEnd he
      refine close hm₀ hopen (.inl hk) (hstep (by simp [hk])) (fun h => ?_) hrest
      rw [show top.shape = .sequence from hshape] at h
      cases h
  | mappingEnd he =>
      obtain ⟨heven, hrest⟩ := hawaits.mappingEnd he
      exact close hm₀ hopen (.inr hk) (hstep (by simp [hk])) (fun _ => heven) hrest
  | pair he =>
      have hq := hbegin hk (by rintro ⟨⟩ <;> simp [MarkupKind.event, OpenCollection.endEvent])
        (by simp)
      refine openMapping hm₀ hopen hk hq ?_
      obtain ⟨hshape, hrest⟩ := hawaits.sequenceEnd (by cases e <;> cases he <;> rfl)
      rw [aroundCounts, List.map_cons, show top.shape = .sequence from hshape]
      exact .pairKey rfl hrest
  | pairEnd =>
      obtain ⟨heven, k, os, hos, hrest⟩ := hawaits.of_pairEnd
      refine close hm₀ hopen (.inr hk) (hstep (by simp [hk])) (fun _ => heven) ?_
      rw [hos]
      exact .items rfl hrest
  | documentStart he | streamEnd he => rw [hawaits.inside.1] at he; cases he
  | documentEnd => exact absurd rfl hawaits.inside.2

/-- After the root nothing but ends keep it together. -/
theorem step_complete {root : Node} (hdoc : SpellsDocument root done)
    (hstack : e :: rest = [.documentEnd] ∨ e :: rest = [] ∨
      ∃ e' : Expected, e'.beginsDocument ∧ e :: rest = [e'])
    (hy : Yields e m.kind pushed) {q : Progress} (hstream : m.kind = .streamEnd → q = .complete root)
    (hstep : m.kind ≠ .streamEnd → Progress.step limit (.complete root) m.event = .ok q) :
    Together (pushed ++ rest) q (done ++ [m]) := by
  obtain ⟨m₀, body, tail, rfl, hm₀, hbody, htail⟩ := hdoc
  -- an end adds nothing to the document
  have hdone : m.kind = .documentEnd ∨ m.kind = .streamEnd → SpellsDocument _
      (m₀ :: body ++ tail ++ [m]) := fun hm => by
    refine ⟨m₀, body, tail ++ [m], by simp, hm₀, hbody, fun x hx => ?_⟩
    rcases List.mem_append.mp hx with hx | hx
    · exact htail x hx
    · exact List.mem_singleton.mp hx ▸ hm
  rcases hstack with h | h | ⟨e', he', h⟩ <;> cases h
  · obtain ⟨hk, e', he', rfl⟩ := hy.of_documentEnd
    have h := hstep (by simp [hk])
    simp only [Progress.step, Markup.event, hk, MarkupKind.event, reduceCtorEq, if_false,
      Except.ok.injEq] at h
    subst h
    exact .complete (hdone (.inl hk)) (.inr (.inr ⟨e', he', rfl⟩))
  · rcases hy.of_beginsDocument he' with ⟨hk, c, hc, rfl⟩ | ⟨hk, rfl⟩
    · have h := hstep (by simp [hk])
      simp [Progress.step, Markup.event, hk, MarkupKind.event] at h
    · rw [hstream hk]
      exact .complete (hdone (.inr hk)) (.inr (.inl rfl))

/-- Each part that the reading of a text yields keeps it together with the composition. -/
theorem step (limit : Int) (ht : Together (e :: rest) p done) (hy : Yields e m.kind pushed)
    {q : Progress} (hstream : m.kind = .streamEnd → q = p)
    (hstep : m.kind ≠ .streamEnd → Progress.step limit p m.event = .ok q) :
    Together (pushed ++ rest) q (done ++ [m]) := by
  -- what is open is told by what is expected, so the cases are those of the invariant
  cases ht with
  | before he =>
      rcases hy.of_beginsDocument he with ⟨hk, c, hc, rfl⟩ | ⟨hk, rfl⟩
      · have h := hstep (by simp [hk])
        simp only [Progress.step, Markup.event, hk, MarkupKind.event, if_true, Except.ok.injEq] at h
        subst h
        exact .opened hc hk
      · rw [hstream hk]
        exact .nothing
  | opened he hm₀ =>
      generalize hk : m.kind = kind at hy
      cases hy with
      | @node _ _ inner next hnext hnode =>
          obtain rfl : next = [] := by
            rcases he with rfl | rfl <;> exact List.mem_singleton.mp hnext
          have h := hstep (by rintro h; rw [h] at hk; subst hk; cases hnode)
          rw [List.append_nil]
          exact node hm₀ .nil (hk ▸ hnode) h .root
      | sequenceEnd h | mappingEnd h | pair h | documentStart h | streamEnd h =>
          rcases he with rfl | rfl <;> cases h
      | pairEnd | documentEnd => rcases he with he | he <;> cases he
  | inside hawaits hm₀ hopen => exact step_inside hawaits hm₀ hopen hy hstep
  | complete hdoc hstack => exact step_complete hdoc hstack hy hstream hstep

end Together

/-- The events of some parts. -/
def Markup.events (parts : List Markup) : List Event :=
  (parts.filter fun m => !m.kind.event.isStream).map Markup.event

/-- The first of some parts is an event that composes, unless it is the end of the stream. -/
theorem Markup.run_events_cons {limit : Int} {p q : Progress} {m : Markup} {later : List Markup}
    (h : Progress.run limit p (Markup.events (m :: later)) = .ok q) :
    ∃ q', (m.kind = .streamEnd → q' = p) ∧
      (m.kind ≠ .streamEnd → Progress.step limit p m.event = .ok q') ∧
      Progress.run limit q' (Markup.events later) = .ok q := by
  have hev : Markup.events (m :: later) =
      if m.kind = .streamEnd then Markup.events later else m.event :: Markup.events later := by
    cases hk : m.kind <;> simp [Markup.events, hk, MarkupKind.event, EventKind.isStream]
  rw [hev] at h
  split at h
  · next hk => exact ⟨p, fun _ => rfl, fun hne => absurd hk hne, h⟩
  · next hk =>
    rw [Progress.run] at h
    split at h
    · next q' hq' => exact ⟨q', fun hk' => absurd hk' hk, fun _ => hq', h⟩
    · cases h

/-- A reading that still expects something yields a part and goes on, or no part at all. -/
theorem Reading.runFrom_parts (fuel : Nat) (r : Reading) :
    (r.runFrom (fuel + 1)).parts = [] ∨ ∃ e rest m r', r.stack = e :: rest ∧
      Rule.expected e { r with stack := rest } = .ok m r' ∧
      (r.runFrom (fuel + 1)).parts = m :: (r'.runFrom fuel).parts := by
  rw [runFrom]
  cases hs : r.stack with
  | nil => exact .inl rfl
  | cons e rest =>
      dsimp only
      cases hx : Rule.expected e { r with stack := rest } with
      | error f r' => exact .inl rfl
      | ok m r' => exact .inr ⟨e, rest, m, r', rfl, hx, rfl⟩

theorem Together.runFrom {limit : Int} {fuel : Nat} {r : Reading} {p q : Progress}
    {done : List Markup} (ht : Together r.stack p done)
    (h : Progress.run limit p (Markup.events (r.runFrom fuel).parts) = .ok q) :
    ∃ stack, Together stack q (done ++ (r.runFrom fuel).parts) := by
  induction fuel generalizing r p done with
  | zero =>
      cases h
      exact ⟨_, by simpa [Reading.runFrom] using ht⟩
  | succ fuel ih =>
      rcases r.runFrom_parts fuel with hnil | ⟨e, rest, m, r', hs, hx, hparts⟩
      · rw [hnil] at h ⊢
        cases h
        exact ⟨_, by simpa using ht⟩
      · rw [hparts] at h ⊢
        obtain ⟨q', hstream, hstep, hrun⟩ := Markup.run_events_cons h
        obtain ⟨pushed, hr', hy⟩ := Rule.expected_yields e _ m r' hx
        rw [List.append_cons]
        refine ih ?_ hrun
        rw [hr']
        exact (hs ▸ ht).step limit hy hstream hstep

/-- What comes of parts that compose and are followed by no fault. -/
theorem MarkupRun.tree_eq_ok {limit : Int} {run : MarkupRun} {result : Option Node}
    (h : (run.tree limit).tree = .ok result) : run.halt = none ∧ ∃ p,
      Progress.run limit .before (Markup.events run.parts) = .ok p ∧ p.finish = .ok result := by
  rw [MarkupRun.tree] at h
  split at h
  · cases h
  · next p hp =>
    split at h
    · cases h
    · next hhalt =>
      refine ⟨hhalt, p, hp, ?_⟩
      cases hfinish : p.finish with
      | ok result' =>
          rw [hfinish] at h
          exact congrArg _ (Except.ok.inj h)
      | error e =>
          rw [hfinish] at h
          cases h

/-- A tree comes of parts that compose to it and are followed by no fault. -/
theorem MarkupRun.run_of_tree {limit : Int} {run : MarkupRun} {root : Node}
    (h : (run.tree limit).tree = .ok (some root)) : run.halt = none ∧
      Progress.run limit .before (Markup.events run.parts) = .ok (.complete root) := by
  obtain ⟨hhalt, p, hp, hfinish⟩ := tree_eq_ok h
  obtain rfl : p = .complete root := by cases p <;> cases hfinish; rfl
  exact ⟨hhalt, hp⟩

/-- A tree that was composed from the parts of a run is spelled by them. -/
theorem MarkupRun.spelled {limit : Int} {version : Version} {source : List Char} {root : Node}
    (h : ((Markup.run version source).tree limit).tree = .ok (some root)) :
    (Markup.run version source).halt = none ∧
      SpellsDocument root (Markup.run version source).parts := by
  obtain ⟨hhalt, hrun⟩ := MarkupRun.run_of_tree h
  refine ⟨hhalt, ?_⟩
  unfold Markup.run at hrun ⊢
  split at hrun
  · cases hrun
  · obtain ⟨stack, ht⟩ := Together.runFrom (.before rfl) hrun
    rw [List.nil_append] at ht
    dsimp only
    exact ht.spells

end YamlAudit.Yaml
