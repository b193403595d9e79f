import Mathlib.Data.List.Induction
import YamlAudit.Proofs.RangeMap.Leaves

/-!
# RangeMap — the entries that leaves make

The entry at a path of segments (`RangeMap.entryAt?`) is the work of the leaves whose paths begin with
it.  `Leaf.pass` tells what is left of such a leaf below the path, and by which step it came there;
the step of the first of them makes the entry, and what is left of all of them is written into it as
into a map of its own (`RangeMap.entryAt?_of_writeAll`).

What one map holds itself is read off the leaves in turn: its range is that of the last leaf that
ends there (`value_of_writeAll`), its target comes from a leaf that ends there and can be expanded
(`target_of_writeAll`), and its children stand in the order in which the leaves first lead into them
(`children_of_writeAll`).
-/

namespace YamlAudit

/-- The position at a path, alias targets not being followed. -/
def RangeMap.entryAt? (m : RangeMap) : List Segment → Option RangeMap
  | [] => some m
  | segment :: rest => (m.child segment).bind fun c => c.entryAt? rest

namespace Leaf

/-- The segments of the path to a leaf. -/
def segments (l : Leaf) : List Segment := l.path.map (·.segment)

/-- What is left of a leaf below a path that it passes, and the step by which it gets there; `step`
is the one by which it gets to where the path begins. -/
def pass : List Segment → PathStep → Leaf → Option (PathStep × Leaf)
  | [], step, l => some (step, l)
  | _ :: _, _, ⟨[], _, _⟩ => none
  | segment :: rest, _, ⟨next :: below, range, hop⟩ =>
    if next.segment = segment then pass rest next ⟨below, range, hop⟩ else none

/-- A leaf is an alias that an expansion gives a map for. -/
def Expands (expand : Expansion) (l : Leaf) : Prop :=
  ∃ scope source target, l.hop = some (scope, source) ∧ expand scope source = .ok (some target)

/-- Leaves lead into one child before they lead into another: up to some point there is one that
leads into the former, and none that leads into the latter. -/
def Earlier (ls : List Leaf) (a b : Segment) : Prop :=
  ∃ pre post, ls = pre ++ post ∧ (∃ l ∈ pre, [a] <+: l.segments) ∧
    ∀ l ∈ pre, ¬ [b] <+: l.segments

theorem Earlier.append {ls : List Leaf} {a b : Segment} (h : Earlier ls a b) (more : List Leaf) :
    Earlier (ls ++ more) a b := by
  obtain ⟨pre, post, rfl, hab⟩ := h
  exact ⟨pre, post ++ more, List.append_assoc _ _ _, hab⟩

/-! ### Passing a path -/

/-- The way along a joined path is two ways. -/
theorem pass_append (p q : List Segment) (step : PathStep) (l : Leaf) :
    pass (p ++ q) step l = (pass p step l).bind fun x => pass q x.1 x.2 := by
  induction p generalizing step l with
  | nil => rfl
  | cons segment rest ih =>
      obtain ⟨path, range, hop⟩ := l
      cases path with
      | nil => rfl
      | cons next below =>
          simp only [List.cons_append, pass]
          split
          · exact ih _ _
          · rfl

/-- The step by which a leaf comes does not matter after one more. -/
theorem pass_cons_congr (segment : Segment) (rest : List Segment) (a b : PathStep) (l : Leaf) :
    pass (segment :: rest) a l = pass (segment :: rest) b l := by
  obtain ⟨path, range, hop⟩ := l
  cases path <;> rfl

theorem pass_eq_some {p : List Segment} {step step' : PathStep} {l l' : Leaf}
    (h : pass p step l = some (step', l')) :
    l.segments = p ++ l'.segments ∧ l'.range = l.range ∧ l'.hop = l.hop ∧
      (p = [] ∧ step' = step ∨ p ≠ [] ∧ l.path[p.length - 1]? = some step') := by
  induction p generalizing step l with
  | nil =>
      cases h
      exact ⟨rfl, rfl, rfl, .inl ⟨rfl, rfl⟩⟩
  | cons segment rest ih =>
      obtain ⟨path, range, hop⟩ := l
      cases path with
      | nil => cases h
      | cons next below =>
          rw [pass] at h
          split at h
          · next hs =>
            obtain ⟨hsegments, hrange, hhop, hstep⟩ := ih h
            refine ⟨?_, hrange, hhop, .inr ⟨by simp, ?_⟩⟩
            · simp only [segments] at hsegments ⊢
              simp [hs, hsegments]
            · rcases hstep with ⟨rfl, rfl⟩ | ⟨hne, hstep⟩
              · rfl
              · obtain ⟨x, xs, rfl⟩ := List.exists_cons_of_ne_nil hne
                simpa using hstep
          · cases h

/-- A leaf passes a path if its own path begins with it. -/
theorem pass_isSome {p : List Segment} (step : PathStep) {l : Leaf} :
    (pass p step l).isSome ↔ p <+: l.segments := by
  induction p generalizing step l with
  | nil => simp [pass]
  | cons segment rest ih =>
      obtain ⟨path, range, hop⟩ := l
      cases path with
      | nil => simp [pass, segments]
      | cons next below =>
          rw [pass]
          split
          · next hs => rw [ih]; simp [segments, hs]
          · next hs => simp [segments, List.cons_prefix_cons, Ne.symm hs]

theorem pass_eq_none {p : List Segment} (step : PathStep) {l : Leaf} :
    pass p step l = none ↔ ¬ p <+: l.segments := by
  rw [← pass_isSome step, Option.not_isSome_iff_eq_none]

/-! ### One leaf -/

section Write

variable {expand : Expansion} {l : Leaf} {m m' : RangeMap}

/-- A leaf that ends at a map gives it its range, and a target if it needs one. -/
theorem write_nil (hpath : l.path = []) (h : l.write expand m = .ok m') :
    m'.value = l.range ∧ m'.key = m.key ∧ m'.children = m.children ∧
      (m'.target.isSome ↔ m.target.isSome ∨ l.Expands expand) := by
  obtain ⟨path, range, hop⟩ := l
  cases hpath
  unfold write at h
  cases hop with
  | none =>
      cases h
      exact ⟨rfl, rfl, rfl, by simp [RangeMap.record, Expands]⟩
  | some hop =>
      obtain ⟨scope, source⟩ := hop
      simp only [RangeMap.targetAt] at h
      -- only where there is no target yet is the alias expanded
      cases ht : m.target with
      | some target =>
          rw [ht] at h
          cases h
          exact ⟨rfl, rfl, rfl, by simp [RangeMap.record, ht]⟩
      | none =>
          rw [ht] at h
          cases he : expand scope source with
          | error => rw [he] at h; cases h
          | ok target =>
              rw [he] at h
              cases h
              refine ⟨rfl, rfl, rfl, ?_⟩
              simp only [RangeMap.record, ht, Expands, Option.some.injEq, Prod.mk.injEq]
              cases target with
              | none => simp [he]
              | some target => simp [he]

/-- A leaf that goes on is written into the child below its first step. -/
theorem write_cons {step : PathStep} {path : List PathStep} (hpath : l.path = step :: path)
    (h : l.write expand m = .ok m') :
    ∃ c, write expand { l with path } (m.childOr step) = .ok c ∧ m' = m.withChild step c := by
  have hl : l = under step { l with path } := by
    cases l
    cases hpath
    rfl
  rw [hl, RangeMap.write_under] at h
  cases hc : write expand { l with path } (m.childOr step) with
  | error e => rw [hc] at h; cases h
  | ok c =>
      rw [hc] at h
      cases h
      exact ⟨c, rfl, rfl⟩

end Write

end Leaf

namespace RangeMap

theorem entryAt?_append (m : RangeMap) (p q : List Segment) :
    m.entryAt? (p ++ q) = (m.entryAt? p).bind (·.entryAt? q) := by
  induction p generalizing m with
  | nil => rfl
  | cons segment rest ih =>
      rw [List.cons_append, entryAt?, entryAt?]
      cases m.child segment with
      | none => rfl
      | some c => exact ih c

theorem child_withChild (m : RangeMap) (step : PathStep) (c : RangeMap) (segment : Segment) :
    (m.withChild step c).child segment =
      if step.segment = segment then some c else m.child segment :=
  lookup_put _ _ _ _

/-! ### Leaves and entries -/

variable {expand : Expansion} {ls : List Leaf} {m m' : RangeMap}

/-- Under a segment the leaves that pass it are written, into a child made by the step of the first
if there was none. -/
theorem child_of_writeAll (h : writeAll expand ls m = .ok m') (segment : Segment)
    (root : PathStep) :
    (ls.filterMap (Leaf.pass [segment] root) = [] → m'.child segment = m.child segment) ∧
    ∀ step l rest, ls.filterMap (Leaf.pass [segment] root) = (step, l) :: rest →
      ∃ c, m'.child segment = some c ∧ writeAll expand (l :: rest.map Prod.snd)
        ((m.child segment).getD (leaf step.value step.key)) = .ok c := by
  induction ls generalizing m with
  | nil =>
      cases h
      exact ⟨fun _ => rfl, fun _ _ _ h => nomatch h⟩
  | cons x xs ih =>
      obtain ⟨m₁, h₁, h₂⟩ := Except.bind_eq_ok.mp h
      have ihx := ih h₂
      -- a leaf that does not pass the segment leaves the child as it is
      have hskip : Leaf.pass [segment] root x = none → m₁.child segment = m.child segment →
          ((x :: xs).filterMap (Leaf.pass [segment] root) = [] →
            m'.child segment = m.child segment) ∧
          ∀ step l rest, (x :: xs).filterMap (Leaf.pass [segment] root) = (step, l) :: rest →
            ∃ c, m'.child segment = some c ∧ writeAll expand (l :: rest.map Prod.snd)
              ((m.child segment).getD (leaf step.value step.key)) = .ok c := by
        intro hx hchild
        rwa [List.filterMap_cons_none hx, ← hchild]
      cases hpath : x.path with
      | nil =>
          refine hskip ?_ ?_
          · exact (Leaf.pass_eq_none root).mpr (by simp [Leaf.segments, hpath])
          · rw [child, (Leaf.write_nil hpath h₁).2.2.1, child]
      | cons step path =>
          obtain ⟨c₁, hc₁, rfl⟩ := Leaf.write_cons hpath h₁
          by_cases hs : step.segment = segment
          · have hx : Leaf.pass [segment] root x = some (step, { x with path }) := by
              obtain ⟨_, range, hop⟩ := x
              cases hpath
              simp [Leaf.pass, hs]
            rw [child_withChild, if_pos hs] at ihx
            rw [childOr, hs] at hc₁
            rw [List.filterMap_cons_some hx]
            refine ⟨fun h => (List.cons_ne_nil _ _ h).elim, ?_⟩
            rintro _ _ _ ⟨⟩
            cases hrest : xs.filterMap (Leaf.pass [segment] root) with
            | nil => exact ⟨c₁, ihx.1 hrest, Except.bind_eq_ok.mpr ⟨c₁, hc₁, rfl⟩⟩
            | cons y ys =>
                obtain ⟨c, hc, hw⟩ := ihx.2 _ _ _ hrest
                exact ⟨c, hc, Except.bind_eq_ok.mpr ⟨c₁, hc₁, hw⟩⟩
          · refine hskip ?_ (by rw [child_withChild, if_neg hs])
            exact (Leaf.pass_eq_none root).mpr (by
              simp [Leaf.segments, hpath, List.cons_prefix_cons, Ne.symm hs])

/-- The leaves that pass a path make the entry there: the step of the first one brings its range and
its key, and what is left of them is written into it.  `root` stands for the step that made the map
itself. -/
theorem entryAt?_of_writeAll {root : PathStep}
    (h : writeAll expand ls (leaf root.value root.key) = .ok m) (p : List Segment) :
    (p ≠ [] → ls.filterMap (Leaf.pass p root) = [] → m.entryAt? p = none) ∧
    ∀ step l rest, ls.filterMap (Leaf.pass p root) = (step, l) :: rest →
      ∃ e, m.entryAt? p = some e ∧
        writeAll expand (l :: rest.map Prod.snd) (leaf step.value step.key) = .ok e := by
  -- by induction on the path from its end: the leaves that pass a longer path are among those that
  -- pass its front
  induction p using List.reverseRecOn with
  | nil =>
      have hpass : ls.filterMap (Leaf.pass [] root) = ls.map fun l => (root, l) := by
        rw [show Leaf.pass [] root = fun l => some (root, l) from rfl, List.filterMap_eq_map']
      refine ⟨fun h => absurd rfl h, fun step l rest hls => ⟨m, rfl, ?_⟩⟩
      rw [hpass] at hls
      have hfirst : step = root := by
        have : (step, l) ∈ ls.map fun l => (root, l) := hls ▸ List.mem_cons_self
        obtain ⟨_, -, heq⟩ := List.mem_map.mp this
        exact (Prod.mk.inj heq).1.symm
      have hall : l :: rest.map Prod.snd = ls := by
        have := congrArg (List.map Prod.snd) hls
        simpa [Function.comp_def] using this.symm
      rw [hall, hfirst]
      exact h
  | append_singleton p segment ih =>
      have hpass : ls.filterMap (Leaf.pass (p ++ [segment]) root) =
          ((ls.filterMap (Leaf.pass p root)).map Prod.snd).filterMap
            (Leaf.pass [segment] root) := by
        rw [List.filterMap_map, List.filterMap_filterMap]
        refine List.filterMap_congr fun l _ => ?_
        rw [Leaf.pass_append]
        refine Option.bind_congr fun x _ => ?_
        exact Leaf.pass_cons_congr _ _ _ _ _
      rw [hpass, entryAt?_append]
      cases hp : ls.filterMap (Leaf.pass p root) with
      | nil =>
          refine ⟨fun _ _ => ?_, fun _ _ _ h => nomatch h⟩
          -- no leaf passes the front of the path, so there is nothing to go on from
          by_cases hne : p = []
          · subst hne
            have hls : ls = [] := by
              rw [show Leaf.pass [] root = fun l => some (root, l) from rfl,
                List.filterMap_eq_map'] at hp
              exact List.map_eq_nil_iff.mp hp
            subst hls
            cases h
            rfl
          · rw [ih.1 hne hp]
            rfl
      | cons x rest =>
          obtain ⟨step, l⟩ := x
          obtain ⟨e, he, hw⟩ := ih.2 _ _ _ hp
          obtain ⟨hnone, hsome⟩ := child_of_writeAll hw segment root
          rw [he]
          refine ⟨fun _ hnil => ?_, fun step' l' rest' hcons => ?_⟩
          · rw [Option.bind_some, entryAt?, hnone hnil]
            rfl
          · obtain ⟨c, hc, hwc⟩ := hsome _ _ _ hcons
            exact ⟨c, by rw [Option.bind_some, entryAt?, hc]; rfl, hwc⟩

/-! ### What a map holds itself -/

theorem key_of_writeAll (h : writeAll expand ls m = .ok m') : m'.key = m.key := by
  induction ls generalizing m with
  | nil => cases h; rfl
  | cons l rest ih =>
      obtain ⟨m₁, h₁, h₂⟩ := Except.bind_eq_ok.mp h
      rw [ih h₂]
      cases hpath : l.path with
      | nil => exact (Leaf.write_nil hpath h₁).2.1
      | cons step path =>
          obtain ⟨c, -, rfl⟩ := Leaf.write_cons hpath h₁
          rfl

/-- The range of a map is that of the last leaf that ends there, if any does. -/
theorem value_of_writeAll (h : writeAll expand ls m = .ok m') :
    m'.value = (((ls.filter (·.path.isEmpty)).getLast?).map (·.range)).getD m.value := by
  induction ls generalizing m with
  | nil => cases h; rfl
  | cons l rest ih =>
      obtain ⟨m₁, h₁, h₂⟩ := Except.bind_eq_ok.mp h
      rw [ih h₂]
      cases hpath : l.path with
      | nil =>
          rw [List.filter_cons_of_pos (by simp [hpath]), List.getLast?_cons,
            (Leaf.write_nil hpath h₁).1]
          cases (rest.filter (·.path.isEmpty)).getLast? <;> rfl
      | cons step path =>
          obtain ⟨c, -, rfl⟩ := Leaf.write_cons hpath h₁
          rw [List.filter_cons_of_neg (by simp [hpath])]
          rfl

/-- A map has a target if it had one, or if a leaf that ends there can be expanded. -/
theorem target_of_writeAll (h : writeAll expand ls m = .ok m') :
    m'.target.isSome ↔ m.target.isSome ∨ ∃ l ∈ ls, l.path = [] ∧ l.Expands expand := by
  induction ls generalizing m with
  | nil => cases h; simp
  | cons l rest ih =>
      obtain ⟨m₁, h₁, h₂⟩ := Except.bind_eq_ok.mp h
      rw [ih h₂]
      cases hpath : l.path with
      | nil => simp [(Leaf.write_nil hpath h₁).2.2.2, hpath, or_assoc]
      | cons step path =>
          obtain ⟨c, -, rfl⟩ := Leaf.write_cons hpath h₁
          simp [withChild, hpath]

/-- A leaf leads into the child under a segment. -/
theorem mem_children_of_writeAll {r : Range} {k : Option Range}
    (h : writeAll expand ls (leaf r k) = .ok m) {segment : Segment} :
    segment ∈ m.children.map Prod.fst ↔ ∃ l ∈ ls, [segment] <+: l.segments := by
  have hroot := child_of_writeAll h segment ⟨segment, r, k⟩
  -- an entry is looked up in a list without order, so being in it is having a child there
  have hmem : segment ∈ m.children.map Prod.fst ↔ (m.child segment).isSome := by
    rw [child]
    generalize m.children = entries
    induction entries with
    | nil => simp [lookup]
    | cons e rest ih =>
        obtain ⟨s, c⟩ := e
        by_cases hs : s = segment
        · simp [lookup, hs]
        · simp [lookup, hs, Ne.symm hs, ← ih]
  rw [hmem]
  cases hls : ls.filterMap (Leaf.pass [segment] ⟨segment, r, k⟩) with
  | nil =>
      rw [hroot.1 hls]
      refine iff_of_false Bool.false_ne_true ?_
      rintro ⟨l, hl, hp⟩
      exact (Leaf.pass_eq_none _).mp (List.filterMap_eq_nil_iff.mp hls l hl) hp
  | cons x rest =>
      obtain ⟨c, hc, -⟩ := hroot.2 _ _ _ hls
      refine ⟨fun _ => ?_, fun _ => by rw [hc]; rfl⟩
      have hx : x ∈ ls.filterMap (Leaf.pass [segment] ⟨segment, r, k⟩) :=
        hls ▸ List.mem_cons_self
      obtain ⟨l, hl, hpass⟩ := List.mem_filterMap.mp hx
      exact ⟨l, hl, (Leaf.pass_isSome _).mp (by rw [hpass]; rfl)⟩

theorem put_fst {segment : Segment} {c : RangeMap} (entries : List (Segment × RangeMap)) :
    (put segment c entries).map Prod.fst = if segment ∈ entries.map Prod.fst
      then entries.map Prod.fst else entries.map Prod.fst ++ [segment] := by
  induction entries with
  | nil => rfl
  | cons e rest ih =>
      obtain ⟨s, old⟩ := e
      by_cases hs : s = segment
      · simp [put, hs]
      · rw [put, if_neg hs]
        simp only [List.map_cons, ih, List.mem_cons, Ne.symm hs, false_or]
        split <;> rfl

/-- The children of a map stand in the order in which the leaves first lead into them. -/
theorem children_of_writeAll {r : Range} {k : Option Range}
    (h : writeAll expand ls (leaf r k) = .ok m) :
    (m.children.map Prod.fst).Pairwise (Leaf.Earlier ls) := by
  induction ls using List.reverseRecOn generalizing m with
  | nil => cases h; exact .nil
  | append_singleton ls l ih =>
      rw [writeAll_append] at h
      obtain ⟨m₁, h₁, h₂⟩ := Except.bind_eq_ok.mp h
      obtain ⟨m₂, hl, h₂⟩ := Except.bind_eq_ok.mp h₂
      cases h₂
      have hold := (ih h₁).imp fun hab => hab.append [l]
      cases hpath : l.path with
      | nil => rwa [(Leaf.write_nil hpath hl).2.2.1]
      | cons step path =>
          obtain ⟨c, -, rfl⟩ := Leaf.write_cons hpath hl
          rw [withChild, put_fst]
          split
          · exact hold
          · next hnew =>
            refine List.pairwise_append.mpr ⟨hold, List.pairwise_singleton _ _, ?_⟩
            rintro a ha _ hb
            obtain rfl := List.mem_singleton.mp hb
            -- the new child comes with the last leaf
            refine ⟨ls, [l], rfl, (mem_children_of_writeAll h₁).mp ha, fun x hx hp => ?_⟩
            exact hnew ((mem_children_of_writeAll h₁).mpr ⟨x, hx, hp⟩)

end RangeMap

end YamlAudit
