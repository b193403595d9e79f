import YamlAudit.Audit.Loader
import YamlAudit.Proofs.RangeMap.Built
import YamlAudit.RangeMap.Locate

/-!
# RangeMap — the entry at a path

Where a map has an entry for every segment of a path (`RangeMap.find?`), the walk along the path
comes to the last entry and goes on through its targets (`walk_concat`).  What `locate` reads is
then the position behind the targets, not the entry: the two differ where the entry is an alias.

The map behind an alias is a root, and a root has no key.  So in the map of a document the key of an
entry that is an alias is never read.

* `locate_key_of_find?`: the key of an entry is located where it stands if and only if the entry has
  no target; in the map of a document the key of an alias is located where the value behind it
  begins.
-/

namespace YamlAudit

/-- The position at a path, alias targets being followed before each step. -/
def RangeMap.find? (m : RangeMap) : List Segment → Option RangeMap
  | [] => some m
  | segment :: rest => (m.follow.2.child segment).bind fun c => c.find? rest

/-- Where there is a position at a path, the walk along the path ends there. -/
theorem RangeMap.walk_of_find? {path : List Segment} {m c : RangeMap} (h : m.find? path = some c) :
    (m.walk path).2 = c.follow.2 := by
  induction path generalizing m with
  | nil =>
      cases h
      rfl
  | cons segment rest ih =>
      rw [find?] at h
      obtain ⟨next, hnext, h⟩ := Option.bind_eq_some_iff.mp h
      simp only [walk, hnext]
      exact ih h

namespace RangeMap

/-- A walk along a path that is found goes to its last entry and on through the targets there. -/
theorem walk_concat {path : List Segment} {segment : Segment} {m e : RangeMap}
    (h : m.find? (path ++ [segment]) = some e) :
    m.walk (path ++ [segment]) = ((m.walk path).1 ++ e.follow.1, e.follow.2) := by
  induction path generalizing m with
  | nil =>
      obtain ⟨next, hnext, h⟩ := Option.bind_eq_some_iff.mp h
      cases h
      simp only [List.nil_append, walk, hnext]
  | cons s rest ih =>
      obtain ⟨next, hnext, h⟩ := Option.bind_eq_some_iff.mp h
      simp only [List.cons_append, walk, hnext, ih h, List.append_assoc]

/-! ### Following targets -/

/-- Where there is no alias nothing is followed. -/
theorem follow_of_target_none {m : RangeMap} (h : m.target = none) : m.follow = ([], m) := by
  obtain ⟨value, key, children, target⟩ := m
  cases h
  rfl

/-- An alias is a hop of its own. -/
theorem follow_hops_ne_nil {m : RangeMap} (h : m.target ≠ none) : m.follow.1 ≠ [] := by
  obtain ⟨value, key, children, target⟩ := m
  cases target with
  | none => exact absurd rfl h
  | some target => exact List.cons_ne_nil _ _

/-! ### Targets are roots -/

/-- Every target in a map, at any depth and behind any alias, is a root: it has no key. -/
inductive KeylessTargets : RangeMap → Prop
  | mk {value : Range} {key : Option Range} {children : List (Segment × RangeMap)}
      {target : Option RangeMap} (below : ∀ e ∈ children, KeylessTargets e.2)
      (keyless : ∀ r ∈ target, r.key = none) (behind : ∀ r ∈ target, KeylessTargets r) :
      KeylessTargets ⟨value, key, children, target⟩

theorem mem_of_lookup {segment : Segment} {c : RangeMap} {entries : List (Segment × RangeMap)}
    (h : lookup segment entries = some c) : (segment, c) ∈ entries := by
  induction entries with
  | nil => cases h
  | cons e rest ih =>
      obtain ⟨s, m⟩ := e
      rw [lookup] at h
      split at h
      · next hs =>
        cases h
        exact hs ▸ List.mem_cons_self
      · exact List.mem_cons_of_mem _ (ih h)

/-- Putting a child adds one entry at most. -/
theorem mem_put {segment : Segment} {m : RangeMap} {entries : List (Segment × RangeMap)}
    {e : Segment × RangeMap} (h : e ∈ put segment m entries) : e = (segment, m) ∨ e ∈ entries := by
  induction entries with
  | nil => exact .inl (List.mem_singleton.mp h)
  | cons e' rest ih =>
      obtain ⟨s, old⟩ := e'
      rw [put] at h
      split at h
      · next hs =>
        subst hs
        exact (List.mem_cons.mp h).imp id (List.mem_cons_of_mem _)
      · rcases List.mem_cons.mp h with rfl | h
        · exact .inr List.mem_cons_self
        · exact (ih h).imp id (List.mem_cons_of_mem _)

/-- What is written into a map does not change its key. -/
theorem record_key (r : Range) (target : Option RangeMap) (path : List PathStep) (m : RangeMap) :
    (record r target path m).key = m.key := by
  cases path <;> rfl

namespace KeylessTargets

variable {m : RangeMap}

theorem leaf (value : Range) (key : Option Range) : KeylessTargets (leaf value key) :=
  .mk (fun _ h => nomatch h) (fun _ h => nomatch h) (fun _ h => nomatch h)

theorem child (h : m.KeylessTargets) {segment : Segment} {c : RangeMap}
    (hc : m.child segment = some c) : c.KeylessTargets := by
  cases h with
  | mk below => exact below _ (mem_of_lookup hc)

/-- A leaf may be written where its target has no key. -/
theorem record {r : Range} {target : Option RangeMap}
    (ht : ∀ e ∈ target, e.key = none ∧ e.KeylessTargets) (path : List PathStep)
    (h : m.KeylessTargets) : (record r target path m).KeylessTargets := by
  induction path generalizing m with
  | nil =>
      cases h with
      | mk below keyless behind =>
        cases target with
        | none => exact .mk below keyless behind
        | some target => exact .mk below (fun e he => (ht e he).1) (fun e he => (ht e he).2)
  | cons step rest ih =>
      have hnext : ((m.child step.segment).getD
          (RangeMap.leaf step.value step.key)).KeylessTargets := by
        cases hc : m.child step.segment with
        | none => exact leaf _ _
        | some c => exact h.child hc
      cases h with
      | mk below keyless behind =>
        refine .mk (fun e he => ?_) keyless behind
        rcases mem_put he with rfl | he
        · exact ih hnext
        · exact below e he

/-- So may a list of leaves, if all expansions are roots. -/
theorem writeAll {expand : Expansion}
    (he : ∀ s source e, expand s source = .ok (some e) → e.key = none ∧ e.KeylessTargets)
    {ls : List Leaf} {m' : RangeMap} (hw : writeAll expand ls m = .ok m') (h : m.KeylessTargets) :
    m'.key = m.key ∧ m'.KeylessTargets := by
  induction ls generalizing m with
  | nil =>
      cases hw
      exact ⟨rfl, h⟩
  | cons l rest ih =>
      obtain ⟨m₁, h₁, hw⟩ := Except.bind_eq_ok.mp hw
      -- whatever a leaf writes is a record with a target that the expansion gave, or with none
      obtain ⟨r, target, ht, rfl⟩ : ∃ r target,
          (∀ e ∈ target, e.key = none ∧ e.KeylessTargets) ∧
            m₁ = RangeMap.record r target l.path m := by
        unfold Leaf.write at h₁
        split at h₁
        · cases h₁
          exact ⟨_, none, (fun _ h => nomatch h), rfl⟩
        · next scope source _ =>
          split at h₁
          · cases h₁
            exact ⟨_, none, (fun _ h => nomatch h), rfl⟩
          · cases hx : expand scope source with
            | error => rw [hx] at h₁; cases h₁
            | ok target =>
              rw [hx] at h₁
              cases h₁
              refine ⟨_, target, fun e hmem => he scope source e ?_, rfl⟩
              rw [hx, Option.mem_def.mp hmem]
      obtain ⟨hkey, hm'⟩ := ih hw (h.record ht _)
      exact ⟨hkey.trans (record_key _ _ _ _), hm'⟩

/-- The map of a node is a root, and all targets in it are. -/
theorem build {t : LineTable} {budget : Nat} {node : Node} {s : AnchorScope}
    (h : build t budget node s = .ok (some m)) : m.key = none ∧ m.KeylessTargets := by
  induction budget generalizing node s m with
  | zero =>
      obtain ⟨r, -, hw⟩ := build_eq_some h
      exact writeAll (fun _ _ _ h => by cases h) hw (leaf r none)
  | succ budget ih =>
      obtain ⟨r, -, hw⟩ := build_eq_some h
      refine writeAll (fun s source e he => ?_) hw (leaf r none)
      cases source with
      | none => cases he
      | some name =>
          rw [expansion] at he
          split at he
          · exact ih he
          · cases he

theorem index {t : LineTable} {d : Node} (h : index t d = .ok (some m)) : m.KeylessTargets :=
  (build h).2

/-- Behind the targets of an entry there is no key. -/
theorem follow (h : m.KeylessTargets) :
    m.follow.2.KeylessTargets ∧ (m.target ≠ none → m.follow.2.key = none) := by
  induction h with
  | @mk value key children target below keyless behind _ ih =>
      cases target with
      | none => exact ⟨.mk below keyless behind, fun h => absurd rfl h⟩
      | some r =>
          obtain ⟨hr, hkey⟩ := ih r rfl
          refine ⟨hr, fun _ => ?_⟩
          by_cases ht : r.target = none
          · rw [RangeMap.follow, follow_of_target_none ht]
            exact keyless r rfl
          · exact hkey ht

/-- What holds of a map holds of its entries. -/
theorem find? {path : List Segment} {e : RangeMap} (h : m.KeylessTargets)
    (he : m.find? path = some e) : e.KeylessTargets := by
  induction path generalizing m with
  | nil => exact Option.some.inj he ▸ h
  | cons segment rest ih =>
      obtain ⟨next, hnext, he⟩ := Option.bind_eq_some_iff.mp he
      exact ih (h.follow.1.child hnext) he

end KeylessTargets

/-! ### Where a key is located -/

/-- The key of an entry is located at its own place, by the hops taken before the last segment, if
and only if the entry has no target.  In the map of a document the key of an entry with a target is
located where its value is: at the start of the value behind the targets, by the hops through them
too. -/
theorem locate_key_of_find? {m e : RangeMap} {path : List Segment} {segment : Segment} {k : Range}
    (h : m.find? (path ++ [segment]) = some e) (hk : e.key = some k) :
    (m.locate (path ++ [segment]) .key = ⟨k.start, (m.walk path).1.reverse⟩ ↔ e.target = none) ∧
    ∀ t d, index t d = .ok (some m) → e.target ≠ none →
      m.locate (path ++ [segment]) .key = m.locate (path ++ [segment]) .valueStart ∧
      m.locate (path ++ [segment]) .key =
        ⟨e.follow.2.value.start, e.follow.1.reverse ++ (m.walk path).1.reverse⟩ := by
  have hlocate : ∀ a, m.locate (path ++ [segment]) a =
      ⟨e.follow.2.aspect a, e.follow.1.reverse ++ (m.walk path).1.reverse⟩ := by
    intro a
    rw [locate, walk_concat h]
    simp only [List.reverse_append]
  refine ⟨⟨fun heq => ?_, fun ht => ?_⟩, fun t d hm ht => ?_⟩
  · -- the trail of a walk that goes through a target is longer
    by_contra ht
    rw [hlocate, Place.mk.injEq] at heq
    exact follow_hops_ne_nil ht (List.reverse_eq_nil_iff.mp (List.append_left_eq_self.mp heq.2))
  · rw [hlocate, follow_of_target_none ht]
    simp only [aspect, hk, List.reverse_nil, List.nil_append]
  · have hkey := ((KeylessTargets.index hm).find? h).follow.2 ht
    simp only [hlocate, aspect, hkey, and_self]

theorem locate_key_of_find?_sharedScalar :
    ∃ t d m e k, index t d = .ok (some m) ∧ m.find? ([] ++ [.key "b"]) = some e ∧
      e.key = some k ∧
      (m.locate ([] ++ [.key "b"]) .key = ⟨k.start, (m.walk []).1.reverse⟩ ↔ e.target = none) ∧
      m.locate ([] ++ [.key "b"]) .key = m.locate ([] ++ [.key "b"]) .valueStart := by
  let t := LineTable.ofText "a: &x 1\nb: *x\n"
  let d : Node := .mapping (some ⟨0, 14⟩) none
    [(.scalar (some ⟨0, 1⟩) none "a", .scalar (some ⟨3, 7⟩) (some "x") "1"),
      (.scalar (some ⟨8, 9⟩) none "b", .alias (some ⟨11, 13⟩) none (some "x"))]
  have hmap : (index t d).toOption.any (fun m => m.any fun m =>
      (m.find? ([] ++ [.key "b"])).any fun e => e.key.isSome && e.target.isSome) = true := by
    decide +kernel
  obtain ⟨m, hm, hmap⟩ := Except.exists_ok_of_any hmap
  obtain ⟨m, rfl, hentry⟩ := Option.any_eq_true _ _ |>.mp hmap
  obtain ⟨e, he, hparts⟩ := Option.any_eq_true _ _ |>.mp hentry
  obtain ⟨hkey, htarget⟩ := Bool.and_eq_true_iff.mp hparts
  obtain ⟨k, hk⟩ := Option.isSome_iff_exists.mp hkey
  have hne : e.target ≠ none := fun h => by rw [h] at htarget; cases htarget
  obtain ⟨hiff, hindex⟩ := locate_key_of_find? he hk
  exact ⟨t, d, m, e, k, hm, he, hk, hiff, (hindex t d hm hne).1⟩

/-- A key is not always located where it stands: in `a: &x 1` and `b: *x` the key `b` begins line 2,
and is located at the value behind the alias. -/
theorem exists_locate_key_ne :
    ∃ doc m e k, ((Loader.start {}).load "a: &x 1\nb: *x\n").1 = .ok doc ∧ doc.rangeMap = some m ∧
      m.find? ([] ++ [.key "b"]) = some e ∧ e.key = some k ∧ k.start = ⟨2, 1⟩ ∧
      (m.walk []).1 = [] ∧ m.locate ([] ++ [.key "b"]) .key = ⟨⟨1, 4⟩, [⟨2, 4⟩]⟩ := by
  have hdoc : ((Loader.start {}).load "a: &x 1\nb: *x\n").1.toOption.any (fun doc =>
      doc.rangeMap.any fun m => (m.find? ([] ++ [.key "b"])).any fun e => e.key.any fun k =>
        decide (k.start = ⟨2, 1⟩ ∧ (m.walk []).1 = [] ∧
          m.locate ([] ++ [.key "b"]) .key = ⟨⟨1, 4⟩, [⟨2, 4⟩]⟩)) = true := by
    decide +kernel
  obtain ⟨doc, hload, hdoc⟩ := Except.exists_ok_of_any hdoc
  obtain ⟨m, hm, hdoc⟩ := Option.any_eq_true _ _ |>.mp hdoc
  obtain ⟨e, he, hdoc⟩ := Option.any_eq_true _ _ |>.mp hdoc
  obtain ⟨k, hk, hdoc⟩ := Option.any_eq_true _ _ |>.mp hdoc
  exact ⟨doc, m, e, k, hload, hm, he, hk, of_decide_eq_true hdoc⟩

end RangeMap

end YamlAudit
