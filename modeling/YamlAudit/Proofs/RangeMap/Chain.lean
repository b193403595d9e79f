import YamlAudit.RangeMap.Locate

/-!
# RangeMap — chains

A chain goes down a map through children and targets in any order (`RangeMap.descend`).  What holds
at the root and is handed on to children and targets holds wherever a chain leads
(`descend_induction`).

* `exists_descend_walk`: a walk along a path follows a chain that goes through one target for each
  hop.

That is how what is shown of a map link by link holds for walks too, which go through a target
wherever there is one and take no other links.
-/

namespace YamlAudit

/-- One link of a chain: into the child under a segment, or through the target. -/
inductive Link where
  | child (segment : Segment)
  | target
  deriving DecidableEq

namespace RangeMap

/-- The position that a chain leads to. -/
def descend : RangeMap → List Link → Option RangeMap
  | m, [] => some m
  | m, .child segment :: rest => (m.child segment).bind fun c => c.descend rest
  | m, .target :: rest => m.target.bind fun c => c.descend rest

theorem descend_append (m : RangeMap) (a b : List Link) :
    m.descend (a ++ b) = (m.descend a).bind fun x => x.descend b := by
  induction a generalizing m with
  | nil => rfl
  | cons link rest ih =>
      cases link with
      | child segment =>
          rw [List.cons_append, descend, descend, Option.bind_assoc]
          exact Option.bind_congr fun c _ => ih c
      | target =>
          rw [List.cons_append, descend, descend, Option.bind_assoc]
          exact Option.bind_congr fun c _ => ih c

/-- What children and targets take over holds wherever a chain leads. -/
theorem descend_induction {P : RangeMap → Prop}
    (child : ∀ {m segment c}, P m → m.child segment = some c → P c)
    (target : ∀ {m c}, P m → m.target = some c → P c) {m x : RangeMap} {chain : List Link}
    (hm : P m) (h : m.descend chain = some x) : P x := by
  induction chain generalizing m with
  | nil => exact Option.some.inj h ▸ hm
  | cons link rest ih =>
      cases link with
      | child segment =>
          obtain ⟨c, hc, h⟩ := Option.bind_eq_some_iff.mp h
          exact ih (child hm hc) h
      | target =>
          obtain ⟨c, hc, h⟩ := Option.bind_eq_some_iff.mp h
          exact ih (target hm hc) h

/-- Following targets is a chain of them. -/
theorem descend_follow (m : RangeMap) :
    m.descend (List.replicate m.follow.1.length .target) = some m.follow.2 := by
  induction m using follow.induct with
  | case1 => rfl
  | case2 value key children target hops landing _ ih => exact ih

theorem walk_cons_of_none {m : RangeMap} {segment : Segment}
    (h : m.follow.2.child segment = none) (rest : List Segment) :
    m.walk (segment :: rest) = m.follow := by
  simp only [walk, h]

theorem walk_cons_of_some {m next : RangeMap} {segment : Segment}
    (h : m.follow.2.child segment = some next) (rest : List Segment) :
    m.walk (segment :: rest) = (m.follow.1 ++ (next.walk rest).1, (next.walk rest).2) := by
  simp only [walk, h]

/-- A walk along a path follows a chain that goes through one target for each hop. -/
theorem exists_descend_walk (m : RangeMap) (path : List Segment) :
    ∃ chain, m.descend chain = some (m.walk path).2 ∧
      chain.count .target = (m.walk path).1.length := by
  induction path generalizing m with
  | nil => exact ⟨_, m.descend_follow, List.count_replicate_self⟩
  | cons segment rest ih =>
      cases hc : m.follow.2.child segment with
      | none =>
          rw [walk_cons_of_none hc]
          exact ⟨_, m.descend_follow, List.count_replicate_self⟩
      | some next =>
          obtain ⟨chain, hchain, hcount⟩ := ih next
          rw [walk_cons_of_some hc]
          refine ⟨List.replicate m.follow.1.length .target ++ .child segment :: chain, ?_, ?_⟩
          · rw [descend_append, descend_follow, Option.bind_some, descend, hc]
            exact hchain
          · rw [List.count_append, List.count_replicate_self, List.count_cons_of_ne (by simp),
              hcount, List.length_append]

end RangeMap

end YamlAudit
