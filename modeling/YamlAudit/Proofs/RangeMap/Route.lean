import YamlAudit.Proofs.RangeMap.Picture

/-!
# RangeMap — routes through a map

A route takes the children of a map and the targets of its aliases (`RangeMap.along`).  What lies at
its end is told by the document: a way through it remembers the nodes it has met, in the order in
which they were met, and the names it went through; an alias stands for the last node met that
carries its name, unless the way has gone through that name before (`Stop.through`).

That is not always what the alias stands for where it is written: behind an alias the nodes met are
those before that alias, so a name carried again in between is read as its later carrier
(`not_forall_along_eq`).  In a steady document both readings agree.

* `along_eq_stops`: the entries of a map are the stops of the ways through its document.
-/

namespace YamlAudit

/-- A move through a map: into the child under a segment, or through an alias to its target. -/
inductive Move where
  | into (segment : Segment)
  | through
  deriving DecidableEq, Repr

/-- The entry at the end of a route. -/
def RangeMap.along : RangeMap → List Move → Option RangeMap
  | m, [] => some m
  | m, .into segment :: rest => (m.child segment).bind (along · rest)
  | m, .through :: rest => m.target.bind (along · rest)

/-- The spot at the end of a route, every alias standing for its referent. -/
def Spot.along : Spot → List Move → Option Spot
  | o, [] => some o
  | o, .into segment :: rest => (o.into segment).bind (along · rest)
  | o, .through :: rest => o.referent.bind (along · rest)

/-- A node on a way through a document, with the nodes met before it and the names gone through. -/
structure Stop where
  met : List Node
  expanding : List String
  node : Node

namespace Stop

/-- Where every way begins. -/
def root (d : Node) : Stop := ⟨[], [], d⟩

/-- The charted child under a segment. -/
def into (p : Stop) (segment : Segment) : Option Stop :=
  ((p.node.partAt segment).filter (·.2.isCharted)).map fun q => ⟨p.met ++ q.1, p.expanding, q.2⟩

/-- Through an alias: the last node met that carries its name, unless that name was gone through. -/
def through (p : Stop) : Option Stop :=
  p.node.aliasName?.bind fun name =>
    if name ∈ p.expanding then none
    else (Spot.lastCarrier name (p.met ++ [p.node])).map fun r =>
      ⟨p.met ++ [p.node], p.expanding ++ [name], r.node⟩

/-- The stop at the end of a route. -/
def along : Stop → List Move → Option Stop
  | p, [] => some p
  | p, .into segment :: rest => (p.into segment).bind (along · rest)
  | p, .through :: rest => p.through.bind (along · rest)

/-- The scope of a walk that comes to a stop. -/
def scope (p : Stop) : AnchorScope := AnchorScope.registers ⟨[], p.expanding⟩ p.met

end Stop

namespace AnchorScope

/-- What is being expanded makes no difference for what is registered. -/
theorem register_with (s : AnchorScope) (names : List String) (n : Node) :
    ({ s with expanding := names } : AnchorScope).register n =
      { s.register n with expanding := names } := by
  unfold register
  split <;> rfl

theorem registers_with (s : AnchorScope) (names : List String) (nodes : List Node) :
    ({ s with expanding := names } : AnchorScope).registers nodes =
      { s.registers nodes with expanding := names } := by
  induction nodes generalizing s with
  | nil => rfl
  | cons n rest ih => rw [registers_cons, registers_cons, register_with, ih]

end AnchorScope

namespace Stop

variable {p : Stop}

@[simp] theorem scope_expanding (p : Stop) : p.scope.expanding = p.expanding := by
  rw [scope, AnchorScope.registers_expanding]

/-- To go on is to register the nodes that are met. -/
theorem registers_scope (p : Stop) (nodes : List Node) (n : Node) :
    p.scope.registers nodes = scope ⟨p.met ++ nodes, p.expanding, n⟩ :=
  (AnchorScope.registers_append _ _ _).symm

/-- To go through an alias is to note its name. -/
theorem entering_scope {name : String} (h : name ∉ p.expanding) (n : Node) :
    (p.scope.register p.node).entering name =
      scope ⟨p.met ++ [p.node], p.expanding ++ [name], n⟩ := by
  have hscope : p.scope.register p.node = scope ⟨p.met ++ [p.node], p.expanding, n⟩ :=
    registers_scope p [p.node] n
  rw [hscope, AnchorScope.entering, scope_expanding, if_neg h]
  exact (AnchorScope.registers_with ⟨[], p.expanding⟩ _ _).symm

/-- A scope hops where a way goes through. -/
theorem hop_scope (p : Stop) :
    p.scope.hop p.node = p.through.map fun q => (q.scope, q.node) := by
  unfold AnchorScope.hop through
  cases p.node.aliasName? with
  | none => rfl
  | some name =>
      simp only [Option.bind_some, AnchorScope.referent, AnchorScope.register_expanding,
        scope_expanding]
      split
      · rfl
      · next hnot =>
        have hfind : AnchorScope.find? name (p.scope.register p.node).anchors =
            (Spot.lastCarrier name (p.met ++ [p.node])).map (·.node) := by
          rw [show p.scope.register p.node = scope ⟨p.met ++ [p.node], p.expanding, p.node⟩ from
            registers_scope p [p.node] p.node, scope, AnchorScope.find?_registers]
          cases Spot.lastCarrier name (p.met ++ [p.node]) <;> rfl
        rw [hfind, Option.map_map, Option.map_map]
        congr 1
        funext r
        exact congrArg (·, r.node) (entering_scope hnot r.node)

end Stop

/-! ### The stops of a document -/

/-- A node stands in a document after nodes that carry all names carried before it there. -/
def Node.Known (d : Node) (met : List Node) (n : Node) : Prop :=
  ∃ before, Spot.Inside (.root d) ⟨before, n⟩ ∧
    ∀ name, (∃ x ∈ before, x.Carries name) → ∃ x ∈ met, x.Carries name

/-- A stop and all nodes met before it are known. -/
structure Stop.Within (d : Node) (p : Stop) : Prop where
  here : d.Known p.met p.node
  met : ∀ pre n post, p.met = pre ++ n :: post → d.Known pre n

namespace Stop.Within

variable {d : Node} {p q : Stop}

theorem root (d : Node) : Within d (.root d) where
  here := ⟨[], .refl _, fun _ h => h⟩
  met pre n post h := by simp [Stop.root] at h

/-- A stop is at a node of the document. -/
theorem mem_nodes (h : Within d p) : p.node ∈ d.nodes := by
  obtain ⟨before, hin, -⟩ := h.here
  obtain ⟨post, hpost⟩ := hin.before_append
  simp [hpost, Node.mem_nodes_self]

theorem into (h : Within d p) {segment : Segment} (hq : p.into segment = some q) : Within d q := by
  obtain ⟨part, hpart, rfl⟩ := Option.map_eq_some_iff.mp hq
  have hmem := Node.partAt_mem (Option.filter_eq_some_iff.mp hpart).1
  obtain ⟨before, hin, hknown⟩ := h.here
  have hall : ∀ {mid name}, (∃ x ∈ before ++ mid, x.Carries name) →
      ∃ x ∈ p.met ++ mid, x.Carries name := by
    rintro mid name ⟨x, hx, hc⟩
    rcases List.mem_append.mp hx with hx | hx
    · obtain ⟨y, hy, hyc⟩ := hknown name ⟨x, hx, hc⟩
      exact ⟨y, List.mem_append_left _ hy, hyc⟩
    · exact ⟨x, List.mem_append_right _ hx, hc⟩
  refine ⟨⟨before ++ part.1, ?_, fun _ => hall⟩, fun pre n post hmet => ?_⟩
  · exact hin.tail (Spot.mem_children_iff.mpr ⟨part, hmem, rfl⟩)
  -- what is met on the way into the child lies inside the node of the stop
  · rcases Node.split_append hmet with ⟨post', hpost⟩ | ⟨pre', rfl, hpre⟩
    · exact h.met pre n post' hpost
    · obtain ⟨-, later, hlater⟩ := Node.parts_prefix hmem
      rw [hpre, List.append_assoc, List.append_assoc, List.cons_append] at hlater
      exact ⟨before ++ pre', hin.trans (Spot.inside_of_nodes hlater), fun _ => hall⟩

theorem through (h : Within d p) (hq : p.through = some q) : Within d q := by
  obtain ⟨name, -, hq⟩ := Option.bind_eq_some_iff.mp hq
  split at hq
  · cases hq
  obtain ⟨r, hr, rfl⟩ := Option.map_eq_some_iff.mp hq
  obtain ⟨later, hmet, -, -⟩ := Spot.lastCarrier_eq_some.mp hr
  -- the alias itself has been met when its name is looked up
  have hall : ∀ pre n post, p.met ++ [p.node] = pre ++ n :: post → d.Known pre n := by
    intro pre n post hmet
    rcases Node.split_append hmet with ⟨post', hpost⟩ | ⟨pre', rfl, hpre⟩
    · exact h.met pre n post' hpost
    · cases pre' with
      | nil => obtain ⟨rfl, -⟩ := List.cons.inj hpre; simpa using h.here
      | cons x pre' => simp at hpre
  refine ⟨?_, hall⟩
  obtain ⟨before, hin, hknown⟩ := hall _ _ _ hmet
  refine ⟨before, hin, fun name h => ?_⟩
  obtain ⟨x, hx, hc⟩ := hknown name h
  exact ⟨x, by rw [hmet]; exact List.mem_append_left _ hx, hc⟩

theorem along (h : Within d p) {route : List Move} (hq : p.along route = some q) : Within d q := by
  induction route generalizing p with
  | nil => cases hq; exact h
  | cons move rest ih =>
      cases move with
      | into segment =>
          obtain ⟨p', hp', hq⟩ := Option.bind_eq_some_iff.mp hq
          exact ih (h.into hp') hq
      | through =>
          obtain ⟨p', hp', hq⟩ := Option.bind_eq_some_iff.mp hq
          exact ih (h.through hp') hq

/-- Where every alias has a referent, a way goes through each of them, but once through a name. -/
theorem isSome_through_iff (hd : d.Settled) (h : Within d p) {name : String}
    (hn : p.node.aliasName? = some name) : p.through.isSome ↔ name ∉ p.expanding := by
  obtain ⟨before, hin, hknown⟩ := h.here
  obtain ⟨r, hr⟩ := hd _ hin (Node.isAlias_of_aliasName? hn)
  obtain ⟨name', hn', hlast⟩ := Spot.referent_eq_some.mp hr
  obtain rfl := Option.some.inj (hn.symm.trans hn')
  obtain ⟨later, hb, hc, -⟩ := Spot.lastCarrier_eq_some.mp hlast
  obtain ⟨x, hx, hxc⟩ := hknown name ⟨r.node, by rw [show before = _ from hb]; simp, hc⟩
  simp only [Stop.through, hn, Option.bind_some]
  split
  · next hmem => simp [hmem]
  · next hmem =>
    -- a way knows all names that are carried before the node it has come to
    cases hl : Spot.lastCarrier name (p.met ++ [p.node]) with
    | none => exact absurd hxc (Spot.lastCarrier_eq_none.mp hl x (by simp [hx]))
    | some r => simp [hmem]

end Stop.Within

/-! ### Stops and spots -/

/-- A stop and a spot at one node, such that the stop knows what the spot leads to. -/
structure Stop.Agrees (d : Node) (p : Stop) (o : Spot) : Prop where
  node : p.node = o.node
  inside : Spot.Inside (.root d) o
  faithful : p.scope.Faithful o

namespace Stop.Agrees

variable {d : Node} {p q : Stop} {o : Spot}

theorem root (d : Node) : Agrees d (.root d) (.root d) := ⟨rfl, .refl _, .root _ d⟩

theorem into (h : Agrees d p o) {segment : Segment} (hq : p.into segment = some q) :
    ∃ c, o.into segment = some c ∧ Agrees d q c := by
  obtain ⟨part, hpart, rfl⟩ := Option.map_eq_some_iff.mp hq
  obtain ⟨hpart, -⟩ := Option.filter_eq_some_iff.mp hpart
  rw [h.node] at hpart
  have hmem := Node.partAt_mem hpart
  refine ⟨⟨o.before ++ part.1, part.2⟩, by rw [Spot.into, hpart]; rfl, rfl, ?_, ?_⟩
  · exact h.inside.tail (Spot.mem_children_iff.mpr ⟨part, hmem, rfl⟩)
  · rw [← registers_scope p part.1 part.2]
    exact h.faithful.child hmem

theorem through (hd : d.Steady) (hs : d.Settled) (h : Agrees d p o) (hq : p.through = some q) :
    ∃ r, o.referent = some r ∧ Agrees d q r := by
  have hhop := p.hop_scope
  rw [hq, Option.map_some] at hhop
  obtain ⟨name, hn, hhop⟩ := Option.bind_eq_some_iff.mp hhop
  obtain ⟨n, hfind, hn'⟩ := Option.map_eq_some_iff.mp hhop
  obtain ⟨hscope, rfl⟩ := Prod.mk.inj hn'
  rw [h.node] at hn hfind hscope
  obtain ⟨r, hr⟩ := hs o h.inside (Node.isAlias_of_aliasName? hn)
  obtain ⟨-, hfind⟩ := RangeMap.Within.referent hfind
  rw [h.faithful.find?_register hd h.inside hn hr] at hfind
  refine ⟨r, hr, (Option.some.inj hfind).symm, h.inside.referent hr, ?_⟩
  rw [← hscope]
  exact h.faithful.referent hd h.inside hr name

/-- In a steady document a way comes to the nodes that its route leads to. -/
theorem along (hd : d.Steady) (hs : d.Settled) (h : Agrees d p o) {route : List Move}
    (hq : p.along route = some q) : ∃ o', o.along route = some o' ∧ Agrees d q o' := by
  induction route generalizing p o with
  | nil => cases hq; exact ⟨o, rfl, h⟩
  | cons move rest ih =>
      cases move with
      | into segment =>
          obtain ⟨p', hp', hq⟩ := Option.bind_eq_some_iff.mp hq
          obtain ⟨c, hc, hagree⟩ := h.into hp'
          obtain ⟨o', ho', hagree'⟩ := ih hagree hq
          exact ⟨o', by rw [Spot.along, hc]; exact ho', hagree'⟩
      | through =>
          obtain ⟨p', hp', hq⟩ := Option.bind_eq_some_iff.mp hq
          obtain ⟨r, hr, hagree⟩ := h.through hd hs hp'
          obtain ⟨o', ho', hagree'⟩ := ih hagree hq
          exact ⟨o', by rw [Spot.along, hr]; exact ho', hagree'⟩

end Stop.Agrees

/-! ### Entries and stops -/

namespace RangeMap

variable {t : LineTable} {d : Node}

/-- Along every route the entries of a map show the stops of the way through its document. -/
theorem along_shows (hkeyed : d.Keyed) {p : Stop} {m : RangeMap} (hp : p.Within d)
    (h : Shows t p.scope p.node m) (route : List Move) :
    Option.Rel (fun (q : Stop) m' => Shows t q.scope q.node m') (p.along route) (m.along route) := by
  induction route generalizing p m with
  | nil => exact .some h
  | cons move rest ih =>
      -- either move has the same outcome in the document and in the map
      cases move with
      | into segment =>
          have hrel := h.child (hkeyed _ hp.mem_nodes).2 segment
          have hinto : p.into segment = ((p.node.partAt segment).filter (·.2.isCharted)).map
            fun q => ⟨p.met ++ q.1, p.expanding, q.2⟩ := rfl
          rw [Stop.along, along]
          generalize (p.node.partAt segment).filter (·.2.isCharted) = part at hrel hinto
          generalize m.child segment = c at hrel
          cases hrel with
          | none => rw [hinto]; exact .none
          | some hc =>
              rw [hinto]
              exact ih (hp.into hinto) (by rwa [Stop.registers_scope] at hc)
      | through =>
          have hrel := h.target
          rw [p.hop_scope] at hrel
          rw [Stop.along, along]
          generalize m.target = c at hrel
          cases hq : p.through with
          | none => rw [hq] at hrel; cases hrel; exact .none
          | some q =>
              rw [hq] at hrel
              cases hrel with
              | some hc => exact ih (hp.through hq) hc

/-- Along every route the map of a document has the range of the node that the way comes to. -/
theorem exists_index_along (t : LineTable) (hspanned : d.Spanned) (hkeyed : d.Keyed) :
    ∃ m, index t d = .ok (some m) ∧ ∀ route, (m.along route).map (·.value) =
      ((Stop.root d).along route).bind fun p => t.range? p.node := by
  obtain ⟨m, hm, hshow, -⟩ := exists_index (hspanned.positioned t)
  refine ⟨m, hm, fun route => ?_⟩
  have hrel := along_shows hkeyed (.root d) (p := .root d) hshow route
  generalize (Stop.root d).along route = p at hrel
  generalize m.along route = m' at hrel
  cases hrel with
  | none => rfl
  | some h => exact (range?_of_nodeRange h.nodeRange).symm

/-- The entries of the map of a document are the stops of the ways through the document: along every
route lies the range of the node that the way comes to, or nothing where no way leads.  A way goes
through every alias whose name it has not gone through; in a steady document it comes to what the
aliases on its route stand for. -/
theorem along_eq_stops (t : LineTable) (d : Node) (hspanned : d.Spanned) (hkeyed : d.Keyed)
    (hsettled : d.Settled) :
    ∃ m, index t d = .ok (some m) ∧
      (∀ route, (m.along route).map (·.value) =
        ((Stop.root d).along route).bind fun p => t.range? p.node) ∧
      (∀ route p name, (Stop.root d).along route = some p → p.node.aliasName? = some name →
        (p.through.isSome ↔ name ∉ p.expanding)) ∧
      (d.Steady → ∀ route p, (Stop.root d).along route = some p →
        ∃ o, (Spot.root d).along route = some o ∧ o.node = p.node) := by
  obtain ⟨m, hm, hroute⟩ := exists_index_along t hspanned hkeyed
  refine ⟨m, hm, hroute, fun route p name hp hn => ?_, fun hsteady route p hp => ?_⟩
  · exact ((Stop.Within.root d).along hp).isSome_through_iff hsettled hn
  · obtain ⟨o, ho, hagree⟩ := (Stop.Agrees.root d).along hsteady hsettled hp
    exact ⟨o, ho, hagree.node.symm⟩

/-- The tree of `a: &x 1`, `b: &y [*x]`, `c: &x 2` and `d: *y`, the second `x` replaced by `name`. -/
def nestedAliases (name : String) : Node :=
  .mapping (some ⟨0, 33⟩) none
    [(.scalar (some ⟨0, 1⟩) none "a", .scalar (some ⟨3, 7⟩) (some "x") "1"),
      (.scalar (some ⟨8, 9⟩) none "b",
        .sequence (some ⟨11, 18⟩) (some "y") [.alias (some ⟨15, 17⟩) none (some "x")]),
      (.scalar (some ⟨19, 20⟩) none "c", .scalar (some ⟨22, 26⟩) (some name) "2"),
      (.scalar (some ⟨27, 28⟩) none "d", .alias (some ⟨30, 32⟩) none (some "y"))]

/-- A document in which an alias stands for a sequence with an alias in it. -/
theorem along_eq_stops_nestedAliases :
    ((nestedAliases "z").Spanned ∧ (nestedAliases "z").Keyed ∧ (nestedAliases "z").Settled) ∧
      ∃ m, index (.ofText "a: &x 1\nb: &y [*x]\nc: &z 2\nd: *y\n") (nestedAliases "z") =
          .ok (some m) ∧
        (∀ route, (m.along route).map (·.value) =
          ((Stop.root (nestedAliases "z")).along route).bind fun p =>
            (LineTable.ofText "a: &x 1\nb: &y [*x]\nc: &z 2\nd: *y\n").range? p.node) ∧
        (∀ route p name, (Stop.root (nestedAliases "z")).along route = some p →
          p.node.aliasName? = some name → (p.through.isSome ↔ name ∉ p.expanding)) ∧
        ∀ route p, (Stop.root (nestedAliases "z")).along route = some p →
          ∃ o, (Spot.root (nestedAliases "z")).along route = some o ∧ o.node = p.node := by
  have hsettled : (nestedAliases "z").Settled := by decide
  have hsteady : (nestedAliases "z").Steady := Spot.steady_of_nodup hsettled (by decide)
  obtain ⟨m, hm, hroute, hthrough, hspot⟩ := along_eq_stops
    (.ofText "a: &x 1\nb: &y [*x]\nc: &z 2\nd: *y\n") (nestedAliases "z") (by decide) (by decide)
    hsettled
  exact ⟨⟨by decide, by decide, hsettled⟩, m, hm, hroute, hthrough, hspot hsteady⟩

/-- Not every alias leads to what it stands for where it is written: by way of `*y` the alias `*x`
leads to the second carrier of `x`, which comes after it. -/
theorem not_forall_along_eq :
    ¬ ∀ (t : LineTable) (d : Node), d.Spanned → d.Keyed → d.Settled → d.Open →
      ∀ m, index t d = .ok (some m) → ∀ route m' o, m.along route = some m' →
        (Spot.root d).along route = some o → t.nodeRange o.node = .ok (some m'.value) := by
  intro h
  let t := LineTable.ofText "a: &x 1\nb: &y [*x]\nc: &x 2\nd: *y\n"
  let route := [Move.into (.key "d"), .through, .into (.index 0), .through]
  obtain ⟨m, hm, hroute⟩ := exists_index_along (d := nestedAliases "x") t (by decide) (by decide)
  have hvalue : (m.along route).map (·.value) = some ⟨⟨3, 4⟩, ⟨3, 8⟩, by decide⟩ := by
    rw [hroute]
    rfl
  obtain ⟨m', hm', hm'value⟩ := Option.map_eq_some_iff.mp hvalue
  have hspot : ((Spot.root (nestedAliases "x")).along route).map (·.node) =
      some (.scalar (some ⟨3, 7⟩) (some "x") "1") := rfl
  obtain ⟨o, ho, honode⟩ := Option.map_eq_some_iff.mp hspot
  have hrange := h t (nestedAliases "x") (by decide) (by decide) (by decide) (by decide) m hm
    route m' o hm' ho
  rw [honode, hm'value] at hrange
  exact absurd hrange (by decide)

end RangeMap

end YamlAudit
