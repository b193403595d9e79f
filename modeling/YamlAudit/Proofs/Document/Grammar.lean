import YamlAudit.Document.Compose
import YamlAudit.Proofs.Document.Order

/-!
# Document — the events of a node

Which events are the whole of a node (`Describes`): one event of a scalar or an alias, or the start
of a collection, the events of its children one after another, and the end of that kind of
collection.  The composition of events is related to this grammar in both directions.

* `Describes.run`, `DescribesAll.run`: the events of a node, read inside some open collections, put
  the node where it belongs and leave what follows to be read.
* `Progress.closes`: what is read inside a collection up to the root begins with the events of more
  children and the end of the collection.
* `compose_eq_some_iff`: events compose to a tree exactly if they are those of a document with that
  tree as its root.
* `Node.describes_events`: every tree that events can describe is described by its own.
-/

namespace YamlAudit

open OpenCollection (spanOf pairUp)

mutual

/-- Events that are the whole of a node at a depth, nothing in it being deeper than the limit. -/
inductive Describes (limit : Int) : Nat → List Event → Node → Prop
  | scalar {depth : Nat} {e : Event} {anchor value} : (depth : Int) ≤ limit →
      e.kind = .scalar anchor value →
      Describes limit depth [e] (.scalar (spanOf e.start e.stop) anchor value)
  | alias {depth : Nat} {e : Event} {source} : (depth : Int) ≤ limit → e.kind = .alias source →
      Describes limit depth [e] (.alias (spanOf e.start e.stop) none source)
  | sequence {depth : Nat} {first last : Event} {anchor events items} : (depth : Int) ≤ limit →
      first.kind = .sequenceStart anchor → DescribesAll limit (depth + 1) events items →
      last.kind = .sequenceEnd →
      Describes limit depth (first :: (events ++ [last]))
        (.sequence (spanOf first.start last.stop) anchor items)
  /-- A child without partner may come last in a mapping; it is left out of the pairs. -/
  | mapping {depth : Nat} {first last : Event} {anchor events pairs} {odd : Option Node} :
      (depth : Int) ≤ limit → first.kind = .mappingStart anchor →
      DescribesAll limit (depth + 1) events
        ((pairs.flatMap fun pair => [pair.1, pair.2]) ++ odd.toList) →
      last.kind = .mappingEnd →
      Describes limit depth (first :: (events ++ [last]))
        (.mapping (spanOf first.start last.stop) anchor pairs)

/-- Events that are the whole of some nodes, one after another. -/
inductive DescribesAll (limit : Int) : Nat → List Event → List Node → Prop
  | nil {depth} : DescribesAll limit depth [] []
  | cons {depth events more node rest} : Describes limit depth events node →
      DescribesAll limit depth more rest → DescribesAll limit depth (events ++ more) (node :: rest)

end

/-- Events with one document among them, and in it one node. -/
def DescribesDocument (limit : Int) (events : List Event) (root : Node) : Prop :=
  ∃ before first body after, events = before ++ first :: (body ++ after) ∧
    (∀ e ∈ before, e.kind ≠ .documentStart) ∧ first.kind = .documentStart ∧
    Describes limit 0 body root ∧ ∀ e ∈ after, e.kind ≠ .documentStart

/-! ### Pairs of children -/

theorem OpenCollection.pairUp_flatten (pairs : List (Node × Node)) (odd : Option Node) :
    pairUp ((pairs.flatMap fun pair => [pair.1, pair.2]) ++ odd.toList) = pairs := by
  induction pairs with
  | nil => cases odd <;> rfl
  | cons pair rest ih =>
      rw [List.flatMap_cons, List.append_assoc]
      exact congrArg (pair :: ·) ih

/-- Children are their pairs, and perhaps one more. -/
theorem OpenCollection.exists_flatten (children : List Node) : ∃ odd : Option Node,
    children = ((pairUp children).flatMap fun pair => [pair.1, pair.2]) ++ odd.toList := by
  induction children using pairUp.induct with
  | case1 key value rest ih =>
      obtain ⟨odd, h⟩ := ih
      exact ⟨odd, congrArg (key :: value :: ·) h⟩
  | case2 children hne =>
      match children, hne with
      | [], _ => exact ⟨none, rfl⟩
      | [node], _ => exact ⟨some node, rfl⟩
      | _ :: _ :: _, hne => exact absurd rfl (hne _ _ _)

/-! ### Reading the events of a node -/

namespace Progress

variable {limit : Int} {outer : List OpenCollection} {e : Event}

/-- What is read next belongs to the innermost of the open collections; with none open it is the
root. -/
def awaiting : List OpenCollection → Progress
  | [] => .opened
  | top :: outer => .inside top outer

@[simp] theorem place_cons (node : Node) (top : OpenCollection) (outer : List OpenCollection) :
    place node (top :: outer) =
      .inside { top with children := node :: top.children } outer := rfl

/-- An event that ends nothing begins a node. -/
theorem step_awaiting (outer : List OpenCollection) (hs : e.kind ≠ .sequenceEnd)
    (hm : e.kind ≠ .mappingEnd) : step limit (awaiting outer) e = begin limit outer e := by
  cases outer with
  | nil => rfl
  | cons top outer =>
      have hne : e.kind ≠ top.endEvent := by
        rw [OpenCollection.endEvent]
        split <;> assumption
      rw [awaiting, step, if_neg hne]

theorem run_cons {p q : Progress} (h : step limit p e = .ok q) (rest : List Event) :
    run limit p (e :: rest) = run limit q rest := by
  rw [run, h]

/-- An event that is read leaves the rest to be read. -/
theorem run_cons_eq_ok {p r : Progress} {rest : List Event} :
    run limit p (e :: rest) = .ok r ↔ ∃ q, step limit p e = .ok q ∧ run limit q rest = .ok r := by
  rw [run]
  cases step limit p e <;> simp

/-- A collection that begins is the innermost one. -/
theorem run_start (shape : Shape) {anchor : Option String} (hd : (outer.length : Int) ≤ limit)
    (hk : e.kind = OpenCollection.startEvent ⟨shape, anchor, e.start, []⟩) (rest : List Event) :
    run limit (awaiting outer) (e :: rest) =
      run limit (.inside ⟨shape, anchor, e.start, []⟩ outer) rest := by
  refine run_cons ?_ rest
  cases shape <;> simp only [OpenCollection.startEvent] at hk <;>
    rw [step_awaiting outer (by simp [hk]) (by simp [hk]), begin, if_neg (by omega), hk]

/-- A collection that ends is a node of its own. -/
theorem run_end {top : OpenCollection} (hk : e.kind = top.endEvent) (rest : List Event) :
    run limit (.inside top outer) (e :: rest) =
      run limit (place (top.close e.stop) outer) rest :=
  run_cons (by rw [step, if_pos hk]) rest

end Progress

section Reading

open Progress

variable {limit : Int}

mutual

/-- The events of a node put it where it belongs. -/
theorem Describes.run {depth : Nat} {events : List Event} {node : Node} :
    Describes limit depth events node → ∀ {outer : List OpenCollection}, outer.length = depth →
      ∀ rest, run limit (awaiting outer) (events ++ rest) = run limit (place node outer) rest
  | .scalar hdepth hk, outer, hd, rest => by
      refine run_cons ?_ rest
      rw [step_awaiting outer (by simp [hk]) (by simp [hk]), begin, if_neg (by omega), hk]
  | .alias hdepth hk, outer, hd, rest => by
      refine run_cons ?_ rest
      rw [step_awaiting outer (by simp [hk]) (by simp [hk]), begin, if_neg (by omega), hk]
  | .sequence hdepth hfirst hall hlast, outer, hd, rest => by
      rw [List.cons_append, run_start .sequence (hd ▸ hdepth) hfirst, List.append_assoc,
        hall.run (by rw [hd]), List.singleton_append, run_end hlast]
      simp [OpenCollection.close]
  | .mapping hdepth hfirst hall hlast, outer, hd, rest => by
      rw [List.cons_append, run_start .mapping (hd ▸ hdepth) hfirst, List.append_assoc,
        hall.run (by rw [hd]), List.singleton_append, run_end hlast]
      simp [OpenCollection.close, OpenCollection.pairUp_flatten]

/-- The events of some nodes make them the next children of the innermost collection. -/
theorem DescribesAll.run {depth : Nat} {events : List Event} {nodes : List Node} :
    DescribesAll limit depth events nodes → ∀ {top : OpenCollection} {outer : List OpenCollection},
      outer.length + 1 = depth → ∀ rest, run limit (.inside top outer) (events ++ rest) =
        run limit (.inside { top with children := nodes.reverse ++ top.children } outer) rest
  | .nil, _, _, _, _ => rfl
  | .cons hnode hall, top, outer, hd, rest => by
      rw [List.append_assoc, show Progress.inside top outer = awaiting (top :: outer) from rfl,
        hnode.run (show (top :: outer).length = _ from hd), place_cons, hall.run hd]
      simp

end

/-! ### What is read is described -/

/-- A collection is described by its start, its children and its end. -/
theorem Describes.collection {depth : Nat} {first last : Event} {events : List Event}
    {c : OpenCollection} (hd : (depth : Int) ≤ limit) (hfirst : first.kind = c.startEvent)
    (hstart : c.start = first.start) (hall : DescribesAll limit (depth + 1) events c.children.reverse)
    (hlast : last.kind = c.endEvent) :
    Describes limit depth (first :: (events ++ [last])) (c.close last.stop) := by
  obtain ⟨shape, anchor, start, children⟩ := c
  obtain rfl : start = first.start := hstart
  cases shape with
  | sequence => exact .sequence hd hfirst hall hlast
  | mapping =>
      obtain ⟨odd, hodd⟩ := OpenCollection.exists_flatten children.reverse
      exact .mapping hd hfirst (hodd ▸ hall) hlast

/-- An event that begins a node is the whole of it or starts a collection. -/
theorem Progress.begin_eq_ok {outer : List OpenCollection} {e : Event} {q : Progress}
    (h : begin limit outer e = .ok q) :
    (∃ node, Describes limit outer.length [e] node ∧ q = place node outer) ∨
      ∃ shape anchor, (outer.length : Int) ≤ limit ∧
        e.kind = OpenCollection.startEvent ⟨shape, anchor, e.start, []⟩ ∧
        q = .inside ⟨shape, anchor, e.start, []⟩ outer := by
  unfold begin at h
  split at h
  · cases h
  · next hd =>
    have hd : (outer.length : Int) ≤ limit := by omega
    generalize hk : e.kind = kind at h
    cases kind <;> simp only [reduceCtorEq, Except.ok.injEq] at h
    · exact .inl ⟨_, .scalar hd hk, h.symm⟩
    · exact .inl ⟨_, .alias hd hk, h.symm⟩
    · exact .inr ⟨.sequence, _, hd, rfl, h.symm⟩
    · exact .inr ⟨.mapping, _, hd, rfl, h.symm⟩

/-- Events that, read inside any collection, lead up to a root begin with more children of that
collection and its end. -/
def Closes (limit : Int) (root : Node) (events : List Event) : Prop :=
  ∀ top outer, run limit (.inside top outer) events = .ok (.complete root) →
    ∃ body nodes last rest, events = body ++ last :: rest ∧
      DescribesAll limit (outer.length + 1) body nodes ∧ last.kind = top.endEvent ∧
      run limit (place (OpenCollection.close
        { top with children := nodes.reverse ++ top.children } last.stop) outer) rest =
          .ok (.complete root)

/-- The node that an event begins, on the way up to a root. -/
theorem Progress.exists_of_begin {outer : List OpenCollection} {e : Event} {q : Progress}
    {events : List Event} {root : Node} (hclose : Closes limit root events)
    (hb : begin limit outer e = .ok q) (h : run limit q events = .ok (.complete root)) :
    ∃ body node rest, events = body ++ rest ∧ Describes limit outer.length (e :: body) node ∧
      run limit (place node outer) rest = .ok (.complete root) := by
  rcases begin_eq_ok hb with ⟨node, hnode, rfl⟩ | ⟨shape, anchor, hd, hk, rfl⟩
  · exact ⟨[], node, events, rfl, hnode, h⟩
  · obtain ⟨body, nodes, last, rest, rfl, hall, hlast, hrest⟩ := hclose _ _ h
    refine ⟨body ++ [last], _, rest, by simp, ?_, hrest⟩
    exact Describes.collection hd (by cases shape <;> exact hk) rfl (by simpa using hall)
      (by cases shape <;> exact hlast)

/-- The induction is on the events left: each child is read by `exists_of_begin`, whose collections
are closed by fewer events, and the siblings after it by fewer still. -/
theorem Progress.closes (root : Node) (events : List Event) : Closes limit root events := by
  induction hn : events.length using Nat.strongRecOn generalizing events with
  | _ n ih =>
    intro top outer h
    cases events with
    | nil => cases h
    | cons e events =>
        have ih' : ∀ es : List Event, es.length ≤ events.length → Closes limit root es :=
          fun es hes => ih _ (by simp only [List.length_cons] at hn; omega) es rfl
        by_cases hend : e.kind = top.endEvent
        · rw [run_end hend] at h
          exact ⟨[], [], e, events, rfl, .nil, hend, h⟩
        · obtain ⟨q, hq, hrun⟩ := run_cons_eq_ok.mp h
          rw [step, if_neg hend] at hq
          obtain ⟨body, node, rest, rfl, hnode, hrest⟩ :=
            exists_of_begin (ih' events (Nat.le_refl _)) hq hrun
          obtain ⟨body', nodes, last, rest', rfl, hall, hlast, hrest'⟩ :=
            ih' rest (by simp) _ _ hrest
          refine ⟨e :: (body ++ body'), node :: nodes, last, rest', by simp, ?_, hlast, ?_⟩
          · exact .cons hnode hall
          · simpa using hrest'

end Reading

/-! ### The document -/

namespace Progress

variable {limit : Int}

theorem run_before {before : List Event} (h : ∀ e ∈ before, e.kind ≠ .documentStart)
    (rest : List Event) : run limit .before (before ++ rest) = run limit .before rest := by
  induction before with
  | nil => rfl
  | cons e before ih =>
      rw [List.cons_append, run_cons (by rw [step, if_neg (h e List.mem_cons_self)]),
        ih fun e he => h e (List.mem_cons_of_mem _ he)]

/-- Before the root no document or the start of the first one has been read. -/
theorem run_before_eq_ok {events : List Event} {q : Progress}
    (h : run limit .before events = .ok q) :
    (q = .before ∧ ∀ e ∈ events, e.kind ≠ .documentStart) ∨
      ∃ before first rest, events = before ++ first :: rest ∧
        (∀ e ∈ before, e.kind ≠ .documentStart) ∧ first.kind = .documentStart ∧
        run limit .opened rest = .ok q := by
  induction events with
  | nil => cases h; exact .inl ⟨rfl, by simp⟩
  | cons e events ih =>
      by_cases hk : e.kind = .documentStart
      · rw [run_cons (by rw [step, if_pos hk])] at h
        exact .inr ⟨[], e, events, rfl, by simp, hk, h⟩
      · rw [run_cons (by rw [step, if_neg hk])] at h
        rcases ih h with ⟨rfl, hnone⟩ | ⟨before, first, rest, rfl, hnone, hfirst, hrest⟩
        · exact .inl ⟨rfl, List.forall_mem_cons.mpr ⟨hk, hnone⟩⟩
        · exact .inr ⟨e :: before, first, rest, rfl, List.forall_mem_cons.mpr ⟨hk, hnone⟩, hfirst,
            hrest⟩

/-- After the root no other document may start. -/
theorem run_complete_eq_ok {root : Node} {events : List Event} {q : Progress} :
    run limit (.complete root) events = .ok q ↔
      q = .complete root ∧ ∀ e ∈ events, e.kind ≠ .documentStart := by
  induction events with
  | nil => simp [run, eq_comm]
  | cons e events ih =>
      by_cases hk : e.kind = .documentStart
      · simp [run, step, hk]
      · rw [run_cons (by rw [step, if_neg hk]), ih, List.forall_mem_cons]
        simp [hk]

/-- What has begun is not undone. -/
theorem step_ne_before {p q : Progress} {e : Event} (hp : p ≠ .before) (h : step limit p e = .ok q) :
    q ≠ .before := by
  have hplace : ∀ (node : Node) outer, place node outer ≠ .before := fun _ outer => by
    cases outer <;> simp [place]
  have hbegin : ∀ {outer q}, begin limit outer e = .ok q → q ≠ .before := fun hb => by
    rcases begin_eq_ok hb with ⟨node, -, rfl⟩ | ⟨shape, anchor, -, -, rfl⟩
    · exact hplace _ _
    · simp
  cases p with
  | before => exact absurd rfl hp
  | opened => exact hbegin h
  | inside top outer =>
      rw [step] at h
      split at h
      · cases h; exact hplace _ _
      · exact hbegin h
  | complete root =>
      rw [step] at h
      split at h <;> cases h
      simp

theorem run_ne_before {events : List Event} {p q : Progress} (hp : p ≠ .before)
    (h : run limit p events = .ok q) : q ≠ .before := by
  induction events generalizing p with
  | nil => cases h; exact hp
  | cons e events ih =>
      obtain ⟨p', hstep, hrun⟩ := run_cons_eq_ok.mp h
      exact ih (step_ne_before hp hstep) hrun

end Progress

theorem compose_eq_ok_iff {limit : Int} {events : List Event} {result : Option Node} :
    compose limit events = .ok result ↔
      ∃ p, Progress.run limit .before (events.filter fun e => !e.kind.isStream) = .ok p ∧
        p.finish = .ok result := by
  rw [compose]
  cases Progress.run limit .before (events.filter fun e => !e.kind.isStream) <;> simp

/-- Events compose to a tree exactly if they are those of a document with that tree as its root. -/
theorem compose_eq_some_iff {limit : Int} {events : List Event} {root : Node} :
    compose limit events = .ok (some root) ↔
      DescribesDocument limit (events.filter fun e => !e.kind.isStream) root := by
  rw [compose_eq_ok_iff]
  generalize events.filter (fun e => !e.kind.isStream) = events
  constructor
  · rintro ⟨p, hrun, hfinish⟩
    obtain rfl : p = .complete root := by cases p <;> cases hfinish; rfl
    rcases Progress.run_before_eq_ok hrun with ⟨h, -⟩ | ⟨before, first, rest, rfl, hnone, hfirst, h⟩
    · cases h
    cases rest with
    | nil => cases h
    | cons e rest =>
        obtain ⟨q, hq, hrun⟩ := Progress.run_cons_eq_ok.mp h
        obtain ⟨body, node, after, rfl, hnode, hafter⟩ :=
          Progress.exists_of_begin (Progress.closes root rest) hq hrun
        obtain ⟨hroot, hlater⟩ := Progress.run_complete_eq_ok.mp hafter
        cases hroot
        exact ⟨before, first, e :: body, after, rfl, hnone, hfirst, hnode, hlater⟩
  · rintro ⟨before, first, body, after, rfl, hnone, hfirst, hbody, hafter⟩
    refine ⟨.complete root, ?_, rfl⟩
    rw [Progress.run_before hnone, Progress.run_cons (by rw [Progress.step, if_pos hfirst]),
      show Progress.opened = Progress.awaiting [] from rfl, hbody.run rfl]
    exact Progress.run_complete_eq_ok.mpr ⟨rfl, hafter⟩

/-- Events compose to nothing exactly if no document starts among them. -/
theorem compose_eq_none_iff {limit : Int} {events : List Event} :
    compose limit events = .ok none ↔ ∀ e ∈ events, e.kind ≠ .documentStart := by
  have hfilter : (∀ e ∈ events, e.kind ≠ .documentStart) ↔
      ∀ e ∈ events.filter (fun e => !e.kind.isStream), e.kind ≠ .documentStart := by
    refine ⟨fun h e he => h e (List.mem_filter.mp he).1, fun h e he hk => ?_⟩
    exact h e (List.mem_filter.mpr ⟨he, by rw [hk]; rfl⟩) hk
  rw [hfilter, compose_eq_ok_iff]
  generalize events.filter (fun e => !e.kind.isStream) = events
  constructor
  · rintro ⟨p, hrun, hfinish⟩
    obtain rfl : p = .before := by cases p <;> cases hfinish; rfl
    rcases Progress.run_before_eq_ok hrun with ⟨-, h⟩ | ⟨_, _, _, _, _, _, h⟩
    · exact h
    · exact absurd rfl (Progress.run_ne_before (by simp) h)
  · intro h
    refine ⟨.before, ?_, rfl⟩
    exact (congrArg _ (List.append_nil events)).symm.trans (Progress.run_before h [])

/-! ### The events of a tree -/

namespace Node

mutual

/-- The events of a tree, as they stand in a text.  A `bare` node has none. -/
def events : Node → List Event
  | .scalar span anchor value =>
    [⟨.scalar anchor value, span.map Span.start, span.map Span.stop⟩]
  | .alias span _ source => [⟨.alias source, span.map Span.start, span.map Span.stop⟩]
  | .sequence span anchor items =>
    ⟨.sequenceStart anchor, span.map Span.start, span.map Span.start⟩ ::
      (eventsOfItems items ++ [⟨.sequenceEnd, span.map Span.stop, span.map Span.stop⟩])
  | .mapping span anchor pairs =>
    ⟨.mappingStart anchor, span.map Span.start, span.map Span.start⟩ ::
      (eventsOfPairs pairs ++ [⟨.mappingEnd, span.map Span.stop, span.map Span.stop⟩])
  | .bare _ _ => []

/-- The events of the items of a sequence. -/
def eventsOfItems : List Node → List Event
  | [] => []
  | item :: rest => item.events ++ eventsOfItems rest

/-- The events of the pairs of a mapping, each key before its value. -/
def eventsOfPairs : List (Node × Node) → List Event
  | [] => []
  | (key, value) :: rest => key.events ++ (value.events ++ eventsOfPairs rest)

end

/-- Events can tell a node: there is one for its kind, and it can say what anchor the node has. -/
def Tellable : Node → Prop
  | .bare .. => False
  | .alias _ anchor _ => anchor = none
  | _ => True

theorem spanOf_map (span : Option Span) :
    spanOf (span.map Span.start) (span.map Span.stop) = span := by
  cases span <;> rfl

theorem eventsOfPairs_eq (pairs : List (Node × Node)) :
    eventsOfPairs pairs = eventsOfItems (pairs.flatMap fun pair => [pair.1, pair.2]) := by
  induction pairs with
  | nil => rfl
  | cons pair rest ih => simp [eventsOfPairs, eventsOfItems, ih]

theorem describesAll_events {limit : Int} {depth : Nat} {items : List Node}
    (h : ∀ item ∈ items, Describes limit depth item.events item) :
    DescribesAll limit depth (eventsOfItems items) items := by
  induction items with
  | nil => exact .nil
  | cons item rest ih =>
      exact .cons (h item List.mem_cons_self) (ih fun i hi => h i (List.mem_cons_of_mem _ hi))

/-- The children of a node are told one level deeper than the node. -/
theorem describesAll_children {limit : Int} {node : Node} (h : ∀ n ∈ node.nodes, n.Tellable)
    {depth : Nat} (hd : (depth : Int) + node.height ≤ limit)
    (ih : ∀ child ∈ node.children, (∀ n ∈ child.nodes, n.Tellable) → ∀ {depth : Nat},
      (depth : Int) + child.height ≤ limit → Describes limit depth child.events child) :
    DescribesAll limit (depth + 1) (eventsOfItems node.children) node.children :=
  describesAll_events fun child hchild => by
    refine ih child hchild (fun n hn => h n (nodes_subset_of_mem_children hchild hn)) ?_
    have := height_child hchild
    omega

/-- Every tree that events can tell is described by its own. -/
theorem describes_events {limit : Int} (node : Node) (h : ∀ n ∈ node.nodes, n.Tellable)
    {depth : Nat} (hd : (depth : Int) + node.height ≤ limit) :
    Describes limit depth node.events node := by
  induction node using Node.induction generalizing depth with
  | scalar span anchor value =>
      have hscalar : Describes limit depth (scalar span anchor value).events
          (.scalar (spanOf (span.map Span.start) (span.map Span.stop)) anchor value) :=
        .scalar (by omega) rfl
      rwa [spanOf_map] at hscalar
  | «alias» span anchor source =>
      obtain rfl : anchor = none := h _ (mem_nodes_self _)
      have halias : Describes limit depth (Node.alias span none source).events
          (.alias (spanOf (span.map Span.start) (span.map Span.stop)) none source) :=
        .alias (by omega) rfl
      rwa [spanOf_map] at halias
  -- a node without an event cannot be told
  | bare span anchor => exact (h _ (mem_nodes_self _)).elim
  | sequence span anchor items ih =>
      have hall := describesAll_children h hd fun item hitem => ih item hitem
      have hsequence : Describes limit depth (sequence span anchor items).events
          (.sequence (spanOf (span.map Span.start) (span.map Span.stop)) anchor items) :=
        .sequence (by omega) rfl hall rfl
      rwa [spanOf_map] at hsequence
  | mapping span anchor pairs ih =>
      have hall := describesAll_children h hd fun child hchild => by
        obtain ⟨pair, hpair, hchild⟩ := List.mem_flatMap.mp hchild
        rcases List.mem_cons.mp hchild with rfl | hchild
        · exact (ih pair hpair).1
        · exact List.mem_singleton.mp hchild ▸ (ih pair hpair).2
      rw [children, ← eventsOfPairs_eq, ← List.append_nil (pairs.flatMap _)] at hall
      have hmapping : Describes limit depth (mapping span anchor pairs).events
          (.mapping (spanOf (span.map Span.start) (span.map Span.stop)) anchor pairs) :=
        .mapping (by omega) rfl (show DescribesAll _ _ _ (_ ++ (none : Option Node).toList) from hall)
          rfl
      rwa [spanOf_map] at hmapping

/-- A node lies within the limit if its children do, one level deeper. -/
theorem height_le_of_depth {limit : Int} {node : Node} {depth : Nat} (hd : (depth : Int) ≤ limit)
    (h : ∀ child ∈ node.children, ((depth + 1 : Nat) : Int) + child.height ≤ limit) :
    (depth : Int) + node.height ≤ limit := by
  have : node.height ≤ (limit - depth).toNat := height_le_of_children fun child hchild => by
    have := h child hchild
    omega
  omega

end Node

section Described

variable {limit : Int}

mutual

/-- What events describe is made of nodes that events can tell. -/
theorem Describes.tellable {depth : Nat} {events : List Event} {node : Node} :
    Describes limit depth events node → ∀ n ∈ node.nodes, n.Tellable
  | .scalar .. => by simp [Node.nodes, Node.Tellable]
  | .alias .. => by simp [Node.nodes, Node.Tellable]
  | .sequence _ _ hall _ => fun n hn => by
      rcases Node.mem_nodes_iff.mp hn with rfl | ⟨item, hitem, hn⟩
      · trivial
      · exact hall.tellable item hitem n hn
  | .mapping _ _ hall _ => fun n hn => by
      rcases Node.mem_nodes_iff.mp hn with rfl | ⟨child, hchild, hn⟩
      · trivial
      · exact hall.tellable child (List.mem_append_left _ hchild) n hn

theorem DescribesAll.tellable {depth : Nat} {events : List Event} {nodes : List Node} :
    DescribesAll limit depth events nodes → ∀ node ∈ nodes, ∀ n ∈ node.nodes, n.Tellable
  | .nil => by simp
  | .cons hnode hall => List.forall_mem_cons.mpr ⟨hnode.tellable, hall.tellable⟩

end

mutual

/-- What events describe lies within the limit. -/
theorem Describes.height_le {depth : Nat} {events : List Event} {node : Node} :
    Describes limit depth events node → (depth : Int) + node.height ≤ limit
  | .scalar hd _ => by simpa [Node.height] using hd
  | .alias hd _ => by simpa [Node.height] using hd
  | .sequence hd _ hall _ => Node.height_le_of_depth hd hall.height_le
  | .mapping hd _ hall _ => Node.height_le_of_depth hd fun child hchild =>
      hall.height_le child (List.mem_append_left _ hchild)

theorem DescribesAll.height_le {depth : Nat} {events : List Event} {nodes : List Node} :
    DescribesAll limit depth events nodes → ∀ node ∈ nodes, (depth : Int) + node.height ≤ limit
  | .nil => by simp
  | .cons hnode hall => List.forall_mem_cons.mpr ⟨hnode.height_le, hall.height_le⟩

end

mutual

/-- The events of a node are not those around the documents. -/
theorem Describes.isStream {depth : Nat} {events : List Event} {node : Node} :
    Describes limit depth events node → ∀ e ∈ events, e.kind.isStream = false
  | .scalar _ hk => by simp [hk, EventKind.isStream]
  | .alias _ hk => by simp [hk, EventKind.isStream]
  | .sequence _ hfirst hall hlast => by
      simpa [hfirst, hlast, EventKind.isStream, or_imp, forall_and] using hall.isStream
  | .mapping _ hfirst hall hlast => by
      simpa [hfirst, hlast, EventKind.isStream, or_imp, forall_and] using hall.isStream

theorem DescribesAll.isStream {depth : Nat} {events : List Event} {nodes : List Node} :
    DescribesAll limit depth events nodes → ∀ e ∈ events, e.kind.isStream = false
  | .nil => by simp
  | .cons hnode hall => List.forall_mem_append.mpr ⟨hnode.isStream, hall.isStream⟩

end

end Described

/-- Which events compose, and to what: to a tree exactly those of a document with the tree as its
root, to nothing exactly those in which no document starts.  A tree comes back from its own events
exactly if events can tell all of its nodes and it lies within the limit. -/
theorem compose_grammar (limit : Int) (events : List Event) :
    (∀ root, compose limit events = .ok (some root) ↔
      DescribesDocument limit (events.filter fun e => !e.kind.isStream) root) ∧
    (compose limit events = .ok none ↔ ∀ e ∈ events, e.kind ≠ .documentStart) ∧
    ∀ (start stop : Option Int) (tree : Node),
      compose limit (⟨.documentStart, start, stop⟩ :: tree.events) = .ok (some tree) ↔
        (∀ n ∈ tree.nodes, n.Tellable) ∧ (tree.height : Int) ≤ limit := by
  refine ⟨fun root => compose_eq_some_iff, compose_eq_none_iff, fun start stop tree => ?_⟩
  rw [compose_eq_some_iff]
  constructor
  · rintro ⟨before, -, body, after, -, -, -, hbody, -⟩
    exact ⟨hbody.tellable, by simpa using hbody.height_le⟩
  · rintro ⟨ht, hheight⟩
    have hbody : Describes limit 0 tree.events tree :=
      Node.describes_events tree ht (by simpa using hheight)
    refine ⟨[], ⟨.documentStart, start, stop⟩, tree.events, [], ?_, by simp, rfl, hbody, by simp⟩
    rw [List.filter_eq_self.mpr]
    · simp
    · exact List.forall_mem_cons.mpr ⟨rfl, fun e he => by simp [hbody.isStream e he]⟩

/-- Of three children a mapping keeps the first two as a pair. -/
example : compose 1 [⟨.documentStart, none, none⟩, ⟨.mappingStart none, some 0, some 0⟩,
    ⟨.scalar none "k", none, none⟩, ⟨.alias none, none, none⟩, ⟨.scalar none "odd", none, none⟩,
    ⟨.mappingEnd, some 9, some 9⟩] = .ok (some (.mapping (some ⟨0, 9⟩) none
      [(.scalar none none "k", .alias none none none)])) := rfl

end YamlAudit
