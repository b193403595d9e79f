import Mathlib.Data.List.Dedup
import YamlAudit.Proofs.RangeMap.Chain
import YamlAudit.Proofs.RangeMap.Content

/-!
# RangeMap — expansion is bounded

A target comes from an alias that is recorded where the target hangs, and it was made for the name
of that alias, which was not being expanded there (`Enters`).  So the names that a chain enters one
after another are all different, and the anchors of the document bound how many there are, however
the aliases refer to each other.

* `build_of_within`: more room than there are names left to expand changes nothing.
* `exists_enters`: every chain enters names of the document, each at most once.
* `index_bounded`: the map of a document, its chains and the hops of its walks.
-/

namespace YamlAudit

/-! ### The scopes at aliases -/

namespace Node

variable {t : LineTable} {all : List Node} {P : AnchorScope → Prop}

/-- The scopes at the aliases among some leaves have a property. -/
def HopsIn (P : AnchorScope → Prop) (ls : List Leaf) : Prop :=
  ∀ l ∈ ls, ∀ scope source, l.hop = some (scope, source) → P scope

theorem HopsIn.append {a b : List Leaf} (ha : HopsIn P a) (hb : HopsIn P b) : HopsIn P (a ++ b) :=
  List.forall_mem_append.mpr ⟨ha, hb⟩

theorem hopsIn_leafAt (node : Node) (path : Option (List PathStep)) {s : AnchorScope} (hs : P s) :
    HopsIn P (node.leafAt t path s) := by
  unfold leafAt
  split
  · intro l hl scope source hhop
    obtain rfl := List.mem_singleton.mp hl
    cases node with
    | «alias» => cases hhop; exact hs
    | _ => cases hhop
  · exact fun _ hl => nomatch hl

theorem hopsIn_leavesOfItems (hP : RangeMap.KeptBy all P) {items : List Node}
    (ih : ∀ item ∈ items, (∀ n ∈ item.nodes, n ∈ all) → ∀ path s, P s →
      HopsIn P (item.leaves t path s))
    (hall : ∀ n ∈ nodesOfItems items, n ∈ all) (path : Option (List PathStep)) :
    ∀ n s, P s → HopsIn P (leavesOfItems t n items path s) := by
  induction items with
  | nil => exact fun _ _ _ _ hl => nomatch hl
  | cons item rest ih' =>
      intro n s hs
      obtain ⟨hitem, hrest⟩ := List.forall_mem_append.mp hall
      exact (ih item List.mem_cons_self hitem _ s hs).append
        (ih' (fun i hi => ih i (List.mem_cons_of_mem _ hi)) hrest _ _ (hP.registers hitem hs))

theorem hopsIn_leavesOfPairs (hP : RangeMap.KeptBy all P) {pairs : List (Node × Node)}
    (ih : ∀ pair ∈ pairs, (∀ n ∈ pair.2.nodes, n ∈ all) → ∀ path s, P s →
      HopsIn P (pair.2.leaves t path s))
    (hall : ∀ n ∈ nodesOfPairs pairs, n ∈ all) (path : Option (List PathStep)) :
    ∀ s, P s → HopsIn P (leavesOfPairs t pairs path s) := by
  induction pairs with
  | nil => exact fun _ _ _ hl => nomatch hl
  | cons pair rest ih' =>
      obtain ⟨key, value⟩ := pair
      intro s hs
      obtain ⟨hkey, hothers⟩ := List.forall_mem_append.mp hall
      obtain ⟨hvalue, hrest⟩ := List.forall_mem_append.mp hothers
      have ihr := ih' (fun p hp => ih p (List.mem_cons_of_mem _ hp)) hrest
      cases key with
      | scalar span anchor name =>
          have hs' := hP _ (hkey _ (mem_nodes_self _)) s hs
          exact (ih _ List.mem_cons_self hvalue _ _ hs').append (ihr _ (hP.registers hvalue hs'))
      | _ => exact ihr _ (hP.registers hvalue (hP.registers hkey hs))

/-- What registering nodes of a tree keeps holds of the scopes at the aliases of the tree. -/
theorem hopsIn_leaves (hP : RangeMap.KeptBy all P) {node : Node} (hall : ∀ n ∈ node.nodes, n ∈ all)
    (path : Option (List PathStep)) {s : AnchorScope} (hs : P s) :
    HopsIn P (node.leaves t path s) := by
  induction node using Node.induction generalizing path s with
  | scalar | «alias» => exact hopsIn_leafAt _ path (hP _ (hall _ (mem_nodes_self _)) s hs)
  | bare => exact fun _ hl => nomatch hl
  | sequence span anchor items ih =>
      obtain ⟨hself, hitems⟩ := List.forall_mem_cons.mp hall
      have hs' := hP _ hself s hs
      refine (hopsIn_leavesOfItems hP (fun i hi hall path s hs => ih i hi hall path hs) hitems path
        0 _ hs').append ?_
      split
      · exact hopsIn_leafAt _ path hs'
      · exact fun _ hl => nomatch hl
  | mapping span anchor pairs ih =>
      obtain ⟨hself, hpairs⟩ := List.forall_mem_cons.mp hall
      have hs' := hP _ hself s hs
      refine (hopsIn_leavesOfPairs hP (fun p hp hall path s hs => (ih p hp).2 hall path hs) hpairs
        path _ hs').append ?_
      split
      · exact hopsIn_leafAt _ path hs'
      · exact fun _ hl => nomatch hl

end Node

namespace RangeMap

/-! ### Room that is left -/

section Room

variable {t : LineTable} {d : Node}

/-- Only what the aliases among the leaves are expanded to matters for writing them. -/
theorem writeAll_congr {e e' : Expansion} {ls : List Leaf}
    (h : Node.HopsIn (fun scope => ∀ source, e scope source = e' scope source) ls) (m : RangeMap) :
    writeAll e ls m = writeAll e' ls m := by
  induction ls generalizing m with
  | nil => rfl
  | cons l rest ih =>
      obtain ⟨hl, hrest⟩ := List.forall_mem_cons.mp h
      have hwrite : l.write e m = l.write e' m := by
        unfold Leaf.write
        cases hhop : l.hop with
        | none => rfl
        | some hop => simp only [hl hop.1 hop.2 hhop hop.2]
      rw [writeAll, writeAll, hwrite]
      exact congrArg _ (funext fun m' => ih hrest m')

/-- Maps are equal that are built with expansions that agree at the aliases of the tree. -/
theorem build_congr (hd : d.Forward) {budget more : Nat} {s : AnchorScope} {node : Node}
    (hs : BindsIn d s) (hn : node ∈ d.nodes)
    (h : Node.HopsIn (fun scope => ∀ source, expansion t more scope source =
      expansion t budget scope source) (node.leaves t (some []) s)) :
    build t more node s = build t budget node s := by
  obtain ⟨m, hm, hspan⟩ := exists_build_of_forward (t := t) hd budget hs hn
  obtain ⟨m', hm', hspan'⟩ := exists_build_of_forward (t := t) hd more hs hn
  rw [hm, hm']
  cases m with
  | none =>
      cases m' with
      | none => rfl
      | some m' => cases hspan.mpr (hspan'.mp rfl)
  | some m =>
      cases m' with
      | none => cases hspan'.mpr (hspan.mp rfl)
      | some m' =>
          obtain ⟨r, hr, hw⟩ := build_eq_some hm
          obtain ⟨r', hr', hw'⟩ := build_eq_some hm'
          cases hr.symm.trans hr'
          rw [writeAll_congr h, hw] at hw'
          cases hw'
          rfl

/-- Where the room suffices for all names that are left, more room changes nothing. -/
theorem build_of_within (hd : d.Forward) {budget more : Nat} {s : AnchorScope} {node : Node}
    (hs : Within d budget s) (hn : node ∈ d.nodes) (hle : budget ≤ more) :
    build t more node s = build t budget node s := by
  -- by induction on the names that are left: a scope within no names has no referent
  induction budget generalizing more s node with
  | zero =>
      refine build_congr hd (fun _ _ h => (hs.bound h).1) hn fun l hl scope source hhop source' => ?_
      have hscope := Node.hopsIn_leaves (Within.kept d 0) (fun _ => Node.nodes_subset hn) (some [])
        hs l hl scope source hhop
      cases more with
      | zero => rfl
      | succ more =>
          cases source' with
          | none => rfl
          | some name => simp only [expansion, hscope.referent_eq_none name]
  | succ budget ih =>
      obtain ⟨more, rfl⟩ := Nat.exists_eq_add_one_of_ne_zero (show more ≠ 0 by omega)
      refine build_congr hd (fun _ _ h => (hs.bound h).1) hn fun l hl scope source hhop source' => ?_
      have hscope := Node.hopsIn_leaves (Within.kept d (budget + 1))
        (fun _ => Node.nodes_subset hn) (some []) hs l hl scope source hhop
      cases source' with
      | none => rfl
      | some name =>
          rw [expansion, expansion]
          cases href : scope.referent name with
          | none => rfl
          | some n =>
              obtain ⟨hn', hs'⟩ := hscope.entering href
              exact ih hs' hn' (by omega)

end Room

/-! ### Where targets come from -/

section Target

variable {expand : Expansion} {m m' c : RangeMap}

/-- A leaf that is written where it ends leaves the target there or brings the one it is expanded
to. -/
theorem target_of_write_nil {l : Leaf} (hpath : l.path = []) (h : l.write expand m = .ok m')
    (hc : m'.target = some c) :
    m.target = some c ∨ ∃ scope source, l.hop = some (scope, source) ∧
      expand scope source = .ok (some c) := by
  obtain ⟨path, range, hop⟩ := l
  cases hpath
  unfold Leaf.write at h
  cases hop with
  | none => cases h; exact .inl hc
  | some hop =>
      obtain ⟨scope, source⟩ := hop
      simp only [targetAt] at h
      cases ht : m.target with
      | some target => rw [ht] at h; cases h; exact .inl (ht.symm.trans hc)
      | none =>
          rw [ht] at h
          cases he : expand scope source with
          | error => rw [he] at h; cases h
          | ok target =>
              rw [he] at h
              cases h
              refine .inr ⟨scope, source, rfl, ?_⟩
              cases target with
              | none => cases ht.symm.trans hc
              | some target => rw [he]; exact congrArg _ hc

theorem target_of_write_all {ls : List Leaf} (h : writeAll expand ls m = .ok m')
    (hc : m'.target = some c) :
    m.target = some c ∨ ∃ l ∈ ls, l.path = [] ∧ ∃ scope source, l.hop = some (scope, source) ∧
      expand scope source = .ok (some c) := by
  induction ls generalizing m with
  | nil => cases h; exact .inl hc
  | cons l rest ih =>
      obtain ⟨m₁, h₁, h₂⟩ := Except.bind_eq_ok.mp h
      rcases ih h₂ with ht | ⟨l', hl', hends⟩
      · cases hpath : l.path with
        | nil =>
            exact (target_of_write_nil hpath h₁ ht).imp_right fun hl =>
              ⟨l, List.mem_cons_self, hpath, hl⟩
        | cons step path =>
            obtain ⟨c', -, rfl⟩ := Leaf.write_cons hpath h₁
            exact .inl ht
      · exact .inr ⟨l', List.mem_cons_of_mem _ hl', hends⟩

/-- The target of an entry is what an alias that is recorded there is expanded to. -/
theorem exists_leaf_of_target {ls : List Leaf} {r : Range}
    (h : writeAll expand ls (leaf r none) = .ok m) {p : List Segment} {e : RangeMap}
    (he : m.entryAt? p = some e) (hc : e.target = some c) :
    ∃ l ∈ ls, l.segments = p ∧ ∃ scope source, l.hop = some (scope, source) ∧
      expand scope source = .ok (some c) := by
  let root : PathStep := ⟨.index 0, r, none⟩
  by_cases hp : p = []
  · subst hp
    cases he
    rcases target_of_write_all h hc with ht | ⟨l, hl, hpath, hends⟩
    · cases ht
    · exact ⟨l, hl, by rw [Leaf.segments, hpath]; rfl, hends⟩
  · obtain ⟨hnone, hsome⟩ := entryAt?_of_writeAll (show writeAll expand ls
      (leaf root.value root.key) = .ok m from h) p
    cases hls : ls.filterMap (Leaf.pass p root) with
    | nil => rw [hnone hp hls] at he; cases he
    | cons x rest =>
        obtain ⟨e', he', hw⟩ := hsome _ _ _ hls
        cases he'.symm.trans he
        -- the target comes from what is left below the path of a leaf that ends there
        rcases target_of_write_all hw hc with ht | ⟨l, hl, hpath, hends⟩
        · cases ht
        · obtain ⟨y, hy, rfl⟩ : ∃ y ∈ ls.filterMap (Leaf.pass p root), y.2 = l := by
            rw [hls]
            exact List.mem_map.mp (show l ∈ (x :: rest).map Prod.snd from hl)
          obtain ⟨l₀, hl₀, hpass⟩ := List.mem_filterMap.mp hy
          obtain ⟨hsegments, -, hhop, -⟩ := Leaf.pass_eq_some hpass
          refine ⟨l₀, hl₀, ?_, hhop ▸ hends⟩
          rw [hsegments, Leaf.segments, hpath]
          exact List.append_nil p

end Target

/-! ### The names that a chain enters -/

/-- The names that a chain enters one after another, from the position `m` at the path `path` in the
map of `node` with the scope `s`.  It enters a name with a target that was made for that name: an
alias of the name is recorded where the target hangs, and the target is the map of the node that the
alias stands for there. -/
inductive Enters (t : LineTable) :
    Node → AnchorScope → List Segment → RangeMap → List Link → List String → Prop
  | stop {node s path m} : Enters t node s path m [] []
  | child {node s path m segment c chain names} : m.child segment = some c →
      Enters t node s (path ++ [segment]) c chain names →
      Enters t node s path m (.child segment :: chain) names
  | target {node s path m c l scope name n budget chain names} : m.target = some c →
      l ∈ node.leaves t (some []) s → l.segments = path → l.hop = some (scope, some name) →
      scope.referent name = some n → build t budget n (scope.entering name) = .ok (some c) →
      Enters t n (scope.entering name) [] c chain names →
      Enters t node s path m (.target :: chain) (name :: names)

section Chain

variable {t : LineTable} {d : Node}

theorem entering_expanding {s : AnchorScope} {name : String} (h : name ∉ s.expanding) :
    (s.entering name).expanding = s.expanding ++ [name] := by
  simp [AnchorScope.entering, h]

/-- A chain enters names of the document only, none of them twice and none that is being expanded
where it begins. -/
theorem exists_enters {budget : Nat} {s : AnchorScope} {node : Node} {root m x : RangeMap}
    {path : List Segment} {chain : List Link} (hs : Within d budget s) (hn : node ∈ d.nodes)
    (hroot : build t budget node s = .ok (some root)) (hm : root.entryAt? path = some m)
    (hx : m.descend chain = some x) :
    ∃ names, Enters t node s path m chain names ∧ names.length = chain.count .target ∧
      (s.expanding ++ names).Nodup ∧ names ⊆ d.anchorNames := by
  induction chain generalizing budget s node root m path with
  | nil => exact ⟨[], .stop, rfl, by simpa using hs.nodup, List.nil_subset _⟩
  | cons link chain ih =>
      cases link with
      | child segment =>
          obtain ⟨c, hc, hx⟩ := Option.bind_eq_some_iff.mp hx
          have hentry : root.entryAt? (path ++ [segment]) = some c := by
            rw [entryAt?_append, hm, Option.bind_some, entryAt?, hc]
            rfl
          obtain ⟨names, henters, hlength, hnodup, hsub⟩ := ih hs hn hroot hentry hx
          exact ⟨names, .child hc henters, by rwa [List.count_cons_of_ne (by simp)], hnodup, hsub⟩
      | target =>
          obtain ⟨c, hc, hx⟩ := Option.bind_eq_some_iff.mp hx
          obtain ⟨r, -, hw⟩ := build_eq_some hroot
          obtain ⟨l, hl, hsegments, scope, source, hhop, hexp⟩ := exists_leaf_of_target hw hm hc
          -- the scope at the alias has room, and the same names are being expanded there
          have hkept : KeptBy d.nodes fun s' => Within d budget s' ∧ s'.expanding = s.expanding :=
            fun n hn s' hs' => ⟨Within.kept d budget n hn s' hs'.1,
              (AnchorScope.register_expanding s' n).trans hs'.2⟩
          obtain ⟨hscope, hexpanding⟩ := Node.hopsIn_leaves hkept
            (fun _ => Node.nodes_subset hn) (some []) ⟨hs, rfl⟩ l hl scope source hhop
          cases budget with
          | zero => cases hexp
          | succ budget =>
              cases source with
              | none => cases hexp
              | some name =>
                  rw [expansion] at hexp
                  cases href : scope.referent name with
                  | none => rw [href] at hexp; cases hexp
                  | some n =>
                      rw [href] at hexp
                      obtain ⟨hnot, hfind⟩ := Within.referent href
                      obtain ⟨hn', hs'⟩ := hscope.entering href
                      obtain ⟨names, henters, hlength, hnodup, hsub⟩ := ih hs' hn' hexp
                        (show c.entryAt? [] = some c from rfl) hx
                      rw [entering_expanding hnot, hexpanding, List.append_assoc] at hnodup
                      have hname : name ∈ d.anchorNames :=
                        Node.mem_anchorNames_iff.mpr ⟨n, hn', (hscope.bound hfind).2⟩
                      refine ⟨name :: names, .target hc hl hsegments hhop href hexp henters, ?_,
                        hnodup, List.cons_subset.mpr ⟨hname, hsub⟩⟩
                      rw [List.count_cons_self, List.length_cons, hlength]

/-- Where no span runs backwards, a document is indexed with the room that its anchors give, and
more room would not change the result.  Every chain through the map enters anchors of the document,
each of them at most once; so no chain goes through more targets than there are distinct anchors, and
no walk takes more hops. -/
theorem index_bounded (hd : d.Forward) (t : LineTable) :
    (∃ result, index t d = .ok result ∧
      ∀ budget, d.anchorNames.length ≤ budget → build t budget d .empty = .ok result) ∧
    ∀ m, index t d = .ok (some m) →
      (∀ chain x, m.descend chain = some x → ∃ names, Enters t d .empty [] m chain names ∧
        names.Nodup ∧ names ⊆ d.anchorNames ∧ names.length = chain.count .target ∧
        chain.count .target ≤ d.anchorNames.dedup.length) ∧
      ∀ path aspect, (m.locate path aspect).via.length ≤ d.anchorNames.dedup.length := by
  have hself := Node.mem_nodes_self d
  obtain ⟨result, hresult, -⟩ := exists_build_of_forward (t := t) hd d.anchorNames.length
    (s := .empty) (fun _ _ h => by cases h) hself
  -- the names of a chain are pairwise different and all from the document
  have hchains : ∀ m, index t d = .ok (some m) → ∀ chain x, m.descend chain = some x →
      ∃ names, Enters t d .empty [] m chain names ∧ names.Nodup ∧ names ⊆ d.anchorNames ∧
        names.length = chain.count .target ∧ chain.count .target ≤ d.anchorNames.dedup.length := by
    intro m hm chain x hx
    obtain ⟨names, henters, hlength, hnodup, hsub⟩ := exists_enters (Within.empty d) hself hm
      (show m.entryAt? [] = some m from rfl) hx
    refine ⟨names, henters, hnodup, hsub, hlength, ?_⟩
    rw [← hlength]
    exact (hnodup.subperm fun name hname => List.mem_dedup.mpr (hsub hname)).length_le
  refine ⟨⟨result, hresult, fun budget hle => ?_⟩,
    fun m hm => ⟨hchains m hm, fun path aspect => ?_⟩⟩
  · rw [build_of_within hd (Within.empty d) hself hle, hresult]
  · obtain ⟨chain, hchain, hcount⟩ := m.exists_descend_walk path
    obtain ⟨names, -, -, -, -, hbound⟩ := hchains m hm chain _ hchain
    rw [locate, List.length_reverse, ← hcount]
    exact hbound

theorem index_bounded_mutualAliases :
    ∃ d m, d.Forward ∧ index (.ofText "a: &x [*y, *x]\nb: &y [*x]\nc: *y\n") d = .ok (some m) ∧
      (∀ chain x, m.descend chain = some x → chain.count .target ≤ 2) ∧
      (m.locate [.key "c", .index 0, .index 0, .index 1] .valueStart).via.length = 2 := by
  let t := LineTable.ofText "a: &x [*y, *x]\nb: &y [*x]\nc: *y\n"
  let d : Node := .mapping (some ⟨0, 33⟩) none
    [(.scalar (some ⟨0, 1⟩) none "a", .sequence (some ⟨3, 14⟩) (some "x")
        [.alias (some ⟨7, 9⟩) none (some "y"), .alias (some ⟨11, 13⟩) none (some "x")]),
      (.scalar (some ⟨15, 16⟩) none "b", .sequence (some ⟨18, 25⟩) (some "y")
        [.alias (some ⟨22, 24⟩) none (some "x")]),
      (.scalar (some ⟨26, 27⟩) none "c", .alias (some ⟨29, 31⟩) none (some "y"))]
  have hd : d.Forward := by decide
  have hmap : (index t d).toOption.any (fun m => m.any fun m => decide
      ((m.locate [.key "c", .index 0, .index 0, .index 1] .valueStart).via.length = 2)) = true := by
    decide +kernel
  obtain ⟨m, hm, hmap⟩ := Except.exists_ok_of_any hmap
  obtain ⟨m, rfl, hhops⟩ := Option.any_eq_true _ _ |>.mp hmap
  obtain ⟨-, hbounds⟩ := index_bounded hd t
  refine ⟨d, m, hd, hm, fun chain x hx => ?_, of_decide_eq_true hhops⟩
  obtain ⟨names, -, -, -, -, hbound⟩ := (hbounds m hm).1 chain x hx
  exact hbound

end Chain

end RangeMap

end YamlAudit
