import YamlAudit.Proofs.Document.Roles
import YamlAudit.Proofs.RangeMap.Shows

/-!
# RangeMap — one step through a map

A map that shows a node has, under every segment, a map that shows the child there (`Shows.child`),
and behind an alias a map that shows what the scope gives for its name (`Shows.target`).

Scopes are kept by name, spots by place.  A scope is `Faithful` at a spot when it gives every alias
that the spot leads to its referent, as far as that comes before the spot; in a steady document this
stays so from the root on, through children (`Faithful.child`) and aliases (`Faithful.referent`).

A faithful scope need not be the one in which an alias was written: more nodes have been met on the
way, and only a later carrier of the same name makes a difference.  In a steady document there is
none between an alias and whatever leads to it.
-/

namespace YamlAudit

namespace Node

/-- Whether a node is a scalar. -/
def isScalar : Node → Bool
  | .scalar .. => true
  | _ => false

/-- All keys of a node are scalars, and no two have the same text. -/
def HasKeys (n : Node) : Prop :=
  (∀ pair ∈ n.pairs, pair.1.isScalar) ∧ (keyNames n.pairs).Nodup

/-- In a tree all keys are scalars. -/
def ScalarKeys (d : Node) : Prop := ∀ n ∈ d.nodes, ∀ pair ∈ n.pairs, pair.1.isScalar

/-- In every mapping of a tree all keys are scalars, and no two have the same text. -/
def Keyed (d : Node) : Prop := ∀ n ∈ d.nodes, n.HasKeys

instance (n : Node) : Decidable n.HasKeys := inferInstanceAs (Decidable (_ ∧ _))

instance (d : Node) : Decidable d.ScalarKeys := inferInstanceAs (Decidable (∀ n ∈ d.nodes, _))

instance (d : Node) : Decidable d.Keyed := inferInstanceAs (Decidable (∀ n ∈ d.nodes, _))

theorem Keyed.scalarKeys {d : Node} (h : d.Keyed) : d.ScalarKeys := fun n hn => (h n hn).1

/-- Where no node is bare and all keys are scalars, every node has a position. -/
theorem ScalarKeys.isCharted {node : Node} (hkeys : node.ScalarKeys)
    (hbare : ∀ span anchor, .bare span anchor ∉ node.nodes) : node.isCharted = true := by
  induction node using Node.induction with
  | scalar | «alias» => rfl
  | bare span anchor => exact absurd (mem_nodes_self _) (hbare span anchor)
  | sequence span anchor items ih =>
      cases items with
      | nil => rfl
      | cons item rest =>
          have hitem : item.nodes ⊆ (sequence span anchor (item :: rest)).nodes :=
            nodes_subset_of_mem_children (by simp [children])
          have := ih item (by simp) (fun n h => hkeys n (hitem h))
            fun sp a h => hbare sp a (hitem h)
          simp [Node.isCharted, chartsItems, this]
  | mapping span anchor pairs ih =>
      cases pairs with
      | nil => rfl
      | cons pair rest =>
          obtain ⟨key, value⟩ := pair
          have hvalue : value.nodes ⊆ (mapping span anchor ((key, value) :: rest)).nodes :=
            nodes_subset_of_mem_children (by simp [children])
          have hcharted := (ih _ List.mem_cons_self).2 (fun n h => hkeys n (hvalue h))
            fun sp a h => hbare sp a (hvalue h)
          have hkey := hkeys _ (mem_nodes_self _) _ List.mem_cons_self
          cases key with
          | scalar => simp only [Node.isCharted, chartsPairs, hcharted, Bool.true_or, Bool.or_true]
          | _ => cases hkey

end Node

/-- What an alias stands for in a scope, with the scope behind it. -/
def AnchorScope.hop (s : AnchorScope) (node : Node) : Option (AnchorScope × Node) :=
  node.aliasName?.bind fun name =>
    ((s.register node).referent name).map fun n => ((s.register node).entering name, n)

namespace RangeMap

variable {t : LineTable} {s : AnchorScope} {node : Node} {m : RangeMap}

theorem Shows.nodeRange (h : Shows t s node m) : t.nodeRange node = .ok (some m.value) := by
  cases h <;> assumption

/-- Behind an alias lies the map of what the scope gives for its name. -/
theorem Shows.target (h : Shows t s node m) :
    Option.Rel (fun p m' => Shows t p.1 p.2 m') (s.hop node) m.target := by
  cases h with
  | unresolved _ hnone =>
      rename_i source _ _ _
      cases source with
      | none => exact .none
      | some name =>
          rw [Option.bind_some] at hnone
          simp only [AnchorScope.hop, Node.aliasName?, Option.bind_some, hnone]
          exact .none
  | resolved _ href hshow _ =>
      simp only [AnchorScope.hop, Node.aliasName?, Option.bind_some, href]
      exact .some hshow
  | _ => exact .none

theorem ShowsItems.lookup_of_lt {k : Nat} {items : List Node} {children : List (Segment × RangeMap)}
    (h : ShowsItems t s k items children) {n : Int} (hn : n < k) :
    lookup (.index n) children = none := by
  induction items generalizing s k children with
  | nil => cases h; rfl
  | cons item rest ih =>
      cases h with
      | cons _ _ _ hrest =>
          rw [lookup, if_neg (by simp only [Segment.index.injEq]; omega)]
          exact ih hrest (by omega)
      | skip _ hrest => exact ih hrest (by omega)

theorem ShowsItems.lookup_key {k : Nat} {items : List Node} {children : List (Segment × RangeMap)}
    (h : ShowsItems t s k items children) (name : String) : lookup (.key name) children = none := by
  induction items generalizing s k children with
  | nil => cases h; rfl
  | cons item rest ih =>
      cases h with
      | cons _ _ _ h => rw [lookup, if_neg (by simp)]; exact ih h
      | skip _ h => exact ih h

theorem ShowsItems.child {k : Nat} {items : List Node} (between : List Node)
    {children : List (Segment × RangeMap)}
    (h : ShowsItems t (s.registers between) k items children) (n : Nat) :
    Option.Rel (fun p m => Shows t (s.registers p.1) p.2 m)
      ((Node.partAt.itemAt between items n).filter (·.2.isCharted))
      (lookup (.index (k + n : Nat)) children) := by
  induction items generalizing between k n children with
  | nil => cases h; exact .none
  | cons item rest ih =>
      have hafter : (s.registers between).registers item.nodes =
          s.registers (between ++ item.nodes) := (s.registers_append _ _).symm
      cases h with
      | cons hc hshow _ hrest =>
          rw [hafter] at hrest
          cases n with
          | zero =>
              simp only [Node.partAt.itemAt, lookup, Nat.add_zero, if_true, Option.filter_some, hc]
              exact .some hshow
          | succ n =>
              rw [Node.partAt.itemAt, lookup, if_neg (by simp only [Segment.index.injEq]; omega),
                show k + (n + 1) = k + 1 + n by omega]
              exact ih _ hrest n
      -- an item that is not charted has its number, but no entry
      | skip hc hrest =>
          rw [hafter] at hrest
          cases n with
          | zero =>
              rw [hrest.lookup_of_lt (by omega)]
              simp only [Node.partAt.itemAt, Option.filter_some, hc]
              exact .none
          | succ n =>
              rw [Node.partAt.itemAt, show k + (n + 1) = k + 1 + n by omega]
              exact ih _ hrest n

theorem ShowsPairs.lookup_of_notMem {pairs : List (Node × Node)}
    {children : List (Segment × RangeMap)} (h : ShowsPairs t s pairs children) {name : String}
    (hn : name ∉ Node.keyNames pairs) : lookup (.key name) children = none := by
  induction pairs generalizing s children with
  | nil => cases h; rfl
  | cons pair rest ih =>
      have hrest : name ∉ Node.keyNames rest := by
        simp only [Node.keyNames, List.filterMap_cons] at hn ⊢
        split at hn
        · exact hn
        · exact fun h => hn (List.mem_cons_of_mem _ h)
      cases h with
      | cons _ _ _ _ h =>
          rw [lookup, if_neg ?_]
          · exact ih h hrest
          · rintro ⟨⟩
            simp [Node.keyNames] at hn
      | skip _ h => exact ih h hrest

theorem ShowsPairs.lookup_index {pairs : List (Node × Node)} {children : List (Segment × RangeMap)}
    (h : ShowsPairs t s pairs children) (n : Int) : lookup (.index n) children = none := by
  induction pairs generalizing s children with
  | nil => cases h; rfl
  | cons pair rest ih =>
      cases h with
      | cons _ _ _ _ h => rw [lookup, if_neg (by simp)]; exact ih h
      | skip _ h => exact ih h

theorem ShowsPairs.child {pairs : List (Node × Node)} (between : List Node)
    {children : List (Segment × RangeMap)}
    (h : ShowsPairs t (s.registers between) pairs children)
    (hnodup : (Node.keyNames pairs).Nodup) (name : String) :
    Option.Rel (fun p m => Shows t (s.registers p.1) p.2 m)
      ((Node.partAt.valueAt between name pairs).filter (·.2.isCharted))
      (lookup (.key name) children) := by
  induction pairs generalizing between children with
  | nil => cases h; exact .none
  | cons pair rest ih =>
      obtain ⟨key, value⟩ := pair
      by_cases hkey : ∃ span anchor text, key = .scalar span anchor text
      · obtain ⟨span, anchor, text, rfl⟩ := hkey
        obtain ⟨hnot, hnodup⟩ := List.nodup_cons.mp hnodup
        have ihr := fun {cs} h =>
          @ih (between ++ [.scalar span anchor text] ++ value.nodes) cs h hnodup
        simp only [AnchorScope.registers_append] at ihr
        cases h with
        | cons hc _ hshow _ hrest =>
            rw [Node.partAt.valueAt, lookup]
            by_cases hname : text = name
            · rw [if_pos hname, if_pos (by rw [hname])]
              simp only [Option.filter_some, hc, if_true]
              exact .some (by rw [AnchorScope.registers_append]; exact hshow)
            · rw [if_neg hname, if_neg (by simpa using hname)]
              exact ihr hrest
        | skip hc hrest =>
            rw [Node.partAt.valueAt]
            by_cases hname : text = name
            · subst hname
              rw [if_pos rfl, hrest.lookup_of_notMem hnot]
              simp only [Option.filter_some, hc _ _ _ rfl]
              exact .none
            · rw [if_neg hname]
              exact ihr hrest
      -- under a key that is no scalar lies nothing
      · have hne : ∀ span anchor text, key = .scalar span anchor text → False :=
          fun _ _ _ h => hkey ⟨_, _, _, h⟩
        rw [Node.keyNames_cons_of_ne hne] at hnodup
        rw [Node.partAt.valueAt.eq_3 _ _ _ _ _ hne]
        cases h with
        | cons => exact (hne _ _ _ rfl).elim
        | skip _ hrest =>
            simp only [← AnchorScope.registers_append] at hrest
            exact ih _ hrest hnodup

/-- Under a segment lies the map of the charted child there. -/
theorem Shows.child (h : Shows t s node m) (hnodup : (Node.keyNames node.pairs).Nodup)
    (segment : Segment) :
    Option.Rel (fun p m' => Shows t (s.registers p.1) p.2 m')
      ((node.partAt segment).filter (·.2.isCharted)) (m.child segment) := by
  cases h with
  | sequence _ hitems =>
      cases segment with
      | key name => rw [RangeMap.child, hitems.lookup_key]; exact .none
      | index n =>
          rw [Node.partAt, RangeMap.child]
          split
          · next hneg =>
            rw [hitems.lookup_of_lt (by omega)]
            exact .none
          · next hneg =>
            have hchild := ShowsItems.child [_] hitems n.toNat
            rwa [Nat.zero_add, Int.toNat_of_nonneg (by omega)] at hchild
  | mapping _ hpairs =>
      cases segment with
      | key name => exact ShowsPairs.child [_] (hpairs hnodup) hnodup name
      | index n => rw [RangeMap.child, (hpairs hnodup).lookup_index]; exact .none
  | _ => exact .none

end RangeMap

/-! ### Scopes and places -/

namespace AnchorScope

/-- After some nodes a name is bound to the last of them that carries it. -/
theorem find?_registers (s : AnchorScope) (nodes : List Node) (name : String) :
    find? name (s.registers nodes).anchors =
      match Spot.lastCarrier name nodes with
      | some r => some r.node
      | none => find? name s.anchors := by
  cases h : Spot.lastCarrier name nodes with
  | none =>
      rw [Spot.lastCarrier_eq_none] at h
      induction nodes generalizing s with
      | nil => rfl
      | cons n rest ih =>
          rw [registers_cons, ih _ fun x hx => h x (by simp [hx]), find?_register,
            if_neg (h n (by simp))]
  | some r =>
      obtain ⟨post, rfl, hc, hpost⟩ := Spot.lastCarrier_eq_some.mp h
      rw [registers_append, registers_cons]
      -- the nodes after the last carrier leave the binding as it is
      have hlast : ∀ s' : AnchorScope, find? name s'.anchors = some r.node →
          find? name (s'.registers post).anchors = some r.node := by
        clear h
        induction post with
        | nil => exact fun _ h => h
        | cons n rest ih =>
            intro s' hs'
            refine ih (fun x hx => hpost x (by simp [hx])) _ ?_
            rw [find?_register, if_neg (hpost n (by simp)), hs']
      exact hlast _ (by rw [find?_register, if_pos hc])

/-- A scope gives every alias that a spot leads to its referent, unless that is yet to come. -/
def Faithful (s : AnchorScope) (o : Spot) : Prop :=
  ∀ o' name r, o.Leads o' → o'.node.aliasName? = some name → o'.referent = some r →
    Spot.lastCarrier name o.before = some r → find? name s.anchors = some r.node

namespace Faithful

variable {d : Node} {s : AnchorScope} {o : Spot}

theorem root (s : AnchorScope) (d : Node) : Faithful s (.root d) := by
  intro o' name r _ _ _ h
  cases h

theorem child (h : Faithful s o) {p : List Node × Node} (hp : p ∈ o.node.parts) :
    Faithful (s.registers p.1) ⟨o.before ++ p.1, p.2⟩ := by
  intro o' name r hl hn hr hlast
  rw [Spot.lastCarrier_append] at hlast
  rw [find?_registers]
  cases hmid : Spot.lastCarrier name p.1 with
  | some q =>
      rw [hmid] at hlast
      cases hlast
      rfl
  | none =>
      rw [hmid] at hlast
      exact h o' name r (.child (Spot.mem_children_iff.mpr ⟨p, hp, rfl⟩) hl) hn hr hlast

/-- In a steady document an alias does not carry the name of an alias that it leads to and that has
its referent before it. -/
theorem not_carries (hd : d.Steady) (ho : Spot.Inside (.root d) o) (ha : o.node.isAlias)
    {o' r : Spot} {name : String} (hl : o.Leads o') (hn : o'.node.aliasName? = some name)
    (hr : o'.referent = some r) (hlast : Spot.lastCarrier name o.before = some r) :
    ¬ o.node.Carries name := by
  -- `o` begins no earlier than `o'`, and is met again, or it lies between `r` and `o'`
  rcases Spot.before_comparable ho (hl.inside ho) with ⟨mid, hb⟩ | ⟨mid, hb⟩
  · exact hd o o' name (mid ++ [o.node]) ho ha hl hn (by rw [hb, List.append_assoc]) _ (by simp)
  · obtain ⟨name', hn', hlast'⟩ := Spot.referent_eq_some.mp hr
    obtain rfl : name = name' := Option.some.inj (hn.symm.trans hn')
    obtain ⟨post, h₁, -, -⟩ := Spot.lastCarrier_eq_some.mp hlast
    obtain ⟨post', h₂, -, hpost⟩ := Spot.lastCarrier_eq_some.mp hlast'
    rw [hb, h₁] at h₂
    have : post ++ o.node :: mid = post' := by simpa using h₂
    exact hpost _ (by simp [← this])

/-- At an alias a faithful scope gives its referent. -/
theorem find?_register (hd : d.Steady) (ho : Spot.Inside (.root d) o) (h : Faithful s o) {r : Spot}
    {name : String} (hn : o.node.aliasName? = some name) (hr : o.referent = some r) :
    find? name (s.register o.node).anchors = some r.node := by
  obtain ⟨name', hn', hlast⟩ := Spot.referent_eq_some.mp hr
  obtain rfl : name = name' := Option.some.inj (hn.symm.trans hn')
  rw [AnchorScope.find?_register,
    if_neg (not_carries hd ho (Spot.isAlias_of_referent hr) (.refl o) hn hr hlast)]
  exact h o name r (.refl o) hn hr hlast

/-- Behind an alias a faithful scope is faithful at its referent. -/
theorem referent (hd : d.Steady) (ho : Spot.Inside (.root d) o) (h : Faithful s o) {r : Spot}
    (hr : o.referent = some r) (name : String) :
    Faithful ((s.register o.node).entering name) r := by
  intro o' name' r' hl hn' hr' hlast
  have hlead : o.Leads o' := .through hr hl
  obtain ⟨_, -, hr₁⟩ := Spot.referent_eq_some.mp hr
  have hlast' := hlead.lastCarrier_eq hd ho hn' hr' (Nat.lt_trans
    (Spot.length_before_of_lastCarrier hlast) (Spot.length_before_of_lastCarrier hr₁))
  have hfind : find? name' (s.register o.node).anchors = some r'.node := by
    rw [AnchorScope.find?_register,
      if_neg (not_carries hd ho (Spot.isAlias_of_referent hr) hlead hn' hr' hlast')]
    exact h o' name' r' hlead hn' hr' hlast'
  unfold entering
  split <;> exact hfind

end Faithful

/-- None of the names by which a spot leads on is being expanded. -/
def Unmarked (s : AnchorScope) (o : Spot) : Prop :=
  ∀ o' name, o.Leads o' → o'.node.aliasName? = some name → name ∉ s.expanding

namespace Unmarked

variable {d : Node} {s : AnchorScope} {o : Spot}

theorem child (h : Unmarked s o) {p : List Node × Node} (hp : p ∈ o.node.parts) :
    Unmarked (s.registers p.1) ⟨o.before ++ p.1, p.2⟩ := by
  intro o' name hl hn
  rw [registers_expanding]
  exact h o' name (.child (Spot.mem_children_iff.mpr ⟨p, hp, rfl⟩) hl) hn

/-- In an open and steady document the referent of an alias does not lead on by its name. -/
theorem referent (hopen : d.Open) (hd : d.Steady) (ho : Spot.Inside (.root d) o)
    (h : Unmarked s o) {r : Spot} {name : String} (hn : o.node.aliasName? = some name)
    (hr : o.referent = some r) : Unmarked ((s.register o.node).entering name) r := by
  intro o' name' hl hn'
  have hold : name' ∉ s.expanding := h o' name' (.through hr hl) hn'
  have hne : name' ≠ name := by
    rintro rfl
    exact Spot.aliasName?_ne_of_leads hopen hd ho hn hr hl hn'
  unfold entering
  rw [register_expanding]
  split
  · rwa [register_expanding]
  · simp [hold, hne]

end Unmarked

end AnchorScope

end YamlAudit
