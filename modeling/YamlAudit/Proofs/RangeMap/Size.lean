import Mathlib.Algebra.GroupWithZero.Nat
import YamlAudit.Proofs.Document.Roles
import YamlAudit.Proofs.RangeMap.Picture

/-!
# RangeMap — how large a map is

A document written out, with a referent in the place of every alias, has as many values as its root
weighs (`Spot.Weighs`).  Its map has a position for each of them, and one more behind every alias.

* `total_le_of_writeAll`: writing the leaves of a spot adds no more than twice its weight.
* `total_le_of_index`: the map of an open and steady document has less than twice as many positions
  as the document has values.

The weight counts what an alias stands for once for each alias, as the limit on values does.  Where
a node lies inside what an alias in it stands for, no weight exists, and in documents that are not
steady the map may show another node behind an alias than the one that is weighed.
-/

namespace YamlAudit

/-! ### Weights -/

/-- How many values a spot has, written out. -/
inductive Spot.Weighs : Spot → Nat → Prop
  | through {o r : Spot} {w : Nat} : o.referent = some r → Weighs r w → Weighs o w
  | whole {o : Spot} {ws : List Nat} : o.node.isAlias = false →
      List.Forall₂ Weighs o.values ws → Weighs o (ws.sum + 1)

namespace Spot.Weighs

variable {o : Spot} {w : Nat}

/-- An alias weighs what its referent weighs. -/
theorem of_referent (h : o.Weighs w) {r : Spot} (hr : o.referent = some r) : r.Weighs w := by
  cases h with
  | through hr' h =>
      rw [hr] at hr'
      exact Option.some.inj hr' ▸ h
  | whole hna => rw [referent_eq_none_of_not_isAlias hna] at hr; cases hr

/-- All else weighs one more than its values. -/
theorem of_not_isAlias (h : o.Weighs w) (hna : o.node.isAlias = false) :
    ∃ ws, List.Forall₂ Weighs o.values ws ∧ w = ws.sum + 1 := by
  cases h with
  | through hr => rw [referent_eq_none_of_not_isAlias hna] at hr; cases hr
  | whole _ h => exact ⟨_, h, rfl⟩

end Spot.Weighs

namespace RangeMap

/-! ### Counting positions -/

mutual

/-- How many positions a map has, those behind aliases included. -/
def total : RangeMap → Nat
  | ⟨_, _, children, target⟩ => 1 + totalOfEntries children + totalOfTarget target

/-- How many positions there are below some segments. -/
def totalOfEntries : List (Segment × RangeMap) → Nat
  | [] => 0
  | (_, m) :: rest => m.total + totalOfEntries rest

/-- How many positions there are behind an alias. -/
def totalOfTarget : Option RangeMap → Nat
  | none => 0
  | some m => m.total

end

theorem total_eq (m : RangeMap) :
    m.total = 1 + totalOfEntries m.children + totalOfTarget m.target := by
  cases m
  rw [total]

@[simp] theorem total_leaf (value : Range) (key : Option Range) : (leaf value key).total = 1 := by
  simp [leaf, total, totalOfEntries, totalOfTarget]

theorem totalOfEntries_put (segment : Segment) (c : RangeMap) (entries : List (Segment × RangeMap)) :
    totalOfEntries (put segment c entries) + totalOfTarget (lookup segment entries) =
      totalOfEntries entries + c.total := by
  induction entries with
  | nil => simp [put, lookup, totalOfEntries, totalOfTarget]
  | cons e rest ih =>
      obtain ⟨s, old⟩ := e
      by_cases h : s = segment
      · simp only [put, lookup, if_pos h, totalOfEntries, totalOfTarget]
        omega
      · simp only [put, lookup, if_neg h, totalOfEntries]
        omega

/-- A child that is written grows the map by as much as it has grown itself; a new one counts as
having been there. -/
theorem total_withChild (m : RangeMap) (step : PathStep) (c : RangeMap) :
    (m.withChild step c).total + (m.childOr step).total ≤ m.total + c.total + 1 := by
  have hput := totalOfEntries_put step.segment c m.children
  have htarget : (m.withChild step c).target = m.target := rfl
  have hchildren : (m.withChild step c).children = put step.segment c m.children := rfl
  rw [total_eq (m.withChild step c), total_eq m, htarget, hchildren, childOr, child]
  cases hl : lookup step.segment m.children with
  | none =>
      rw [hl, totalOfTarget] at hput
      rw [Option.getD_none, total_leaf]
      omega
  | some old =>
      rw [hl, totalOfTarget] at hput
      rw [Option.getD_some]
      omega

/-! ### Writing leaves -/

section Growth

variable {t : LineTable} {expand : Expansion}

/-- Writing the leaves of a spot that is walked with a scope adds less than twice its weight. -/
def Bounded (t : LineTable) (expand : Expansion) (o : Spot) (s : AnchorScope) : Prop :=
  ∀ w m m', o.Weighs w → writeAll expand (o.node.leaves t (some []) s) m = .ok m' →
    m'.total + 1 ≤ m.total + 2 * w

/-- A child adds at most twice its weight, its own position included. -/
theorem Bounded.total_le {o : Spot} {s : AnchorScope} (h : Bounded t expand o s) {w : Nat}
    (hw : o.Weighs w) {step : Option PathStep} {m m' : RangeMap}
    (hwrite : writeAll expand (o.node.leaves t (extend (some []) step) s) m = .ok m') :
    m'.total ≤ m.total + 2 * w := by
  cases step with
  | none =>
      rw [show extend (some []) none = none from rfl, Node.leaves_none] at hwrite
      cases hwrite
      omega
  | some step =>
      rw [show extend (some []) (some step) = (some []).map (step :: ·) from rfl,
        Node.leaves_map] at hwrite
      -- without leaves there is not even a position
      by_cases hnil : o.node.leaves t (some []) s = []
      · rw [hnil] at hwrite
        cases hwrite
        omega
      · rw [writeAll_under step hnil] at hwrite
        cases hc : writeAll expand (o.node.leaves t (some []) s) (m.childOr step) with
        | error e => rw [hc] at hwrite; cases hwrite
        | ok c =>
            rw [hc] at hwrite
            cases hwrite
            have hgrowth := h w _ _ hw hc
            have hchild := m.total_withChild step c
            omega

/-- Items add at most twice what they weigh together. -/
theorem total_le_of_items {items before mid : List Node} {s : AnchorScope}
    (h : ∀ c ∈ Spot.row (before ++ mid) items, ∀ mid', c.before = before ++ mid' →
      Bounded t expand c (s.registers mid')) {ws : List Nat}
    (hws : List.Forall₂ Spot.Weighs (Spot.row (before ++ mid) items) ws) {n : Nat}
    {m m' : RangeMap}
    (hwrite : writeAll expand (Node.leavesOfItems t n items (some []) (s.registers mid)) m =
      .ok m') : m'.total ≤ m.total + 2 * ws.sum := by
  induction items generalizing mid ws n m with
  | nil =>
      cases hwrite
      omega
  | cons item rest ih =>
      rw [Spot.row] at h hws
      cases hws with
      | @cons _ w _ ws hw hws =>
          rw [Node.leavesOfItems, writeAll_append] at hwrite
          obtain ⟨m₁, h₁, h₂⟩ := Except.bind_eq_ok.mp hwrite
          have hitem := (h _ List.mem_cons_self mid rfl).total_le hw h₁
          rw [List.append_assoc] at h hws
          rw [← AnchorScope.registers_append] at h₂
          have hrest := ih (fun c hc => h c (List.mem_cons_of_mem _ hc)) hws h₂
          rw [List.sum_cons]
          omega

/-- So do the values of pairs, whether they are recorded or not. -/
theorem total_le_of_pairs {pairs : List (Node × Node)} {before mid : List Node} {s : AnchorScope}
    (h : ∀ p ∈ Spot.rowOfPairs (before ++ mid) pairs, ∀ mid', p.2.before = before ++ mid' →
      Bounded t expand p.2 (s.registers mid')) {ws : List Nat}
    (hws : List.Forall₂ Spot.Weighs ((Spot.rowOfPairs (before ++ mid) pairs).map Prod.snd) ws)
    {m m' : RangeMap}
    (hwrite : writeAll expand (Node.leavesOfPairs t pairs (some []) (s.registers mid)) m =
      .ok m') : m'.total ≤ m.total + 2 * ws.sum := by
  induction pairs generalizing mid ws m with
  | nil =>
      cases hwrite
      omega
  | cons pair rest ih =>
      obtain ⟨key, value⟩ := pair
      rw [Spot.rowOfPairs] at h hws
      cases hws with
      | @cons _ w _ ws hw hws =>
          have hbefore : before ++ mid ++ key.nodes = before ++ (mid ++ key.nodes) :=
            List.append_assoc _ _ _
          have hbounded := h _ List.mem_cons_self (mid ++ key.nodes) hbefore
          rw [hbefore, List.append_assoc] at h hws
          have hrest : ∀ m₁, writeAll expand (Node.leavesOfPairs t rest (some [])
              (s.registers (mid ++ key.nodes ++ value.nodes))) m₁ = .ok m' →
              m'.total ≤ m₁.total + 2 * ws.sum := fun _ hwrite =>
            ih (fun p hp => h p (List.mem_cons_of_mem _ hp)) hws hwrite
          rw [List.sum_cons]
          by_cases hkey : ∃ span anchor name, key = .scalar span anchor name
          · obtain ⟨span, anchor, name, rfl⟩ := hkey
            simp only [Node.leavesOfPairs, writeAll_append] at hwrite
            obtain ⟨m₁, h₁, h₂⟩ := Except.bind_eq_ok.mp hwrite
            rw [AnchorScope.registers_append] at hbounded
            have hvalue := hbounded.total_le hw h₁
            have hrest := hrest m₁ (by simpa [Node.nodes] using h₂)
            omega
          -- a value below another key weighs something and adds nothing
          · have hne : ∀ span anchor name, key = .scalar span anchor name → False :=
              fun _ _ _ h => hkey ⟨_, _, _, h⟩
            rw [Node.leavesOfPairs.eq_3 _ _ _ _ _ _ hne] at hwrite
            have hrest := hrest m (by simpa using hwrite)
            omega

end Growth

/-! ### The map of a document -/

/-- Writing a leaf without a target adds nothing. -/
theorem total_of_leafAt {t : LineTable} {expand : Expansion} {node : Node} {s : AnchorScope}
    (hhop : Node.leafAt.hop s node = none) {m m' : RangeMap}
    (h : writeAll expand (node.leafAt t (some []) s) m = .ok m') : m'.total = m.total := by
  unfold Node.leafAt at h
  split at h
  · next range steps hrange hsteps =>
    cases hsteps
    rw [hhop] at h
    cases h
    rw [total_eq, total_eq m]
    rfl
  · cases h
    rfl

/-- Writing an alias adds what it is expanded to, if anything. -/
theorem total_le_of_hop {t : LineTable} {expand : Expansion} {span : Option Span}
    {anchor source : Option String} {s : AnchorScope} {k : Nat}
    (htarget : ∀ target, expand (s.register (.alias span anchor source)) source = .ok target →
      totalOfTarget target ≤ k) {m m' : RangeMap}
    (h : writeAll expand ((Node.alias span anchor source).leaves t (some []) s) m = .ok m') :
    m'.total ≤ m.total + k := by
  simp only [Node.leaves, Node.leafAt] at h
  cases hrange : t.range? (.alias span anchor source) with
  | none =>
      rw [hrange] at h
      cases h
      omega
  | some range =>
      rw [hrange] at h
      obtain ⟨m₁, h₁, h₂⟩ := Except.bind_eq_ok.mp h
      cases h₂
      simp only [Node.leafAt.hop, Leaf.write, targetAt] at h₁
      -- an alias that is recorded again keeps its first target
      cases hold : m.target with
      | some old =>
          rw [hold] at h₁
          cases h₁
          rw [total_eq, total_eq m, hold]
          simp only [record, hold, Option.orElse_none]
          omega
      | none =>
          rw [hold] at h₁
          cases he : expand (s.register (.alias span anchor source)) source with
          | error e => rw [he] at h₁; cases h₁
          | ok target =>
              rw [he] at h₁
              cases h₁
              have := htarget target he
              rw [total_eq, total_eq m, hold]
              cases target <;> simp_all [record, totalOfTarget]

/-- Writing the leaves of what is no alias adds at most twice the weight of its values. -/
theorem total_le_of_values {t : LineTable} {expand : Expansion} {o : Spot} {s : AnchorScope}
    (hchild : ∀ c ∈ o.children, ∀ mid, c.before = o.before ++ mid →
      Bounded t expand c (s.registers mid)) (ha : o.node.isAlias = false) {ws : List Nat}
    (hws : List.Forall₂ Spot.Weighs o.values ws) {m m' : RangeMap}
    (hwrite : writeAll expand (o.node.leaves t (some []) s) m = .ok m') :
    m'.total ≤ m.total + 2 * ws.sum := by
  cases hn : o.node with
  | «alias» => rw [hn] at ha; cases ha
  | scalar span anchor value =>
      rw [hn] at hwrite
      have := total_of_leafAt rfl hwrite
      omega
  | bare span anchor =>
      rw [hn] at hwrite
      cases hwrite
      omega
  | sequence span anchor items =>
      rw [Spot.values, hn] at hws
      simp only [Spot.children_eq_row, hn, Node.children] at hws hchild
      rw [hn, Node.leaves, writeAll_append] at hwrite
      obtain ⟨m₁, h₁, h₂⟩ := Except.bind_eq_ok.mp hwrite
      have hitems := total_le_of_items hchild hws h₁
      -- an empty sequence is a leaf of its own
      cases items with
      | nil =>
          have := total_of_leafAt rfl h₂
          omega
      | cons =>
          cases h₂
          exact hitems
  | mapping span anchor pairs =>
      have hpair : ∀ p ∈ o.pairs, p.2 ∈ o.children := fun p hp => (Spot.pairs_mem_children hp).2
      rw [Spot.values, hn] at hws
      simp only [Spot.pairs, hn, Node.pairs] at hws hpair
      rw [hn, Node.leaves, writeAll_append] at hwrite
      obtain ⟨m₁, h₁, h₂⟩ := Except.bind_eq_ok.mp hwrite
      have hpairs := total_le_of_pairs (fun p hp => hchild _ (hpair p hp)) hws h₁
      cases pairs with
      | nil =>
          have := total_of_leafAt rfl h₂
          omega
      | cons =>
          cases h₂
          exact hpairs

section Document

variable {t : LineTable} {d : Node}

/-- Writing the leaves of an alias adds what is behind it. -/
theorem total_le_of_alias (hd : d.Regular) {o r : Spot} (ho : Spot.Inside (.root d) o)
    (hr : o.referent = some r) {budget w : Nat}
    (ih : ∀ budget s m m', s.Faithful r → s.Unmarked r →
      writeAll (expansion t budget) (r.node.leaves t (some []) s) m = .ok m' →
        m'.total + 2 ≤ m.total + 2 * w) (hpos : 1 ≤ w) {s : AnchorScope} (hfaithful : s.Faithful o)
    (hunmarked : s.Unmarked o) {m m' : RangeMap}
    (hwrite : writeAll (expansion t budget) (o.node.leaves t (some []) s) m = .ok m') :
    m'.total + 1 ≤ m.total + 2 * w := by
  obtain ⟨name, hname, -⟩ := Spot.referent_eq_some.mp hr
  have hnot := hunmarked o name (.refl o) hname
  have hfind := hfaithful.find?_register hd.steady ho hname hr
  have hreferent : (s.register o.node).referent name = some r.node := by
    rw [AnchorScope.referent, AnchorScope.register_expanding, if_neg hnot, hfind]
  -- what is behind the alias, if anything is
  have htarget : ∀ target, expansion t budget (s.register o.node) (some name) = .ok target →
      totalOfTarget target + 1 ≤ 2 * w := by
    intro target h
    cases budget with
    | zero =>
        cases h
        rw [totalOfTarget]
        omega
    | succ budget =>
        rw [expansion, hreferent] at h
        cases target with
        | none =>
            rw [totalOfTarget]
            omega
        | some target =>
            obtain ⟨range, -, h⟩ := build_eq_some h
            have := ih budget _ _ _ (hfaithful.referent hd.steady ho hr name)
              (hunmarked.referent hd.isOpen hd.steady ho hname hr) h
            rw [total_leaf] at this
            rw [totalOfTarget]
            omega
  cases hn : o.node with
  | «alias» span anchor source =>
      rw [hn] at hwrite htarget hname
      obtain rfl : source = some name := hname
      have := total_le_of_hop (k := 2 * w - 1) (fun target h => by
        have := htarget target h
        omega) hwrite
      omega
  | _ => rw [hn] at hname; cases hname

/-- Writing the leaves of a spot adds no more than twice its weight. -/
theorem total_le_of_writeAll (hd : d.Regular) (hplain : ∀ n ∈ d.nodes, n.isAlias → n.anchor = none) :
    ∀ o, Spot.Inside (.root d) o → ∀ {budget w : Nat} {s : AnchorScope} {m m' : RangeMap},
      s.Faithful o → s.Unmarked o → o.Weighs w →
      writeAll (expansion t budget) (o.node.leaves t (some []) s) m = .ok m' →
        m'.total + (if o.node.isAlias then 1 else 2) ≤ m.total + 2 * w := by
  refine Spot.open_induction hd.isOpen fun o ho ihc ihr => ?_
  intro budget w s m m' hfaithful hunmarked hw hwrite
  -- the children are walked with the scopes they have there
  have hchild : ∀ c ∈ o.children, ∀ mid, c.before = o.before ++ mid →
      Bounded t (expansion t budget) c (s.registers mid) := by
    intro c hc mid hmid w m m' hw hwrite
    obtain ⟨p, hp, rfl⟩ := Spot.mem_children_iff.mp hc
    obtain rfl := List.append_cancel_left hmid
    have := ihc _ hc (hfaithful.child hp) (hunmarked.child hp) hw hwrite
    split at this <;> omega
  cases ha : o.node.isAlias with
  | true =>
      obtain ⟨r, hr⟩ := hd.settled o ho ha
      have hna := ho.isAlias_referent hplain hr
      have hwr := hw.of_referent hr
      obtain ⟨ws, -, hsum⟩ := hwr.of_not_isAlias hna
      refine total_le_of_alias hd ho hr (fun budget s m m' hf hu h => ?_) (by omega) hfaithful
        hunmarked hwrite
      simpa [hna] using ihr r hr hf hu hwr h
  | false =>
      obtain ⟨ws, hws, rfl⟩ := hw.of_not_isAlias ha
      have hle := total_le_of_values hchild ha hws hwrite
      simp only [Bool.false_eq_true, if_false]
      omega

/-- The map of an open and steady document in which no alias has an anchor. -/
theorem total_le_of_index (hd : d.Regular) (hplain : ∀ n ∈ d.nodes, n.isAlias → n.anchor = none)
    {m : RangeMap} (h : index t d = .ok (some m)) {w : Nat} (hw : (Spot.root d).Weighs w) :
    m.total < 2 * w := by
  obtain ⟨range, -, hwrite⟩ := build_eq_some h
  have hna : d.isAlias = false := by
    cases ha : d.isAlias with
    | false => rfl
    | true =>
        obtain ⟨r, hr⟩ := hd.settled _ (.refl _) ha
        rw [Spot.referent_root] at hr
        cases hr
  have := total_le_of_writeAll hd hplain (.root d) (.refl _) (AnchorScope.Faithful.root _ d)
    (fun _ _ _ _ => by simp [AnchorScope.empty]) hw hwrite
  rw [show (Spot.root d).node = d from rfl, hna, total_leaf] at this
  simp only [Bool.false_eq_true, if_false] at this
  omega

end Document

end RangeMap

end YamlAudit
