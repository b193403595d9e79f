import YamlAudit.Proofs.Audit.Loading
import YamlAudit.Proofs.RangeMap.Size

/-!
# Audit — the limit on values holds for maps

A loader counts the values of a document, and does not enter a container inside itself.  In an open
document no container is inside itself, so what is counted is what the root weighs, and that bounds
the map.

* `Node.Mirrored.weighs`: a value that fits a limit weighs no more.
* `Loader.total_le_of_load`: a loaded document has at most twice as many positions as there may be
  values.

It is twice the number of values because an alias has a position for itself and another for what
lies behind it.  Each condition of the last statement is needed: there is a text for each that
violates it alone and has a map that is larger (`two_mul_lt_total`).
-/

namespace YamlAudit

/-! ### Counting values -/

/-- Counting the value of a spot inside some containers uses up as much of a budget as it weighs. -/
def Spot.Counted (s : Store) (val : Spot → Option Value) (around : List Nat) (o : Spot) : Prop :=
  ∀ v budget waiting, val o = some v → fitsWithin s budget (⟨v, around⟩ :: waiting) = true →
    ∃ w rest, o.Weighs w ∧ budget = w + rest ∧ fitsWithin s rest waiting = true

theorem Spot.Counted.all {s : Store} {val : Spot → Option Value} {around : List Nat}
    {os : List Spot} (h : ∀ o ∈ os, o.Counted s val around) {vs : List Value}
    (hvs : List.Forall₂ (fun o v => val o = some v) os vs) {budget : Nat} {waiting : List Visit}
    (hfits : fitsWithin s budget ((vs.map fun v => ⟨v, around⟩) ++ waiting) = true) :
    ∃ ws rest, List.Forall₂ Spot.Weighs os ws ∧ budget = ws.sum + rest ∧
      fitsWithin s rest waiting = true := by
  induction hvs generalizing budget with
  | nil => exact ⟨[], budget, .nil, by simp, hfits⟩
  | @cons o v os vs hv _ ih =>
      obtain ⟨w, left, hw, rfl, hleft⟩ := h o List.mem_cons_self _ _ _ hv hfits
      obtain ⟨ws, rest, hws, rfl, hrest⟩ := ih (fun o ho => h o (List.mem_cons_of_mem _ ho)) hleft
      exact ⟨w :: ws, rest, .cons hw hws, by simp [Nat.add_assoc], hrest⟩

namespace Node.Mirrored

variable {d : Node} {kept : Prop} {s : Store} {val : Spot → Option Value}

/-- The containers around a spot are those of spots of a higher rank. -/
def Around (d : Node) (val : Spot → Option Value) (around : List Nat) (o : Spot) : Prop :=
  ∀ c ∈ around, ∃ a, Spot.Inside (.root d) a ∧ val a = some (.ref c) ∧
    Spot.rank d o.home < Spot.rank d a.home

/-- No spot has a container that is around it. -/
theorem not_mem_around (hm : d.Mirrored kept True s val) {o : Spot} (ho : Spot.Inside (.root d) o)
    {around : List Nat} (ha : Around d val around o) {c : Nat} (hc : val o = some (.ref c)) :
    c ∉ around := by
  intro hmem
  obtain ⟨a, hin, hv, hlt⟩ := ha c hmem
  rw [hm.own o a c ho hin hc hv] at hlt
  exact Nat.lt_irrefl _ hlt

/-- A container is counted with what lies in it. -/
theorem counted_of_values (hm : d.Mirrored kept True s val) (hopen : d.Open) {o : Spot}
    (ho : Spot.Inside (.root d) o) (hna : o.node.isAlias = false)
    (ih : ∀ c ∈ o.children, ∀ around, Around d val around c → c.Counted s val around)
    {around : List Nat} (ha : Around d val around o) {c : Nat} (hc : val o = some (.ref c))
    (hvs : List.Forall₂ (fun i w => val i = some w) o.values (s.inside (.ref c))) :
    o.Counted s val around := by
  intro v budget waiting hv hfits
  obtain rfl := Option.some.inj (hc.symm.trans hv)
  cases budget with
  | zero => cases hfits
  | succ budget =>
      have hnext : Visit.next s ⟨.ref c, around⟩ =
          (s.inside (.ref c)).map fun w => ⟨w, c :: around⟩ := by
        simp [Visit.next, hm.not_mem_around ho ha hc]
      rw [fitsWithin, hnext] at hfits
      -- inside its own container the rank is lower
      have haround : ∀ i ∈ o.values, Around d val (c :: around) i := by
        intro i hi c' hc'
        have hlt := Spot.rank_home_lt hopen ho (Spot.values_subset_children hi)
        have hhome := Spot.home_of_not_isAlias hna
        rcases List.mem_cons.mp hc' with rfl | hc'
        · exact ⟨o, ho, hc, by rwa [hhome]⟩
        · obtain ⟨a, hin, hv, hlt'⟩ := ha c' hc'
          rw [hhome] at hlt'
          exact ⟨a, hin, hv, Nat.lt_trans hlt hlt'⟩
      obtain ⟨ws, rest, hws, rfl, hrest⟩ := Spot.Counted.all (fun i hi =>
        ih i (Spot.values_subset_children hi) _ (haround i hi)) hvs hfits
      exact ⟨ws.sum + 1, rest, .whole hna hws, by omega, hrest⟩

/-- All values of an open document are counted with what they weigh. -/
theorem counted (hm : d.Mirrored kept True s val) (hw : ∀ n ∈ d.nodes, n.IsWritten)
    (hs : d.Settled) (hopen : d.Open) : ∀ o, Spot.Inside (.root d) o → ∀ around,
      Around d val around o → o.Counted s val around := by
  -- by induction on what is inside a spot or behind its alias, which in an open document comes to
  -- an end
  refine Spot.open_induction hopen fun o ho ihc ihr around ha v budget waiting hv hfits => ?_
  cases hn : o.node with
  | bare => exact absurd hn ((hw _ ho.mem_nodes).2.2 _ _)
  | «alias» span anchor source =>
      obtain ⟨r, hr⟩ := hs o ho (by rw [hn]; rfl)
      have hhome := Spot.home_of_referent hr
      have hna := Spot.home_of_not_isAlias
        (ho.isAlias_referent (fun n hn => (hw n hn).2.1) hr)
      rw [← hm.home o ho, hhome] at hv
      have ha' : Around d val around r := fun c hc => by
        obtain ⟨a, hin, hv, hlt⟩ := ha c hc
        exact ⟨a, hin, hv, by rwa [hna, ← hhome]⟩
      obtain ⟨w, rest, hweighs, h⟩ := ihr r hr around ha' v budget waiting hv hfits
      exact ⟨w, rest, .through hr hweighs, h⟩
  | scalar span anchor value =>
      have hatom := hm.scalar o v _ _ _ ho hv hn
      have hnext : Visit.next s ⟨v, around⟩ = [] := by
        cases v <;> first | rfl | exact hatom.elim
      cases budget with
      | zero => cases hfits
      | succ budget =>
          rw [fitsWithin, hnext] at hfits
          have hvalues : o.values = [] := by simp [Spot.values, hn, Spot.children, Node.parts]
          have hweighs : o.Weighs (([] : List Nat).sum + 1) :=
            .whole (by rw [hn]; rfl) (by rw [hvalues]; exact .nil)
          exact ⟨1, budget, hweighs, Nat.add_comm _ _, hfits⟩
  | sequence span anchor items =>
      obtain ⟨c, vs, rfl, hget, hvs⟩ := hm.sequence o v _ _ _ ho hv hn
      refine hm.counted_of_values hopen ho (by rw [hn]; rfl) ihc ha hv ?_ _ _ _ hv hfits
      rw [Store.inside, hget, Spot.values, hn]
      exact hvs
  | mapping span anchor pairs =>
      rcases hm.mapping o v _ _ _ ho hv hn with ⟨c, es, rfl, hget, hes, -⟩ | ⟨hnot, -⟩
      · refine hm.counted_of_values hopen ho (by rw [hn]; rfl) ihc ha hv ?_ _ _ _ hv hfits
        rw [Store.inside, hget, Spot.values, hn]
        exact List.forall₂_map_left_iff.mpr (List.forall₂_map_right_iff.mpr
          (hes.imp fun _ _ h => h.1))
      · exact absurd trivial hnot

/-- A document whose value fits a limit weighs no more. -/
theorem weighs (hm : d.Mirrored kept True s val) (hw : ∀ n ∈ d.nodes, n.IsWritten)
    (hs : d.Settled) (hopen : d.Open) {v : Value} (hv : val (.root d) = some v) {limit : Int}
    (hfits : Datum.fits ⟨s, v⟩ limit = true) : ∃ w, (Spot.root d).Weighs w ∧ w ≤ limit.toNat := by
  obtain ⟨w, rest, hweighs, hlimit, -⟩ := hm.counted hw hs hopen _ (.refl _) []
    (fun c hc => by cases hc) v _ [] hv hfits
  exact ⟨w, hweighs, by omega⟩

end Node.Mirrored

/-! ### The map of a loaded document -/

/-- The tags under which every value is as large as it is written: nothing is merged, and sequences
and mappings are what they look like. -/
def Yaml.KeepsSize : Yaml.TagRule
  | _, .scalar, tag => tag ≠ Yaml.ScalarType.merge.tag
  | _, .sequence, tag => tag = Yaml.sequenceTag
  | _, .mapping, tag => tag = Yaml.mappingTag

instance (anchor : Option String) (kind : Yaml.NodeKind) (tag : String) :
    Decidable (Yaml.KeepsSize anchor kind tag) :=
  match kind with
  | .scalar => inferInstanceAs (Decidable (_ ≠ _))
  | .sequence => inferInstanceAs (Decidable (_ = _))
  | .mapping => inferInstanceAs (Decidable (_ = _))

/-- A document under such tags has a plan. -/
theorem Yaml.Graph.Of.sound_of_keepsSize {g : Yaml.Graph} {d : Node} (h : g.Of Yaml.KeepsSize d)
    (hopen : d.Open) : (g.plan d fun _ => False).Sound := by
  refine h.sound hopen (fun _ hl => hl.elim) (fun _ _ _ _ hl => hl.elim) (fun o ho p hp => ?_)
    fun _ tag ht => ?_
  · have htag := (h.home_has (ho.tail (Spot.pairs_mem_children hp).1)).tagged
    rw [show p.1.home.number = p.1.ref from rfl] at htag
    cases hk : (g.get p.1.ref).content.kind <;> rw [hk] at htag
    · exact ⟨htag, fun _ => rfl⟩
    · rw [show (g.get p.1.ref).tag = _ from htag]
      exact ⟨by decide, fun h => absurd h (by decide)⟩
    · rw [show (g.get p.1.ref).tag = _ from htag]
      exact ⟨by decide, fun h => absurd h (by decide)⟩
  · rw [show tag = _ from ht]
    decide

namespace Loader

/-- A loaded document has at most twice as many positions as it may have values. -/
theorem total_le_of_load {l : Loader} {text : String} {doc : LoadedDocument} {m : RangeMap}
    {d : Node} (hl : l.Ready) (hload : (l.load text).1 = .ok doc) (hmap : doc.rangeMap = some m)
    (htree : (l.readTree text.toList).1 = .ok (some d)) (hopen : d.Open) (hsteady : d.Steady)
    (htags : ∀ part ∈ (Yaml.Markup.run l.treeVersion text.toList).parts,
      part.Tagged Yaml.KeepsSize) : (m.total : Int) ≤ 2 * l.settings.maxNodeCount := by
  obtain ⟨hindexed, hsettled, hw, data, val, hfits, -, hm, hval⟩ := mirrored_of_load False True
    hl hload htree htags (fun g hg =>
      ⟨fun _ => False, hg.sound_of_keepsSize hopen, False.elim, False.elim⟩) fun _ _ _ h => h
  obtain ⟨w, hweighs, hle⟩ := hm.weighs hw hsettled hopen hval hfits
  rw [hmap] at hindexed
  have hlt := RangeMap.total_le_of_index ⟨hsettled, hopen, hsteady⟩ (fun n hn => (hw n hn).2.1)
    hindexed hweighs
  omega

theorem total_le_of_load_sharedItems :
    let l := start { maxNodeCount := 11 }
    let text := "a: &x [1, 2]\nb: [*x, *x]\n"
    ∃ doc m d, (l.load text).1 = .ok doc ∧ doc.rangeMap = some m ∧
      (l.readTree text.toList).1 = .ok (some d) ∧ d.Open ∧ d.Steady ∧
      (∀ part ∈ (Yaml.Markup.run l.treeVersion text.toList).parts, part.Tagged Yaml.KeepsSize) ∧
      (m.total : Int) ≤ 2 * 11 := by
  intro l text
  have hall : ((l.load text).1.toOption.any (fun doc => doc.rangeMap.any fun _ => true) &&
      (l.readTree text.toList).1.toOption.any fun root => root.any fun d =>
        decide (d.Open ∧ d.Settled ∧ d.anchorNames.Nodup ∧
          ∀ part ∈ (Yaml.Markup.run l.treeVersion text.toList).parts,
            part.Tagged Yaml.KeepsSize)) = true := by decide +kernel
  obtain ⟨doc, m, d, hload, hmap, htree, -, hd⟩ := exists_of_any_load hall
  obtain ⟨hopen, hsettled, hnodup, htags⟩ := of_decide_eq_true hd
  have hsteady := Spot.steady_of_nodup hsettled hnodup
  exact ⟨doc, m, d, hload, hmap, htree, hopen, hsteady, htags,
    total_le_of_load (ready_start _) hload hmap htree hopen hsteady htags⟩

/-- Not every map is within twice the limit: not where containers lie inside themselves, where a
collection is given the tag of something else or is merged, nor where an alias is overtaken. -/
theorem two_mul_lt_total :
    List.Forall (fun input : Int × String =>
      ∃ doc m, ((start { maxNodeCount := input.1 }).load input.2).1 = .ok doc ∧
        doc.rangeMap = some m ∧ 2 * input.1 < (m.total : Int))
      [(4, "&a [&b [*a, *b]]\n"),
        (3, "&a [*a, *a]\n"),
        (1, "!!set {a, b, c}\n"),
        (1, "!!str {=: x, a: [1, 2]}\n"),
        (2, "!!pairs [a: [1, 2, 3]]\n"),
        (7, "- &x 1\n- !!omap [a: *x, b: *x, c: *x, d: *x]\n"),
        (2, "{<<: {x: [1, 2, 3, 4, 5, 6]}, x: 1}\n"),
        (15, "- &a 1\n- &b [*a, *a]\n- &a [1, 2, 3, 4, 5, 6]\n- *b\n")] := by
  rw [List.forall_iff_forall_mem]
  intro input hinput
  have hdoc : ((start { maxNodeCount := input.1 }).load input.2).1.toOption.any (fun doc =>
      doc.rangeMap.any fun m => decide (2 * input.1 < (m.total : Int))) = true := by
    revert input
    decide +kernel
  obtain ⟨doc, hload, hdoc⟩ := Except.exists_ok_of_any hdoc
  obtain ⟨m, hmap, hlt⟩ := Option.any_eq_true _ _ |>.mp hdoc
  exact ⟨doc, m, hload, hmap, of_decide_eq_true hlt⟩

end Loader

end YamlAudit
