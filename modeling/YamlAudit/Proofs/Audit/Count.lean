import YamlAudit.Proofs.Audit.Depth
import YamlAudit.Proofs.Value.Count

/-!
# Audit — what the limit on values counts

The limit is asked for before a value is copied, and the copy has no more values than the original:
of entries whose keys become the same text one is left (`Store.exists_counts_copy`).  It counts what
lies in lists and mappings only.

* `Loader.count_le_of_load`: the values of a loaded document are within the limit, sets and pairs
  counting as one value each; without such tags all its values are.
* `Loader.exists_lt_count`: with them the limit does not hold for all values.

The copy and the original are counted side by side: every value of the copy belongs to one of the
original, and the values of entries that are lost belong to none.  Sets and pairs are what the count
does not enter.  So a chain of pairs, each with the one before in it twice, is counted as growing by
one where it doubles.
-/

namespace YamlAudit

/-! ### Copies -/

/-- Of values of which each can be exchanged for one that counts no more, all can be. -/
theorem exists_forall₂_le {α β : Type} {R : α → Nat → Prop} {S : β → Nat → Prop} {f : α → β}
    {as : List α} {ws : List Nat} (h : List.Forall₂ R as ws)
    (hRS : ∀ a ∈ as, ∀ w, R a w → ∃ w' ≤ w, S (f a) w') :
    ∃ ws', List.Forall₂ S (as.map f) ws' ∧ ws'.sum ≤ ws.sum := by
  induction h with
  | nil => exact ⟨[], .nil, Nat.le_refl _⟩
  | @cons a w as ws ha _ ih =>
      obtain ⟨w', hle, hw'⟩ := hRS a List.mem_cons_self w ha
      obtain ⟨ws', hws', hsum⟩ := ih fun b hb => hRS b (List.mem_cons_of_mem _ hb)
      exact ⟨w' :: ws', .cons hw' hws', by rw [List.sum_cons, List.sum_cons]; omega⟩

/-- Putting a value under a key adds no more than the value. -/
theorem exists_forall₂_putKey {R : Value → Nat → Prop} {es : List (Value × Value)} {ws : List Nat}
    (h : List.Forall₂ R (es.map Prod.snd) ws) (k : Value) {v : Value} {w : Nat} (hv : R v w) :
    ∃ ws', List.Forall₂ R ((putKey k v es).map Prod.snd) ws' ∧ ws'.sum ≤ ws.sum + w := by
  induction es generalizing ws with
  | nil => exact ⟨[w], .cons hv .nil, by simp⟩
  | cons e rest ih =>
      obtain ⟨w₀, ws, hw₀, hrest, rfl⟩ := List.forall₂_cons_left_iff.mp h
      rw [putKey]
      split
      · exact ⟨w :: ws, .cons hv hrest, by rw [List.sum_cons, List.sum_cons]; omega⟩
      · obtain ⟨ws', hws', hsum⟩ := ih hrest
        exact ⟨w₀ :: ws', .cons hw₀ hws', by rw [List.sum_cons, List.sum_cons]; omega⟩

namespace Store

variable {s : Store} {R : Value → Nat → Prop} {ws : List Nat}

/-- The entries of the copy of a mapping count no more than the copies of its entries. -/
theorem exists_forall₂_plainEntries {es : List (Value × Value)}
    (h : List.Forall₂ R (es.map fun e => s.copyOf e.2) ws) :
    ∃ ws', List.Forall₂ R ((s.plainEntries es).map Prod.snd) ws' ∧ ws'.sum ≤ ws.sum := by
  suffices ∀ acc ws₀, List.Forall₂ R (acc.map Prod.snd) ws₀ →
      ∃ ws', List.Forall₂ R ((es.foldl (fun acc e =>
        putKey (.text (Datum.text ⟨s, e.1⟩)) (s.copyOf e.2) acc) acc).map Prod.snd) ws' ∧
        ws'.sum ≤ ws₀.sum + ws.sum by
    simpa [plainEntries] using this [] [] .nil
  induction es generalizing ws with
  | nil =>
      intro acc ws₀ hacc
      exact ⟨ws₀, hacc, Nat.le_add_right _ _⟩
  | cons e rest ih =>
      intro acc ws₀ hacc
      obtain ⟨w, ws, hw, hrest, rfl⟩ := List.forall₂_cons_left_iff.mp h
      obtain ⟨ws₁, hws₁, hsum⟩ := exists_forall₂_putKey hacc (.text (Datum.text ⟨s, e.1⟩)) hw
      obtain ⟨ws', hws', hsum'⟩ := ih hrest _ ws₁ hws₁
      exact ⟨ws', hws', by rw [List.sum_cons]; omega⟩

/-- What lies in a copy counts no more than copies of what lies in the original. -/
theorem exists_forall₂_inside {n : Nat} (hlt : n < s.containers.size)
    (hset : ∀ items, s.get n ≠ .set items)
    (h : List.Forall₂ R ((s.inside (.ref n)).map s.copyOf) ws) :
    ∃ ws', List.Forall₂ R (s.withCopies.inside (.ref (s.containers.size + n))) ws' ∧
      ws'.sum ≤ ws.sum := by
  rw [inside] at h ⊢
  rw [get_withCopies_copy hlt]
  cases hget : s.get n with
  | list items =>
      rw [hget] at h
      exact ⟨ws, h, Nat.le_refl _⟩
  | mapping es | ordered es =>
      rw [hget, List.map_map] at h
      exact exists_forall₂_plainEntries h
  | set items => exact absurd hget (hset items)

theorem copyOf_ref {n : Nat} (hlt : n < s.containers.size) (hset : ∀ items, s.get n ≠ .set items) :
    s.copyOf (.ref n) = .ref (s.containers.size + n) := by
  cases hget : s.get n with
  | set items => exact absurd hget (hset items)
  | _ => simp [copyOf, hget, hlt]

/-- The visit of a copy, with copies of the containers around it. -/
def copyVisit (s : Store) (v : Visit) : Visit :=
  ⟨s.copyOf v.value, v.around.map (s.containers.size + ·)⟩

/-- A copy counts no more than the original. -/
theorem exists_counts_copy {P : Value → Prop} (hin : ∀ v w, P v → w ∈ s.inside v → P w)
    (hbound : ∀ n, P (.ref n) → n < s.containers.size) {v : Visit} {w : Nat}
    (h : v.Counts s.inside w) (hv : P v.value) :
    ∃ w' ≤ w, (s.copyVisit v).Counts s.withCopies.inside w' := by
  refine h.induction (P := fun v w => P v.value →
    ∃ w' ≤ w, (s.copyVisit v).Counts s.withCopies.inside w') ?_ hv
  rintro ⟨value, around⟩ ws hws hv
  have hone {u : Visit} (hu : u.inner s.withCopies.inside = []) :
      ∃ w' ≤ ws.sum + 1, u.Counts s.withCopies.inside w' :=
    ⟨1, Nat.succ_le_succ (Nat.zero_le _), .one hu⟩
  cases value with
  | ref n =>
      have hlt := hbound n hv
      -- a set is kept as it is and counts one; a container that is entered already counts one as
      -- well
      by_cases hset : ∃ items, s.get n = .set items
      · obtain ⟨items, hset⟩ := hset
        refine hone ?_
        simp [copyVisit, copyOf, hset, Visit.inner, inside, get_withCopies hlt]
      · replace hset := not_exists.mp hset
        rw [copyVisit, copyOf_ref hlt hset]
        by_cases hmem : n ∈ around
        · exact hone (by simp [Visit.inner, hmem])
        · have hinner : (⟨.ref n, around⟩ : Visit).inner s.inside =
              (s.inside (.ref n)).map fun x => ⟨x, n :: around⟩ := by
            simp [Visit.inner, hmem]
          rw [hinner, List.forall₂_map_left_iff] at hws
          obtain ⟨ws₁, hws₁, hsum₁⟩ := exists_forall₂_le (f := s.copyOf)
            (S := fun x w => Visit.Counts s.withCopies.inside
              ⟨x, (n :: around).map (s.containers.size + ·)⟩ w) hws
            fun x hx w hw => hw.2 (hin _ _ hv hx)
          obtain ⟨ws', hws', hsum⟩ := exists_forall₂_inside hlt hset hws₁
          refine ⟨ws'.sum + 1, by omega, .mk ?_⟩
          rw [Visit.inner]
          simp only [List.contains_iff_mem]
          rw [if_neg (by simpa using hmem), List.forall₂_map_left_iff]
          exact hws'
  | _ => exact hone rfl

end Store

/-! ### What lies in the value of a node -/

/-- The tags under which neither a set nor a list of pairs is made. -/
def Yaml.KeepsCount : Yaml.TagRule
  | _, _, tag => tag ≠ "tag:yaml.org,2002:set" ∧ tag ≠ "tag:yaml.org,2002:pairs"

instance (anchor : Option String) (kind : Yaml.NodeKind) (tag : String) :
    Decidable (Yaml.KeepsCount anchor kind tag) :=
  inferInstanceAs (Decidable (_ ∧ _))

theorem Yaml.KeepsCount.ofTag?_ne {anchor : Option String} {kind : NodeKind} {tag : String}
    (h : KeepsCount anchor kind tag) :
    Build.Recipe.ofTag? tag ≠ some (.collection .set) ∧
      Build.Recipe.ofTag? tag ≠ some (.collection .pairs) := by
  obtain ⟨hset, hpairs⟩ := h
  unfold Build.Recipe.ofTag?
  constructor
  · split <;> simp_all
  · split <;> simp_all

/-- An ordered map keeps the count, unlike a set. -/
example : Yaml.KeepsCount none .sequence "tag:yaml.org,2002:omap" ∧
    ¬ Yaml.KeepsCount none .mapping "tag:yaml.org,2002:set" := by
  decide +kernel

namespace Yaml.Graph

variable {g : Graph} {mode : BuildMode} {s : Store} {n : Nat} {v w : Value}

/-- What lies inside a value in the place of a node is in the place of a node. -/
theorem Shows.inside (h : g.Shows mode s n v) (hw : w ∈ s.inside v) : ∃ m, g.Shows mode s m w := by
  rcases h with h | ⟨k, w', rfl, -⟩
  · cases v with
    | ref c =>
        obtain ⟨filler, hholds⟩ := h.holds
        rw [Store.inside] at hw
        cases hget : s.get c with
        | list vs =>
            rw [hget] at hw hholds
            obtain ⟨items, -, hvs⟩ := hholds.items
            obtain ⟨i, hi⟩ := List.getElem?_of_mem hw
            obtain ⟨m, -, hshows⟩ := exists_getElem?_of_forall₂ hvs hi
            exact ⟨m, hshows⟩
        | mapping es | ordered es =>
            rw [hget] at hw hholds
            obtain ⟨e, he, rfl⟩ := List.mem_map.mp hw
            rcases hholds.entry (by simp) he with ⟨p, -, -, hstands⟩ | ⟨_, -, _, -, p, -, -, hstands⟩
            · exact ⟨p.2, .inl hstands⟩
            · exact ⟨p.2, .inl hstands⟩
        | set items =>
            rw [hget] at hw
            cases hw
    | _ => cases hw
  · cases hw

/-- A container in the place of a node is in the store. -/
theorem Shows.lt {c : Nat} (h : g.Shows mode s n (.ref c)) : c < s.containers.size := by
  rcases h with h | ⟨k, w, hv, -⟩
  · rcases h.represents with ⟨t, -, hreads⟩ | ⟨hnull, -⟩ | ⟨filler, c', hc', hlt, -⟩
    · exact hreads.isAtom.elim
    · cases hnull
    · cases hc'
      exact hlt
  · cases hv

/-- No pair stands for a node. -/
theorem Stands.pairValue?_eq_none (h : g.Stands mode s n v) : v.pairValue? = none := by
  rcases h.represents with ⟨t, -, hreads⟩ | ⟨rfl, -⟩ | ⟨filler, c, rfl, -⟩
  · have hscalar := hreads.isScalar
    cases v with
    | tuple => exact hscalar.elim
    | _ => rfl
  · rfl
  · rfl

namespace Of

variable {T : TagRule} {d : Node} {o : Spot}

/-- Values that stand for the items of a node are values of spots. -/
theorem stands_item (h : g.Of T d) (ho : Spot.Inside (.root d) o) {items : List Nat}
    (hc : (g.get o.ref).content = .sequence items) {vs : List Value}
    (hvs : List.Forall₂ (g.Stands mode s) items vs) (hw : w ∈ vs) :
    ∃ c, Spot.Inside (.root d) c ∧ g.Stands mode s c.ref w := by
  obtain ⟨_, _, _, -, rfl⟩ := h.sequence ho hc
  obtain ⟨i, hi⟩ := List.getElem?_of_mem hw
  obtain ⟨m, hm, hstands⟩ := exists_getElem?_of_forall₂ hvs hi
  obtain ⟨c, hc, rfl⟩ := List.mem_map.mp (List.mem_of_getElem? hm)
  exact ⟨c, ho.home.tail hc, hstands⟩

/-- The value of an entry is that of a spot. -/
theorem stands_entry (h : g.Of T d) (ho : Spot.Inside (.root d) o) {e : Value × Value}
    (he : g.EntryOf (g.Keyed mode) (g.Stands mode s) o.ref e) :
    ∃ c, Spot.Inside (.root d) c ∧ g.Stands mode s c.ref e.2 := by
  obtain ⟨p, hp, -, hstands⟩ := he
  obtain ⟨_, q, hq, rfl⟩ := h.exists_brings hp ho rfl
  exact ⟨q.2, (hq.inside ho).2.1, hstands⟩

/-- The value of an entry of a map written as a sequence is that of a spot. -/
theorem stands_orderedEntry (h : g.Of T d) (ho : Spot.Inside (.root d) o) {items : List Nat}
    (hc : (g.get o.ref).content = .sequence items) {e : Value × Value}
    (he : ∃ m ∈ items, g.EntryOf (g.Keyed mode) (g.Stands mode s) m e) :
    ∃ c, Spot.Inside (.root d) c ∧ g.Stands mode s c.ref e.2 := by
  obtain ⟨_, _, _, -, rfl⟩ := h.sequence ho hc
  obtain ⟨m, hm, he⟩ := he
  obtain ⟨c, hc, rfl⟩ := List.mem_map.mp hm
  exact h.stands_entry (ho.home.tail hc) he

/-- Where neither sets nor pairs are made, lists and mappings are all that has values inside, and these
are values of spots again. -/
theorem stands_inside (h : g.Of KeepsCount d) (ho : Spot.Inside (.root d) o)
    (hv : g.Stands mode s o.ref v) :
    s.within v = s.inside v ∧
      ∀ w ∈ s.inside v, ∃ c, Spot.Inside (.root d) c ∧ g.Stands mode s c.ref w := by
  rcases hv.represents with ⟨t, -, hreads⟩ | ⟨rfl, -⟩ | ⟨filler, c, rfl, -, htag, hholds⟩
  · have hscalar := hreads.isScalar
    cases v with
    | ref | tuple => exact hscalar.elim
    | _ => exact ⟨rfl, fun w hw => by cases hw⟩
  · exact ⟨rfl, fun w hw => by cases hw⟩
  · obtain ⟨hset, hpairs⟩ := (h.home_has ho).tagged.ofTag?_ne
    rw [Store.within, Store.inside]
    generalize s.get c = container at hholds
    unfold Filler.Holds at hholds
    split at hholds
    · next vs =>
      obtain ⟨items, hc, hvs⟩ := hholds
      -- only a list of pairs has pairs in it, and its tag is excluded
      have hnone : vs.filterMap Value.pairValue? = [] :=
        List.filterMap_eq_nil_iff.mpr fun w hw => by
          obtain ⟨c, -, hc⟩ := h.stands_item ho hc hvs hw
          exact hc.pairValue?_eq_none
      exact ⟨by simp [hnone], fun w hw => h.stands_item ho hc hvs hw⟩
    · refine ⟨rfl, fun w hw => ?_⟩
      obtain ⟨e, he, rfl⟩ := List.mem_map.mp hw
      exact h.stands_entry ho (hholds.2 e he)
    · exact absurd htag hset
    · refine ⟨rfl, fun w hw => ?_⟩
      obtain ⟨e, he, rfl⟩ := List.mem_map.mp hw
      obtain ⟨items, hc, hes⟩ := hholds
      exact h.stands_orderedEntry ho hc (hes e he)
    · refine ⟨rfl, fun w hw => ?_⟩
      obtain ⟨e, he, rfl⟩ := List.mem_map.mp hw
      obtain ⟨items, hc, hes⟩ := hholds
      exact h.stands_orderedEntry ho hc (hes e he)
    · exact absurd htag hpairs
    · exact hholds.elim

end Of

end Yaml.Graph

/-! ### Loaded documents -/

namespace Datum

/-- A datum has one number of values. -/
theorem Counts.iff {inside : Store → Value → List Value} {d : Datum} {w : Nat}
    (h : d.Counts inside w) (w' : Nat) : d.Counts inside w' ↔ w' = w :=
  ⟨fun h' => Visit.Counts.unique h' h, fun hw => hw ▸ h⟩

/-- The copy of a datum that fits a limit is within it. -/
theorem exists_counts_plain {d : Datum} {P : Value → Prop}
    (hin : ∀ v w, P v → w ∈ d.store.inside v → P w)
    (hbound : ∀ n, P (.ref n) → n < d.store.containers.size) (hd : P d.value) {limit : Int}
    (hfits : d.fits limit = true) :
    ∃ w, d.plain.Counts Store.inside w ∧ (w : Int) ≤ limit := by
  rw [fits, fitsWithin_eq, tallies_singleton_iff] at hfits
  obtain ⟨w, hw, hle⟩ := hfits
  obtain ⟨w', hle', hw'⟩ := Store.exists_counts_copy hin hbound hw hd
  have hpos := hw'.pos
  exact ⟨w', hw', by omega⟩

end Datum

namespace Loader

open Yaml Graph

/-- The values of a loaded document are within the limit, counted once for each reference to them, with
no container entered inside itself, and each set and each pair counting as one value.  Where nothing
has the tag of a set or of a list of pairs, all values of the document are. -/
theorem count_le_of_load {l : Loader} {text : String} {doc : LoadedDocument} (hl : l.Ready)
    (hload : (l.load text).1 = .ok doc) :
    ∃ w : Nat, (∀ w', doc.data.Counts Store.inside w' ↔ w' = w) ∧
      (w : Int) ≤ l.settings.maxNodeCount ∧
      ((∀ part ∈ (Markup.run l.treeVersion text.toList).parts, part.Tagged KeepsCount) →
        ∀ w', doc.data.Counts Store.within w' ↔ w' = w) := by
  obtain ⟨root, data, -, hrun, hread, hfits, hdata⟩ := read_of_load hload
  have hempty := hl.builder
  rw [hl.version] at hrun ⊢
  obtain ⟨a, ha, hstands⟩ := ValueReader.read_stands hempty hread
  rw [hdata]
  cases root with
  | none =>
      have hnull := ValueReader.read_rootless hempty hread ha
        (Graph.root_of_read hrun ha)
      obtain ⟨w, hw, hle⟩ := Datum.exists_counts_plain (P := (· = .null))
        (by rintro _ _ rfl hw; cases hw) (by rintro _ ⟨⟩) hnull hfits
      have hwithin : data.plain.Counts Store.within w :=
        Visit.Counts.congr (P := (· = .null)) (by rintro _ rfl; rfl) (by rintro _ _ rfl hw; cases hw)
          hw (by rw [Datum.plain, hnull]; rfl)
      exact ⟨w, hw.iff, hle, fun _ => hwithin.iff⟩
  | some d =>
      obtain ⟨hroot, hna, -⟩ := Graph.of_read_true hrun ha
      have hstands := hstands 0 hroot
      have href : Spot.ref (.root d) = 0 := Spot.ref_of_not_isAlias hna
      obtain ⟨w, hw, hle⟩ := Datum.exists_counts_plain
        (P := fun v => ∃ n, a.graph.Shows (l.reader.mode true text.toList) data.store n v)
        (by rintro _ _ ⟨_, hv⟩ hw; exact hv.inside hw) (by rintro _ ⟨_, hv⟩; exact hv.lt)
        ⟨0, .inl hstands⟩ hfits
      refine ⟨w, hw.iff, hle, fun htags => Datum.Counts.iff ?_⟩
      obtain ⟨-, -, hof⟩ := Graph.of_read hrun htags ha
      -- without sets and pairs both ways of looking inside see the same at every value that stands
      -- for a spot
      refine Visit.Counts.congr (P := fun v => ∃ o, Spot.Inside (.root d) o ∧
        a.graph.Stands (l.reader.mode true text.toList) data.plain.store o.ref v) ?_ ?_ hw
        ⟨.root d, .refl _, href ▸ hstands.plain⟩
      · rintro v ⟨o, ho, hv⟩
        exact (hof.stands_inside ho hv).1
      · rintro v w ⟨o, ho, hv⟩
        exact (hof.stands_inside ho hv).2 w

theorem count_le_of_load_sharedItem :
    let l := start { maxNodeCount := 6 }
    let text := "- &a [1]\n- [*a]\n"
    (∀ part ∈ (Markup.run l.treeVersion text.toList).parts, part.Tagged KeepsCount) ∧
      ∃ doc, (l.load text).1 = .ok doc ∧ ∃ w : Nat,
        (∀ w', doc.data.Counts Store.inside w' ↔ w' = w) ∧ (w : Int) ≤ l.settings.maxNodeCount ∧
        ∀ w', doc.data.Counts Store.within w' ↔ w' = w := by
  intro l text
  have htags : ∀ part ∈ (Markup.run l.treeVersion text.toList).parts, part.Tagged KeepsCount := by
    decide +kernel
  have hdoc : (l.load text).1.toOption.any (fun _ => true) = true := by decide +kernel
  obtain ⟨doc, hload, -⟩ := Except.exists_ok_of_any hdoc
  obtain ⟨w, hw, hle, hwithin⟩ := count_le_of_load (ready_start _) hload
  exact ⟨htags, doc, hload, w, hw, hle, hwithin htags⟩

/-- A document loads though it has more values than the limit. -/
theorem exists_load_of_tallies {l : Loader} {text : String} (many : Nat) {few : Nat}
    (h : (l.load text).1.toOption.any (fun doc =>
      tallies (Store.within doc.data.store) many [⟨doc.data.value, []⟩] &&
        !tallies (Store.within doc.data.store) few [⟨doc.data.value, []⟩]) = true) :
    ∃ doc, (l.load text).1 = .ok doc ∧ ∃ w, doc.data.Counts Store.within w ∧ few < w := by
  obtain ⟨doc, hload, hcount⟩ := Except.exists_ok_of_any h
  obtain ⟨hmany, hfew⟩ := Bool.and_eq_true_iff.mp hcount
  exact ⟨doc, hload, exists_lt_of_tallies hmany (Bool.not_eq_true' _ |>.mp hfew)⟩

/-- The limit does not hold for all values.  Lists of pairs that share lists of pairs multiply what is
not counted, and no member of a set is. -/
theorem exists_lt_count :
    (∃ doc, ((start { maxNodeCount := 10 }).load
        "a: &a !!pairs [x: 0, x: 0]\nb: &b !!pairs [x: *a, x: *a]\nc: !!pairs [x: *b, x: *b]\n").1 =
          .ok doc ∧
      ∃ w, doc.data.Counts Store.within w ∧ 10 < w) ∧
    ∃ doc, ((start { maxNodeCount := 1 }).load "!!set\n? a\n? b\n? c\n").1 = .ok doc ∧
      ∃ w, doc.data.Counts Store.within w ∧ 1 < w :=
  ⟨exists_load_of_tallies 200 (by decide +kernel),
    exists_load_of_tallies 200 (by decide +kernel)⟩

end Loader

end YamlAudit
