import YamlAudit.Proofs.Yaml.Evolves

/-!
# Yaml — no key comes twice

Whatever a graph has in it, no mapping that is built from it has a key twice: an entry is put under a
key that is there already or comes last (`DistinctKeys.putKey`).  Every part of building keeps this,
one law a part, in the order in which the parts call one another.

* `ValueReader.read_distinct`: no mapping that a text is read as has a key twice.

As every entry is put and none is appended, nothing has to be known of the keys.  A list of pairs
may still have a key twice, and different keys may come to one text later; neither is excluded by
this.
-/

namespace YamlAudit

/-! ### Containers and stores -/

/-- A container has no key twice. -/
def Container.Distinct : Container → Prop
  | .mapping es | .ordered es => DistinctKeys es
  | _ => True

/-- No container has a key twice. -/
def Store.Distinct (s : Store) : Prop := ∀ n, (s.get n).Distinct

namespace Store.Distinct

variable {s : Store} {c : Container}

theorem empty : Store.empty.Distinct := fun _ => trivial

/-- A container in the place of another leaves the others as they are. -/
theorem put (h : s.Distinct) (n : Nat) (hc : c.Distinct) : (s.put n c).Distinct := fun k => by
  by_cases hk : k = n
  · subst hk
    by_cases hlt : k < s.containers.size
    · rw [get_put_self hlt]
      exact hc
    · have hput : s.put k c = s := by simp [Store.put, Array.setIfInBounds, hlt]
      rw [hput]
      exact h k
  · rw [get_put_of_ne hk]
    exact h k

/-- A new container comes behind all others. -/
theorem add (h : s.Distinct) (hc : c.Distinct) : (s.add c).2.Distinct := fun k => by
  by_cases hlt : k < s.containers.size
  · rw [get_add_of_lt hlt]
    exact h k
  · have hget : (s.add c).2.get k = c ∨ (s.add c).2.get k = .list [] := by
      simp only [Store.add, get, Array.getD_eq_getD_getElem?, Array.getElem?_push]
      split
      · exact .inl rfl
      · right
        simp [Nat.le_of_not_lt hlt]
    rcases hget with hget | hget <;> rw [hget]
    · exact hc
    · trivial

end Store.Distinct

namespace Yaml

open Build

/-! ### Building -/

/-- After a part of building no container has a key twice. -/
abbrev Tidy {α : Type} (_ : α) (b : Builder) : Prop := b.store.Distinct

/-- Making a node leaves no container with a key twice. -/
def Tidies (make : Maker) : Prop :=
  ∀ b n eager, b.store.Distinct → Gives (make n eager) b Tidy

/-- What only changes the graph leaves the store as it is. -/
theorem Evolved.store {g : Graph} {literalKeys : Bool} {b b' : Builder}
    (h : Evolved g literalKeys b b') : b'.store = b.store := by
  obtain ⟨g', -, rfl⟩ := h
  rfl

section Collections

variable {mode : BuildMode} {make : Maker} {whole : GraphNode} {b : Builder}

/-- A key is a value, or one that is built for its mapping alone. -/
theorem makeKey_tidy (hmake : Tidies make) (h : b.store.Distinct) (key : Nat) :
    Gives (makeKey make whole key) b Tidy := by
  exact .makeKey ((hmake b key true h).imp fun v b₁ h₁ => ⟨h₁, fun _ _ _ _ => h₁⟩)

/-- Entries are added one by one, each in the place of an earlier one with its key. -/
theorem makeEntries_tidy (hmake : Tidies make) (distinct : Bool) (pairs : List (Nat × Nat))
    {es : List (Value × Value)} (hes : DistinctKeys es) (h : b.store.Distinct) :
    Gives (makeEntries make whole distinct pairs es) b fun es' b' =>
      b'.store.Distinct ∧ DistinctKeys es' := by
  induction pairs generalizing b es with
  | nil => exact .pure ⟨h, hes⟩
  | cons p rest ih =>
      exact .makeEntries_cons ((makeKey_tidy hmake h p.1).imp fun k b₁ h₁ =>
        (hmake b₁ p.2 false h₁).imp fun v b₂ h₂ _ => ih (hes.putKey k v) h₂)

/-- The entries that are merged in come first and are put like all others. -/
theorem mappingEntries_tidy (hmake : Tidies make) (h : b.store.Distinct) (n : Nat) :
    Gives (mappingEntries mode make n) b fun es b' => b'.store.Distinct ∧ DistinctKeys es := by
  -- merging and keeping keys change the graph only
  have hstore : ∀ s, Evolved b.graph mode.literalKeys b s → s.store.Distinct := fun s hs =>
    hs.store ▸ h
  refine mappingEntries_evolves (.refl _ _) (fun s pairs hs _ => ?_) fun s pairs merged hs _ => ?_
  · exact makeEntries_tidy hmake true _ .nil (hstore s hs)
  · refine (makeEntries_tidy hmake false _ .nil (hstore s hs)).imp fun first b₁ h₁ => ?_
    refine (makeEntries_tidy hmake false _ .nil h₁.1).imp fun second b₂ h₂ => ?_
    exact ⟨h₂.1, List.foldlRecOn (motive := DistinctKeys) second _ h₁.2
      fun es hes e _ => hes.putKey e.1 e.2⟩

theorem makeItems_tidy (hmake : Tidies make) (items : List Nat) (h : b.store.Distinct) :
    Gives (makeItems make items) b Tidy := by
  induction items generalizing b with
  | nil => exact .pure h
  | cons item rest ih =>
      exact .bind ((hmake b item false h).imp fun _ _ h₁ =>
        .bind ((ih h₁).imp fun _ _ h₂ => .pure h₂))

/-- The entries of an ordered mapping are put into it one by one. -/
theorem orderedEntries_tidy (hmake : Tidies make) (container : Nat) (items : List Nat)
    {es : List (Value × Value)} (hes : DistinctKeys es) (h : b.store.Distinct) :
    Gives (orderedEntries make whole container items es) b Tidy := by
  induction items generalizing b es with
  | nil => exact .pure h
  | cons entry rest ih =>
      exact .orderedEntries_cons fun p _ _ => (hmake b p.1 false h).imp fun k b₁ h₁ =>
        (hmake b₁ p.2 false h₁).imp fun v b₂ h₂ =>
          ih (hes.putKey k v) (h₂.put container (hes.putKey k v))

/-- Pairs are a list, in which a key may come again. -/
theorem pairItems_tidy (hmake : Tidies make) (container : Nat) (entries : List Nat)
    (items : List Value) (h : b.store.Distinct) :
    Gives (pairItems make whole container entries items) b Tidy := by
  induction entries generalizing b items with
  | nil => exact .pure h
  | cons entry rest ih =>
      exact .pairItems_cons fun p _ _ => (hmake b p.1 false h).imp fun k b₁ h₁ =>
        (hmake b₁ p.2 false h₁).imp fun v b₂ h₂ => ih _ (h₂.put container trivial)

/-- A collection is filled by its entries, its items or its pairs. -/
theorem fill_tidy (hmake : Tidies make) (f : Filling) (h : b.store.Distinct) :
    Gives (fill mode make f) b Tidy := by
  have hentries : Gives (mappingEntries mode make f.node) b fun es b' =>
      b'.store.Distinct ∧ DistinctKeys es := mappingEntries_tidy hmake h f.node
  exact .fill (fun items _ _ => (makeItems_tidy hmake items h).imp fun _ _ h₁ => h₁.put _ trivial)
    (fun _ => hentries.imp fun _ _ h₁ => h₁.1.put _ h₁.2)
    (fun _ => hentries.imp fun _ _ h₁ => h₁.1.put _ trivial)
    (fun items _ _ => orderedEntries_tidy hmake f.container items .nil h)
    fun items _ _ => pairItems_tidy hmake f.container items [] h

end Collections

/-- A collection is empty until it is filled. -/
theorem Filler.initial_distinct (filler : Filler) : filler.initial.Distinct := by
  cases filler with
  | mapping | ordered => exact List.Pairwise.nil
  | _ => trivial

section Nodes

variable {mode : BuildMode} {make : Maker} {b : Builder}

/-- A node adds at most one container, which is filled at once or later. -/
theorem makeNode_tidy (hmake : Tidies make) (n : Nat) (h : b.store.Distinct) :
    Gives (makeNode mode make n) b Tidy := by
  refine .makeNode (fun r _ => (Gives.scalarText _ n).imp fun t b' ht v _ => ?_)
    (fun filler _ _ => fill_tidy hmake _ (h.add filler.initial_distinct))
    fun filler _ _ => h.add filler.initial_distinct
  obtain ⟨rfl, -⟩ := ht
  exact h

/-- So does a node with all that is in it. -/
theorem make_tidies (mode : BuildMode) (depth : Nat) : Tidies (Build.make mode depth) := by
  induction depth with
  | zero => exact fun _ _ _ _ => .throw
  | succ depth ih =>
      intro b n eager h
      exact .make_succ (fun _ _ => h) (fun _ _ => h) fun _ _ => makeNode_tidy ih n h

/-- What was put off is filled in the end, in as many rounds as it takes. -/
theorem fillRounds_tidy (hmake : Tidies make) (fuel : Nat) (h : b.store.Distinct) :
    Gives (fillRounds mode make fuel) b Tidy := by
  induction fuel generalizing b with
  | zero => exact .pure h
  | succ fuel ih =>
      exact .fillRounds_succ (fun _ s => s.store.Distinct) (fun _ => h) (fun _ => h)
        (fun f _ _ hs => fill_tidy hmake f hs) fun _ _ hs => ih hs

theorem document_tidy (mode : BuildMode) (g : Graph) (root : Nat) :
    Gives (document mode root) { Builder.empty with graph := g } Tidy :=
  .document fun depth => (make_tidies mode depth _ root false .empty).imp fun _ _ h₁ =>
    fillRounds_tidy (make_tidies mode depth) _ h₁

end Nodes

/-- No mapping that a text is read as has a key twice. -/
theorem ValueReader.read_distinct {r : ValueReader} (hr : r.builder = .empty) {literalKeys : Bool}
    {source : List Char} {data : Datum} (h : (r.read literalKeys source).1 = .ok data) :
    data.store.Distinct := by
  obtain ⟨a, -, hnone, hbuilt⟩ := read_eq_ok hr h
  cases hroot : a.root with
  | none =>
      rw [hnone hroot]
      exact .empty
  | some root =>
      obtain ⟨b, hbuild, hstore⟩ := hbuilt root hroot
      exact hstore ▸ document_tidy _ a.graph root _ b hbuild

end Yaml

end YamlAudit
