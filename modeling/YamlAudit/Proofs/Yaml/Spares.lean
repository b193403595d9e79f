import YamlAudit.Proofs.Yaml.Makes

/-!
# Yaml — building spares what has been filled

A container for which nothing is pending (`Builder.Rests`) keeps its content, whatever else is built,
from whatever graph: only the collection that is being filled is ever written to, and a new container
is not an old one.  One law a part, in the order in which the parts call one another.

Whoever has seen a container filled knows by this what it holds in the end, whatever is built after
it.  That is all that is needed to follow the building of a small document step by step.
-/

namespace YamlAudit.Yaml

open Build

/-- A container has some content, and it is not among those that are still to be filled. -/
structure Builder.Rests (b : Builder) (c : Nat) (x : Container) : Prop where
  lt : c < b.store.containers.size
  get : b.store.get c = x
  apart : ∀ f ∈ b.pending.toList, f.container ≠ c

namespace Builder.Rests

variable {b : Builder} {c : Nat} {x : Container}

/-- What else there is in a builder does not matter. -/
theorem congr {b' : Builder} (h : b.Rests c x) (hstore : b'.store = b.store)
    (hpending : b'.pending = b.pending) : b'.Rests c x :=
  ⟨hstore ▸ h.lt, hstore ▸ h.get, hpending ▸ h.apart⟩

/-- A graph that evolves has no containers. -/
theorem evolved {g : Graph} {literalKeys : Bool} {b' : Builder} (h : b.Rests c x)
    (hb : Evolved g literalKeys b b') : b'.Rests c x := by
  obtain ⟨g', -, rfl⟩ := hb
  exact h.congr rfl rfl

/-- Other containers may be written to. -/
theorem put (h : b.Rests c x) {c' : Nat} (hne : c' ≠ c) (y : Container) :
    Builder.Rests { b with store := b.store.put c' y } c x :=
  ⟨by simpa using h.lt, (Store.get_put_of_ne (Ne.symm hne) y).trans h.get, h.apart⟩

/-- A new container is another one. -/
theorem alloc (h : b.Rests c x) (y : Container) :
    Builder.Rests { b with store := (b.store.add y).2 } c x := by
  refine ⟨?_, (Store.get_add_of_lt h.lt y).trans h.get, h.apart⟩
  have := h.lt
  simp only [Store.add, Array.size_push]
  omega

/-- Another container is put off. -/
theorem push (h : b.Rests c x) {f : Filling} (hf : f.container ≠ c) :
    Builder.Rests { b with pending := b.pending.push f } c x := by
  refine ⟨h.lt, h.get, fun f' hf' => ?_⟩
  rw [Array.toList_push] at hf'
  rcases List.mem_append.mp hf' with hf' | hf'
  · exact h.apart f' hf'
  · obtain rfl := List.mem_singleton.mp hf'
    exact hf

end Builder.Rests

/-- Making nodes spares what has been filled. -/
def Spares (make : Maker) : Prop :=
  ∀ (b : Builder) (n : Nat) (eager : Bool) (c : Nat) (x : Container), b.Rests c x →
    Gives (make n eager) b fun _ b' => b'.Rests c x

section Collections

variable {make : Maker} {b : Builder} {c : Nat} {x : Container} {whole : GraphNode}

/-- Items are built one by one. -/
theorem makeItems_spares (hmake : Spares make) (items : List Nat) (h : b.Rests c x) :
    Gives (makeItems make items) b fun _ b' => b'.Rests c x := by
  induction items generalizing b with
  | nil => exact .pure h
  | cons item rest ih =>
      exact .bind ((hmake b item false c x h).imp fun _ b₁ h₁ =>
        .bind ((ih h₁).imp fun _ b₂ h₂ => .pure h₂))

theorem makeKey_spares (hmake : Spares make) (key : Nat) (h : b.Rests c x) :
    Gives (makeKey make whole key) b fun _ b' => b'.Rests c x := by
  exact .makeKey ((hmake b key true c x h).imp fun v b₁ h₁ => ⟨h₁, fun _ _ _ _ => h₁⟩)

/-- Entries are collected before they are put anywhere. -/
theorem makeEntries_spares (hmake : Spares make) (distinct : Bool) (pairs : List (Nat × Nat))
    {es : List (Value × Value)} (h : b.Rests c x) :
    Gives (makeEntries make whole distinct pairs es) b fun _ b' => b'.Rests c x := by
  induction pairs generalizing b es with
  | nil => exact .pure h
  | cons p rest ih =>
      exact .makeEntries_cons ((makeKey_spares hmake p.1 h).imp fun k b₁ h₁ =>
        (hmake b₁ p.2 false c x h₁).imp fun v b₂ h₂ _ => ih h₂)

theorem mappingEntries_spares (mode : BuildMode) (hmake : Spares make) (n : Nat)
    (h : b.Rests c x) : Gives (mappingEntries mode make n) b fun _ b' => b'.Rests c x := by
  refine mappingEntries_evolves (.refl _ _) (fun s pairs hs _ => ?_) fun s pairs merged hs _ => ?_
  · exact makeEntries_spares hmake true _ (h.evolved hs)
  · exact (makeEntries_spares hmake false _ (h.evolved hs)).imp fun _ b₁ h₁ =>
      makeEntries_spares hmake false _ h₁

/-- The entries of an ordered mapping go into that mapping, which is another one. -/
theorem orderedEntries_spares (hmake : Spares make) {c' : Nat} (hne : c' ≠ c) (items : List Nat)
    {es : List (Value × Value)} (h : b.Rests c x) :
    Gives (orderedEntries make whole c' items es) b fun _ b' => b'.Rests c x := by
  induction items generalizing b es with
  | nil => exact .pure h
  | cons entry rest ih =>
      exact .orderedEntries_cons fun p _ _ => (hmake b p.1 false c x h).imp fun k b₁ h₁ =>
        (hmake b₁ p.2 false c x h₁).imp fun v b₂ h₂ => ih (h₂.put hne _)

/-- So do pairs into their list. -/
theorem pairItems_spares (hmake : Spares make) {c' : Nat} (hne : c' ≠ c) (items : List Nat)
    {vs : List Value} (h : b.Rests c x) :
    Gives (pairItems make whole c' items vs) b fun _ b' => b'.Rests c x := by
  induction items generalizing b vs with
  | nil => exact .pure h
  | cons entry rest ih =>
      exact .pairItems_cons fun p _ _ => (hmake b p.1 false c x h).imp fun k b₁ h₁ =>
        (hmake b₁ p.2 false c x h₁).imp fun v b₂ h₂ => ih (h₂.put hne _)

/-- Filling a container spares all others. -/
theorem fill_spares (mode : BuildMode) (hmake : Spares make) {f : Filling}
    (hne : f.container ≠ c) (h : b.Rests c x) :
    Gives (fill mode make f) b fun _ b' => b'.Rests c x := by
  have hentries := mappingEntries_spares mode hmake f.node h
  exact .fill (fun items _ _ => (makeItems_spares hmake items h).imp fun _ b₁ h₁ => h₁.put hne _)
    (fun _ => hentries.imp fun _ b₁ h₁ => h₁.put hne _)
    (fun _ => hentries.imp fun _ b₁ h₁ => h₁.put hne _)
    (fun items _ _ => orderedEntries_spares hmake hne items h)
    fun items _ _ => pairItems_spares hmake hne items h

end Collections

section Nodes

variable {mode : BuildMode} {make : Maker} {b : Builder} {c : Nat} {x : Container} {n : Nat}

/-- What a node adds is new, or is put off. -/
theorem makeNode_spares (hmake : Spares make) (h : b.Rests c x) :
    Gives (makeNode mode make n) b fun _ b' => b'.Rests c x := by
  have hne : b.store.containers.size ≠ c := Nat.ne_of_gt h.lt
  refine .makeNode (fun r _ => (Gives.scalarText _ n).imp fun t b' ht v _ => ?_)
    (fun filler _ _ => fill_spares mode hmake hne (h.alloc filler.initial))
    fun filler _ _ => (h.alloc filler.initial).push hne
  obtain ⟨rfl, -⟩ := ht
  exact h

/-- So is what is added by all that is in it. -/
theorem make_spares (mode : BuildMode) (depth : Nat) : Spares (Build.make mode depth) := by
  induction depth with
  | zero => exact fun _ _ _ _ _ _ => .throw
  | succ depth ih =>
      intro b n eager c x h
      refine .make_succ (fun _ _ => h) (fun _ _ => h.congr rfl rfl) fun _ _ => ?_
      have hbegun : Builder.Rests { b with eager := eager || b.eager, busy := n :: b.busy } c x :=
        h.congr rfl rfl
      exact (makeNode_spares ih hbegun).imp fun _ b' h' => h'.congr rfl rfl

theorem fillRounds_spares (hmake : Spares make) (fuel : Nat) (h : b.Rests c x) :
    Gives (fillRounds mode make fuel) b fun _ b' => b'.Rests c x := by
  induction fuel generalizing b with
  | zero => exact .pure h
  | succ fuel ih =>
      let I (rest : List Filling) (s : Builder) : Prop :=
        s.Rests c x ∧ ∀ f ∈ rest, f.container ≠ c
      have hstart : Builder.Rests { b with pending := #[] } c x := ⟨h.lt, h.get, nofun⟩
      refine .fillRounds_succ I (fun _ => h) (fun _ => ⟨hstart, h.apart⟩) ?_
        fun _ s hs => ih hs.1
      rintro f rest s ⟨hs, hne⟩
      obtain ⟨hf, hrest⟩ := List.forall_mem_cons.mp hne
      exact (fill_spares mode hmake hf hs).imp fun _ s' hs' => ⟨hs', hrest⟩

end Nodes

end YamlAudit.Yaml
