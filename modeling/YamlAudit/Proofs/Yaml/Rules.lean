import YamlAudit.Proofs.Yaml.Gives
import YamlAudit.Proofs.Yaml.Plan

/-!
# Yaml — one rule for each part of building

What a part of building gives is told by what the parts give that it calls: a key by the value of its
node, an entry by its key and its value, a node by its text or by the filling of its collection.  What
is proved of building, whatever it is, goes through these rules.

There is one rule for each function, with what is asked of the functions it calls as hypotheses, and
each is proved by going through its function once.  To show that building keeps something is then to
apply the rules one after another; no development on building opens a function again.
-/

namespace YamlAudit.Yaml

open Build

/-- The value of a text by a recipe. -/
def Build.Recipe.read? (old : Bool) (n : Nat) (place : Mark) (t : String) : Recipe → Option Value
  | .null => some .null
  | .bool => (readBool t).toOption
  | .int => (readInt old t).toOption
  | .float => (readFloat old (.ofNode n) t).toOption
  | .binary => (readBinary place t).toOption
  | .timestamp => (readTimestamp place t).toOption
  | .text => some (.text t)
  | .collection _ => none

/-- A builder whose node has got its value. -/
def Builder.note (b : Builder) (n : Nat) (v : Value) (eager : Bool) : Builder :=
  { b with built := b.built.setIfInBounds n (some v), busy := b.busy.erase n, eager }

/-- What a builder begins with for the one document of a graph. -/
def Builder.begin (g : Graph) : Builder :=
  { Builder.empty with graph := g, built := #[] ++ Array.replicate g.nodes.size none }

theorem Builder.value_begin (g : Graph) (n : Nat) : (Builder.begin g).value n = none := by
  simp only [begin, Builder.value, Array.getD_eq_getD_getElem?]
  rw [Array.empty_append, Array.getElem?_replicate]
  split <;> rfl

@[simp] theorem Builder.size_built_begin (g : Graph) : (begin g).built.size = g.nodes.size := by
  simp [begin]

namespace Gives

variable {b : Builder} {mode : BuildMode} {make : Maker} {whole : GraphNode} {n : Nat}

theorem node {Q : GraphNode → Builder → Prop} (h : Q (b.graph.get n) b) :
    Gives (Build.node n) b Q :=
  .bind (.get (.pure h))

theorem wrongKind {α : Type} {expected : NodeKind} {nd : GraphNode} {Q : α → Builder → Prop} :
    Gives (Build.wrongKind expected nd) b Q :=
  .throw

theorem alloc {c : Container} {Q : Nat × Value → Builder → Prop}
    (h : Q (b.store.containers.size, .ref b.store.containers.size)
      { b with store := (b.store.add c).2 }) : Gives (Build.alloc c) b Q :=
  .bind (.get (.bind (.set (.pure h))))

theorem reading {α : Type} {e : Except Refusal α} {Q : α → Builder → Prop}
    (h : ∀ a, e = .ok a → Q a b) : Gives (Build.reading e) b Q := by
  cases e with
  | ok a => exact .pure (h a rfl)
  | error r => exact .throw

theorem readingAt {α : Type} {e : Except BuildError α} {Q : α → Builder → Prop}
    (h : ∀ a, e = .ok a → Q a b) : Gives (Build.readingAt e) b Q := by
  cases e with
  | ok a => exact .pure (h a rfl)
  | error r => exact .throw

/-! ### Keys and entries -/

/-- A key is what is made of its node, or the items of the list that this is. -/
theorem makeKey {key : Nat} {Q : Value → Builder → Prop}
    (h : Gives (make key true) b fun v b' => Q v b' ∧
      ∀ c items, v = .ref c → b'.store.get c = .list items → Q (.tuple items) b') :
    Gives (Build.makeKey make whole key) b Q := by
  refine .bind (h.imp fun v b' hv => ?_)
  split
  · next c =>
    refine .bind (.get ?_)
    split
    · next items hc => exact .pure (hv.2 c items rfl hc)
    · exact .bind (.node .throw)
  · exact .pure hv.1

/-- A key that is there already ends the building, whatever is said about it. -/
theorem repeatedKey {α : Type} {key : Nat} {k new old : Value} {Q : α → Builder → Prop} :
    Gives (Build.repeatedKey whole key k new old) b Q := by
  have htext : ∀ (v : Value) (s : Builder) (R : String → Builder → Prop), (∀ t, R t s) →
      Gives (textOf v) s R := by
    intro v s R hR
    refine .bind (.get ?_)
    split
    · exact .pure (hR _)
    · exact .throw
  exact .bind (htext _ _ _ fun _ => .bind (htext _ _ _ fun _ => .bind (htext _ _ _ fun _ =>
    .bind (.node .throw))))

theorem requireHashable {key : Value} {Q : Unit → Builder → Prop} (h : Q () b) :
    Gives (Build.requireHashable key) b Q := by
  refine .bind (.get ?_)
  split
  · exact .throw
  · exact .pure h

/-- A pair becomes an entry: its value is put under its key, which is new where no key may come
twice. -/
theorem makeEntries_cons {distinct : Bool} {key value : Nat} {rest : List (Nat × Nat)}
    {es : List (Value × Value)} {Q : List (Value × Value) → Builder → Prop}
    (h : Gives (Build.makeKey make whole key) b fun k b₁ => Gives (make value false) b₁ fun v b₂ =>
      (distinct = true → lookupKey k es = none) →
        Gives (makeEntries make whole distinct rest (putKey k v es)) b₂ Q) :
    Gives (makeEntries make whole distinct ((key, value) :: rest) es) b Q := by
  refine .bind (h.imp fun k b₁ h₁ => .bind (h₁.imp fun v b₂ h₂ => .bind (.requireHashable ?_)))
  refine .ite (fun _ => ?_) fun hd => h₂ fun hd' => absurd hd' hd
  split
  · exact .bind .repeatedKey
  · next hnone => exact h₂ fun _ => Option.eq_none_iff_forall_ne_some.mpr hnone

/-- The entries of a mapping come of its pairs, after merge keys have been resolved and keys been made
texts; pairs that merge keys brought come first. -/
theorem mappingEntries {P : Builder → Prop} {Q : List (Value × Value) → Builder → Prop}
    (hprepared : (b.graph.get n).content.kind = .mapping →
      Gives (flatten mode.calls n) b fun _ b₁ =>
        (mode.literalKeys = true → Gives (keepKeys n) b₁ fun _ b₂ => P b₂) ∧
        (mode.literalKeys = false → P b₁))
    (hplain : ∀ s pairs, P s → (s.graph.get n).content = .mapping pairs none →
      Gives (makeEntries make (s.graph.get n) true pairs []) s Q)
    (hmerged : ∀ s pairs merged, P s → (s.graph.get n).content = .mapping pairs (some merged) →
      Gives (makeEntries make (s.graph.get n) false merged []) s fun first s₁ =>
        Gives (makeEntries make (s.graph.get n) false pairs []) s₁ fun second s₂ =>
          Q (second.foldl (fun acc e => putKey e.1 e.2 acc) first) s₂) :
    Gives (Build.mappingEntries mode make n) b Q := by
  refine .bind (.node ?_)
  extract_lets rest
  -- how the pairs are gone through is decided by the graph as it is once merging is done
  have hrest : ∀ s, ((s.graph.get n).content.kind = .mapping → P s) → Gives (rest ()) s Q := by
    intro s hs
    refine .bind (.node ?_)
    split
    · next pairs hc => exact hplain s pairs (hs (by rw [hc]; rfl)) hc
    · next pairs merged hc =>
      exact .bind ((hmerged s pairs merged (hs (by rw [hc]; rfl)) hc).imp fun first s₁ h₁ =>
        .bind (h₁.imp fun second s₂ h₂ => .pure h₂))
    · exact .wrongKind
  split
  · next pairs merged hc =>
    refine .bind ((hprepared (by rw [hc]; rfl)).imp fun _ b₁ h₁ => ?_)
    refine .ite (fun hmode => .bind ((h₁.1 hmode).imp fun _ b₂ h₂ => hrest b₂ fun _ => h₂))
      fun hmode => hrest b₁ fun _ => h₁.2 (Bool.eq_false_iff.mpr hmode)
  · next hc =>
    refine hrest b fun hkind => ?_
    cases hk : (b.graph.get n).content with
    | mapping pairs merged => exact absurd hk (hc pairs merged)
    | _ => rw [hk] at hkind; cases hkind

/-! ### Sequences of pairs -/

/-- Only a sequence can be an ordered map or a list of pairs. -/
theorem entriesOf {activity : Activity} {Q : List Nat → Builder → Prop}
    (h : ∀ items, whole.content = .sequence items → Q items b) :
    Gives (Build.entriesOf activity whole) b Q := by
  unfold Build.entriesOf
  split
  · next items hc => exact .pure (h items hc)
  · exact .throw

/-- What is in an ordered map or a list of pairs is a mapping with one pair. -/
theorem onlyPair {activity : Activity} {entry : Nat} {Q : Nat × Nat → Builder → Prop}
    (h : ∀ p merged, (b.graph.get entry).content = .mapping [p] merged → Q p b) :
    Gives (Build.onlyPair activity whole entry) b Q := by
  refine .bind (.node ?_)
  split
  · next p merged hc => exact .pure (h p merged hc)
  · exact .throw
  · exact .throw

/-- An ordered map gets one entry after another, each under a key that is new. -/
theorem orderedEntries_cons {c entry : Nat} {rest : List Nat} {es : List (Value × Value)}
    {Q : Unit → Builder → Prop}
    (h : ∀ p merged, (b.graph.get entry).content = .mapping [p] merged →
      Gives (make p.1 false) b fun k b₁ => Gives (make p.2 false) b₁ fun v b₂ =>
        Gives (orderedEntries make whole c rest (putKey k v es))
          { b₂ with store := b₂.store.put c (.ordered (putKey k v es)) } Q) :
    Gives (orderedEntries make whole c (entry :: rest) es) b Q := by
  refine .bind (.onlyPair fun p merged hc => .bind ((h p merged hc).imp fun k b₁ h₁ => ?_))
  refine .bind (.requireHashable (.ite (fun _ => .bind .throw) fun _ => ?_))
  exact .bind (h₁.imp fun v b₂ h₂ => .bind (.modify h₂))

/-- A list of pairs gets one tuple after another. -/
theorem pairItems_cons {c entry : Nat} {rest : List Nat} {vs : List Value}
    {Q : Unit → Builder → Prop}
    (h : ∀ p merged, (b.graph.get entry).content = .mapping [p] merged →
      Gives (make p.1 false) b fun k b₁ => Gives (make p.2 false) b₁ fun v b₂ =>
        Gives (pairItems make whole c rest (vs ++ [.tuple [k, v]]))
          { b₂ with store := b₂.store.put c (.list (vs ++ [.tuple [k, v]])) } Q) :
    Gives (pairItems make whole c (entry :: rest) vs) b Q :=
  .bind (.onlyPair fun p merged hc => .bind ((h p merged hc).imp fun _ _ h₁ =>
    .bind (h₁.imp fun _ _ h₂ => .bind (.modify h₂))))

/-- A collection is filled as it asks for: with the values of items, with entries, or pair by pair. -/
theorem fill {f : Filling} {Q : Unit → Builder → Prop}
    (hlist : ∀ items, f.filler = .list → (b.graph.get f.node).content = .sequence items →
      Gives (makeItems make items) b fun vs b' =>
        Q () { b' with store := b'.store.put f.container (.list vs) })
    (hmapping : f.filler = .mapping → Gives (Build.mappingEntries mode make f.node) b fun es b' =>
      Q () { b' with store := b'.store.put f.container (.mapping es) })
    (hset : f.filler = .set → Gives (Build.mappingEntries mode make f.node) b fun es b' =>
      Q () { b' with store := b'.store.put f.container (.set (es.map Prod.fst)) })
    (hordered : ∀ items, f.filler = .ordered → (b.graph.get f.node).content = .sequence items →
      Gives (orderedEntries make (b.graph.get f.node) f.container items []) b Q)
    (hpairs : ∀ items, f.filler = .pairs → (b.graph.get f.node).content = .sequence items →
      Gives (pairItems make (b.graph.get f.node) f.container items []) b Q) :
    Gives (Build.fill mode make f) b Q := by
  refine .bind (.node ?_)
  cases hf : f.filler with
  | list =>
      dsimp only
      split
      · next items hc => exact .bind ((hlist items hf hc).imp fun _ _ h => .modify h)
      · exact .wrongKind
  | mapping => exact .bind ((hmapping hf).imp fun _ _ h => .modify h)
  | set => exact .bind ((hset hf).imp fun _ _ h => .modify h)
  | ordered => exact .bind (.entriesOf fun items hc => hordered items hf hc)
  | pairs => exact .bind (.entriesOf fun items hc => hpairs items hf hc)

/-! ### Nodes -/

/-- The text of a scalar is its own, and a sequence has none. -/
theorem scalarText (calls n : Nat) : Gives (Build.scalarText calls n) b fun t b' =>
    b' = b ∧ (b.graph.get n).content.kind ≠ .sequence ∧
      ∀ s, (b.graph.get n).content = .scalar s → t = s := by
  induction calls generalizing n with
  | zero => exact .throw
  | succ calls ih =>
      refine .bind (.node ?_)
      split
      · next value hc =>
        refine .pure ⟨rfl, by rw [hc]; simp [NodeContent.kind], fun s hs => ?_⟩
        exact NodeContent.scalar.inj (hc.symm.trans hs)
      · exact .wrongKind
      · next pairs merged hc =>
        refine .bind (.get ?_)
        dsimp only
        split
        · refine (ih _).imp fun t b' h => ⟨h.1, by rw [hc]; simp [NodeContent.kind], ?_⟩
          intro s hs
          rw [hc] at hs
          cases hs
        · exact .wrongKind

/-- What holds of the text of a scalar holds of what is written in it. -/
theorem of_scalarText {fuel : Nat} {t : String} {Q : String → Builder → Prop}
    (h : Gives (Build.scalarText (fuel + 1) n) b Q) (hc : (b.graph.get n).content = .scalar t) :
    Q t b := by
  have hnode := of_bind (x := Build.node n) h _ _ rfl
  dsimp only at hnode
  rw [hc] at hnode
  exact hnode t b rfl

/-- The value of a node is read from its text as its tag asks for, or it is a new container, which is
filled at once or waits among those pending. -/
theorem makeNode {Q : Value → Builder → Prop}
    (hread : ∀ r, Recipe.ofTag? (b.graph.get n).tag = some r →
      Gives (Build.scalarText (mode.calls + 1) n) b fun t b' =>
        ∀ v, r.read? mode.old n (b.graph.get n).start t = some v → Q v b')
    (hfilled : ∀ filler, Recipe.ofTag? (b.graph.get n).tag = some (.collection filler) →
      b.eager = true → Gives (Build.fill mode make ⟨filler, n, b.store.containers.size⟩)
        { b with store := (b.store.add filler.initial).2 } fun _ b' =>
          Q (.ref b.store.containers.size) b')
    (hpending : ∀ filler, Recipe.ofTag? (b.graph.get n).tag = some (.collection filler) →
      b.eager = false → Q (.ref b.store.containers.size)
        { b with
          store := (b.store.add filler.initial).2
          pending := b.pending.push ⟨filler, n, b.store.containers.size⟩ }) :
    Gives (Build.makeNode mode make n) b Q := by
  -- all recipes but those of collections read a text, and may give up on it
  have htext : ∀ {r : Recipe} {read : String → Build Value},
      Recipe.ofTag? (b.graph.get n).tag = some r →
      (∀ t (b' : Builder), Gives (read t) b' fun v b'' => b'' = b' ∧
        r.read? mode.old n (b.graph.get n).start t = some v) →
      Gives (do read (← Build.scalarText (mode.calls + 1) n)) b Q := by
    intro r read hr h
    refine .bind ((hread r hr).imp fun t b' ht => ?_)
    refine (h t b').imp fun v b'' hv => ?_
    obtain ⟨rfl, hv⟩ := hv
    exact ht v hv
  refine .bind (.node ?_)
  dsimp only
  split
  · exact .throw
  · next hr => exact htext hr fun _ _ => .pure ⟨rfl, rfl⟩
  · next hr =>
    exact htext hr fun _ _ => .reading fun v hv => ⟨rfl, Except.toOption_eq_some.mpr hv⟩
  · next hr =>
    exact htext hr fun _ _ => .reading fun v hv => ⟨rfl, Except.toOption_eq_some.mpr hv⟩
  · next hr =>
    exact htext hr fun _ _ => .reading fun v hv => ⟨rfl, Except.toOption_eq_some.mpr hv⟩
  · next hr =>
    exact htext hr fun _ _ => .readingAt fun v hv => ⟨rfl, Except.toOption_eq_some.mpr hv⟩
  · next hr =>
    split
    · next t hc =>
      exact .readingAt fun v hv =>
        (hread _ hr).of_scalarText hc v (Except.toOption_eq_some.mpr hv)
    · exact .throw
  · next hr => exact htext hr fun _ _ => .pure ⟨rfl, rfl⟩
  · -- a collection is filled at once or noted as pending
    next filler hr =>
    refine .bind (.alloc (.bind (.get (.ite (fun he => ?_) fun he => ?_))))
    · exact .bind ((hfilled filler hr he).imp fun _ _ h => .pure h)
    · exact .bind (.modify (.pure (hpending filler hr (Bool.eq_false_iff.mpr he))))

/-- A node is made once; met again while it is being made it has no value. -/
theorem make_succ {depth : Nat} {eager : Bool} {Q : Value → Builder → Prop}
    (hbuilt : ∀ v, b.value n = some v → Q v b)
    (hbusy : b.value n = none → n ∈ b.busy → Q .null { b with eager := eager || b.eager })
    (hmade : b.value n = none → n ∉ b.busy →
      Gives (Build.makeNode mode (Build.make mode depth) n)
        { b with eager := eager || b.eager, busy := n :: b.busy } fun v b' =>
          Q v (b'.note n v (if eager then b.eager else b'.eager))) :
    Gives (Build.make mode (depth + 1) n eager) b Q := by
  refine .bind (.get ?_)
  split
  · next v hv => exact .pure (hbuilt v hv)
  · next hv =>
    have hv : b.value n = none := Option.eq_none_iff_forall_ne_some.mpr hv
    extract_lets rest
    have hrest : Gives (rest ()) { b with eager := eager || b.eager } Q := by
      refine .ite (fun hmem => .pure (hbusy hv (by simpa using hmem))) fun hmem => ?_
      exact .bind (.modify (.bind ((hmade hv (by simpa using hmem)).imp fun _ _ h =>
        .bind (.modify (.pure h)))))
    cases eager with
    | true => exact .ite (fun _ => .bind (.modify hrest)) fun he => absurd rfl he
    | false => exact .ite (fun he => nomatch he) fun _ => hrest

/-! ### Documents -/

/-- A round of filling, by what holds before the turn of every collection. -/
theorem fillRounds_succ {fuel : Nat} {Q : Unit → Builder → Prop}
    (I : List Filling → Builder → Prop) (hdone : b.pending = #[] → Q () b)
    (hstart : b.pending ≠ #[] → I b.pending.toList { b with pending := #[] })
    (hfill : ∀ f rest s, I (f :: rest) s → Gives (Build.fill mode make f) s fun _ s' => I rest s')
    (hend : b.pending ≠ #[] → ∀ s, I [] s → Gives (fillRounds mode make fuel) s Q) :
    Gives (fillRounds mode make (fuel + 1)) b Q := by
  refine .bind (.get ?_)
  dsimp only
  refine .ite (fun hne => .bind (.modify (.bind ?_))) fun he => .pure (hdone (by simpa using he))
  have hne : b.pending ≠ #[] := by simpa using hne
  rw [← Array.forIn_toList]
  exact (Gives.forIn I (hstart hne) fun f rest s hI =>
    .bind ((hfill f rest s hI).imp fun _ s' hs' => .pure ⟨rfl, hs'⟩)).imp fun _ s hI => hend hne s hI

/-- The value of a document is that of its root, when nothing is left to be filled. -/
theorem document {g : Graph} {root : Nat} {Q : Value → Builder → Prop}
    (h : ∀ depth, Gives (Build.make mode depth root false) (Builder.begin g) fun v b₁ =>
      Gives (fillRounds mode (Build.make mode depth) (g.nodes.size + 2)) b₁ fun _ b₂ => Q v b₂) :
    Gives (Build.document mode root) { Builder.empty with graph := g } Q :=
  .bind (.get (.bind (.modify (.bind ((h _).imp fun _ _ h₁ => .bind (h₁.imp fun _ _ h₂ =>
    .pure h₂))))))

end Gives

/-! ### Readers -/

namespace ValueReader

/-- How a reader builds the value of a text. -/
def mode (r : ValueReader) (literalKeys : Bool) (source : List Char) : BuildMode :=
  ⟨literalKeys, (Graph.empty.read r.version source).version.isOld, r.calls⟩

/-- A text that is read has a graph, and its value is built from the root, unless there is none. -/
theorem read_eq_ok {r : ValueReader} (hr : r.builder = .empty) {literalKeys : Bool}
    {source : List Char} {data : Datum} (h : (r.read literalKeys source).1 = .ok data) :
    ∃ a, (Graph.empty.read r.version source).result = .ok a ∧
      (a.root = none → data = ⟨.empty, .null⟩) ∧
      ∀ root, a.root = some root → ∃ b, Build.document (r.mode literalKeys source) root
        { Builder.empty with graph := a.graph } = .ok data.value b ∧ data.store = b.store := by
  simp only [read, hr] at h
  split at h
  · cases h
  split at h
  · cases h
  · next a ha =>
    refine ⟨a, ha, fun hroot => ?_, fun root hroot => ?_⟩
    · rw [hroot] at h
      cases h
      rfl
    · rw [hroot] at h
      dsimp only at h
      split at h
      · next v b hbuild =>
        cases h
        exact ⟨b, hbuild, rfl⟩
      · cases h

end ValueReader

end YamlAudit.Yaml
