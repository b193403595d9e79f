import YamlAudit.Proofs.Value.Alike
import YamlAudit.Proofs.Value.Literal

/-!
# Value — values that are written out alike

Values of two stores that are alike (`Alike`) may still be told apart by a program: by a container that
lies inside itself, which is written out to another depth where it begins elsewhere; by a NaN, which
equals nothing but itself; by a key with a container in it, since containers are told apart by where
they are.  A value without any of these can be written out (`Store.Unfolds`), and two of them that are
alike are *twins*: nothing that is asked of the one can be answered differently for the other.

A value is written out inside some containers.  It is `Store.Fresh` there if it lies less deep than
each of them, and so is none of them; then neither is anything inside it.  Twins inside containers are
`Apart` from these, and `Apart.shape` says what they are made of: the same leaves, and containers of
one kind with the same keys and twins inside.

* `Twin.entries?`, `Twin.parts`, `Twin.member?`, `Twin.finds` and others: what is asked of twins.
* `Apart.literalFrom`, `Twin.literal?`: twins have one literal.
* `Twin.alikeFrom`: twins compare alike with any value.
-/

namespace YamlAudit

/-! ### Values that can be written out -/

/-- An entry that is written as a pair. -/
abbrev Value.pair (e : Value × Value) : Value := .tuple [e.1, e.2]

/-- A container of which everything inside has a property: no set, and a mapping with keys that are the
same in all stores. -/
def Container.Of (P : Value → Prop) : Container → Prop
  | .list vs => ∀ v ∈ vs, P v
  | .mapping es => ∀ e ∈ es, e.1.IsOwn ∧ P e.1 ∧ P e.2
  | .ordered es => ∀ e ∈ es, e.1.IsOwn ∧ P (.pair e)
  | .set _ => False

/-- A value that can be written out with no more than some number of containers and tuples inside one
another. -/
def Store.Unfolds (s : Store) : Nat → Value → Prop
  | 0, _ => False
  | depth + 1, .tuple vs => ∀ v ∈ vs, s.Unfolds depth v
  | depth + 1, .ref n => n < s.containers.size ∧ (s.get n).Of (s.Unfolds depth)
  | _ + 1, .nan _ => False
  | _ + 1, _ => True

/-- What holds of all values holds of those inside. -/
theorem Container.Of.mono {P Q : Value → Prop} (hPQ : ∀ v, P v → Q v) {c : Container} (h : c.Of P) :
    c.Of Q := by
  cases c with
  | list vs => exact fun v hv => hPQ v (h v hv)
  | mapping es => exact fun e he => ⟨(h e he).1, hPQ _ (h e he).2.1, hPQ _ (h e he).2.2⟩
  | ordered es => exact fun e he => ⟨(h e he).1, hPQ _ (h e he).2⟩
  | set vs => exact h

namespace Store

variable {s : Store} {v : Value} {n : Nat} {around : List Nat}

/-- What can be written out needs no particular depth beyond its own. -/
theorem Unfolds.succ : ∀ {depth : Nat} {v : Value}, s.Unfolds depth v → s.Unfolds (depth + 1) v
  | 0, _, h => h.elim
  | _ + 1, .tuple _, h => fun v hv => (h v hv).succ
  | _ + 1, .ref _, h => ⟨h.1, h.2.mono fun _ => Unfolds.succ⟩
  | _ + 1, .nan _, h => h
  | _ + 1, .null, _ | _ + 1, .bool _, _ | _ + 1, .int _, _ | _ + 1, .float _, _ | _ + 1, .text _, _
  | _ + 1, .bytes _, _ | _ + 1, .date _, _ | _ + 1, .moment _, _ => trivial

/-- Nor does more depth do any harm. -/
theorem Unfolds.mono {depth depth' : Nat} (h : s.Unfolds depth v) (hle : depth ≤ depth') :
    s.Unfolds depth' v := by
  induction hle with
  | refl => exact h
  | step _ ih => exact ih.succ

theorem Unfolds.of_isLeaf (h : v.IsLeaf) : s.Unfolds 1 v := by
  cases v <;> trivial

/-- A value that can be written out inside some containers, none of which can be written out as deep. -/
def Fresh (s : Store) (around : List Nat) (v : Value) : Prop :=
  ∃ depth, s.Unfolds depth v ∧ ∀ n ∈ around, ¬ s.Unfolds depth (.ref n)

namespace Fresh

/-- A value that can be written out can be written out by itself. -/
theorem of_unfolds {depth : Nat} (h : s.Unfolds depth v) : s.Fresh [] v :=
  ⟨depth, h, fun _ hn => nomatch hn⟩

theorem unfolds (h : s.Fresh around v) : ∃ depth, s.Unfolds depth v :=
  h.imp fun _ h => h.1

/-- Around it there may be fewer containers. -/
theorem outermost (h : s.Fresh around v) : s.Fresh [] v :=
  let ⟨_, h⟩ := h.unfolds
  of_unfolds h

/-- It is none of the containers around. -/
theorem notMem (h : s.Fresh around (.ref n)) : n ∉ around :=
  fun hn => let ⟨_, hunfolds, hnot⟩ := h; hnot n hn hunfolds

/-- It is a container that the store has. -/
theorem lt (h : s.Fresh around (.ref n)) : n < s.containers.size := by
  obtain ⟨depth, hunfolds, -⟩ := h
  cases depth with
  | zero => exact hunfolds.elim
  | succ depth => exact hunfolds.1

/-- The items of a tuple lie less deep than the tuple. -/
theorem tuple {vs : List Value} (h : s.Fresh around (.tuple vs)) : ∀ v ∈ vs, s.Fresh around v := by
  obtain ⟨depth, hunfolds, hnot⟩ := h
  cases depth with
  | zero => exact hunfolds.elim
  | succ depth => exact fun v hv => ⟨depth, hunfolds v hv, fun n hn hn' => hnot n hn hn'.succ⟩

/-- What a container holds lies less deep than the container, and than those around it. -/
theorem inside (h : s.Fresh around (.ref n)) : (s.get n).Of (s.Fresh (n :: around)) := by
  classical
  obtain ⟨depth, hunfolds, hnot⟩ := h
  have hsome : ∃ depth, s.Unfolds depth (.ref n) := ⟨depth, hunfolds⟩
  -- the least depth for the container is one more than what its members need
  obtain ⟨least, hleast, hmin⟩ : ∃ least, s.Unfolds least (.ref n) ∧
      ∀ d < least, ¬ s.Unfolds d (.ref n) :=
    ⟨Nat.find hsome, Nat.find_spec hsome, fun _ hd => Nat.find_min hsome hd⟩
  cases least with
  | zero => exact hleast.elim
  | succ least =>
      have hless : least < depth :=
        Nat.lt_of_not_le fun hle => hmin depth (Nat.lt_succ_of_le hle) hunfolds
      refine hleast.2.mono fun v hv => ⟨least, hv, List.forall_mem_cons.mpr ⟨?_, fun m hm hm' => ?_⟩⟩
      · exact hmin least (Nat.lt_succ_self _)
      · exact hnot m hm (hm'.mono hless.le)

end Fresh

end Store

mutual

/-- A value that may be a key and can be written out is the same key in all stores. -/
theorem Value.isOwn_of_hashable {s : Store} : ∀ {v : Value} {depth : Nat}, v.unhashable? s = none →
    s.Unfolds depth v → v.IsOwn
  | .tuple _, _ + 1, h, hunfolds => allOwn_of_hashable h hunfolds
  | .ref _, _, h, _ => nomatch h
  | .nan _, _ + 1, _, hunfolds => hunfolds
  | .tuple _, 0, _, hunfolds | .nan _, 0, _, hunfolds => hunfolds.elim
  | .null, _, _, _ | .bool _, _, _, _ | .int _, _, _, _ | .float _, _, _, _ | .text _, _, _, _
  | .bytes _, _, _, _ | .date _, _, _, _ | .moment _, _, _, _ => trivial

/-- So are several of them. -/
theorem allOwn_of_hashable {s : Store} : ∀ {vs : List Value} {depth : Nat},
    unhashableAmong? s vs = none → (∀ v ∈ vs, s.Unfolds depth v) → AllOwn vs
  | [], _, _, _ => trivial
  | v :: vs, depth, h, hunfolds => by
      obtain ⟨hv, hvs⟩ := List.forall_mem_cons.mp hunfolds
      rw [unhashableAmong?] at h
      cases hkind : v.unhashable? s with
      | some kind => rw [hkind] at h; cases h
      | none =>
          rw [hkind] at h
          exact ⟨Value.isOwn_of_hashable hkind hv, allOwn_of_hashable h hvs⟩

end

/-! ### Twins -/

/-- Values of two stores that are alike and can be written out, each inside some containers. -/
structure Apart (s t : Store) (around around' : List Nat) (v w : Value) : Prop where
  alike : Alike s t v w
  left : s.Fresh around v
  right : t.Fresh around' w

/-- Values of two stores that are written out alike. -/
abbrev Twin (s t : Store) : Value → Value → Prop := Apart s t [] []

/-- Entries with one key and twins under it; the key is the same in all stores. -/
structure SameEntry (R : Value → Value → Prop) (e f : Value × Value) : Prop where
  key : e.1 = f.1
  own : e.1.IsOwn
  keyed : R e.1 f.1
  value : R e.2 f.2

theorem SameEntry.mono {R Q : Value → Value → Prop} (hRQ : ∀ v w, R v w → Q v w)
    {e f : Value × Value} (h : SameEntry R e f) : SameEntry Q e f :=
  ⟨h.key, h.own, hRQ _ _ h.keyed, hRQ _ _ h.value⟩

mutual

/-- A key that is the same in all stores is alike to nothing else. -/
theorem Alike.eq_of_isOwn {s t : Store} : ∀ {v w : Value}, Alike s t v w → v.IsOwn → v = w
  | .tuple vs, w, h, hv => by
      cases h.rel with
      | leaf hleaf => exact hleaf.elim
      | tuple hvs => rw [eq_of_allOwn hvs hv]
  | .ref _, _, _, hv | .nan _, _, _, hv => hv.elim
  | .null, w, h, _ | .bool _, w, h, _ | .int _, w, h, _ | .float _, w, h, _ | .text _, w, h, _
  | .bytes _, w, h, _ | .date _, w, h, _ | .moment _, w, h, _ => by
      cases h.rel
      rfl

/-- So are several of them. -/
theorem eq_of_allOwn {s t : Store} : ∀ {vs ws : List Value}, List.Forall₂ (Alike s t) vs ws →
    AllOwn vs → vs = ws
  | [], _, h, _ => by
      cases h
      rfl
  | v :: vs, _, h, hvs => by
      cases h with
      | cons hv hrest => rw [hv.eq_of_isOwn hvs.1, eq_of_allOwn hrest hvs.2]

end

/-- What two values that are apart from the containers around them are made of. -/
inductive Apart.Shape (s t : Store) (around around' : List Nat) : Value → Value → Prop
  | leaf {v} : v.IsLeaf → Shape s t around around' v v
  | tuple {vs ws} : List.Forall₂ (Apart s t around around') vs ws →
      Shape s t around around' (.tuple vs) (.tuple ws)
  | list {m n vs ws} : m ∉ around → n ∉ around' → s.get m = .list vs → t.get n = .list ws →
      List.Forall₂ (Apart s t (m :: around) (n :: around')) vs ws →
      Shape s t around around' (.ref m) (.ref n)
  | mapping {m n es fs} : m ∉ around → n ∉ around' → s.get m = .mapping es → t.get n = .mapping fs →
      List.Forall₂ (SameEntry (Apart s t (m :: around) (n :: around'))) es fs →
      Shape s t around around' (.ref m) (.ref n)
  | ordered {m n es fs} : m ∉ around → n ∉ around' → s.get m = .ordered es → t.get n = .ordered fs →
      List.Forall₂ (SameEntry (Apart s t (m :: around) (n :: around'))) es fs →
      List.Forall₂ (Apart s t (m :: around) (n :: around')) (es.map .pair) (fs.map .pair) →
      Shape s t around around' (.ref m) (.ref n)

namespace Apart

variable {s t : Store} {around around' : List Nat} {v w : Value}

/-- What is written out inside some containers is written out by itself. -/
theorem twin (h : Apart s t around around' v w) : Twin s t v w :=
  ⟨h.alike, h.left.outermost, h.right.outermost⟩

/-- Values one after the other, each of which can be written out on its side. -/
theorem forall₂ {vs ws : List Value} (h : List.Forall₂ (Alike s t) vs ws)
    (hvs : ∀ v ∈ vs, s.Fresh around v) (hws : ∀ w ∈ ws, t.Fresh around' w) :
    List.Forall₂ (Apart s t around around') vs ws := by
  induction h with
  | nil => exact .nil
  | cons hvw _ ih =>
      obtain ⟨hv, hvs⟩ := List.forall_mem_cons.mp hvs
      obtain ⟨hw, hws⟩ := List.forall_mem_cons.mp hws
      exact .cons ⟨hvw, hv, hw⟩ (ih hvs hws)

/-- Entries with alike keys have the same keys, since these are the same in all stores. -/
theorem forall₂_entries {es fs : List (Value × Value)}
    (h : List.Forall₂ (EntryRel (Alike s t)) es fs)
    (hes : ∀ e ∈ es, e.1.IsOwn ∧ s.Fresh around e.1 ∧ s.Fresh around e.2)
    (hfs : ∀ f ∈ fs, f.1.IsOwn ∧ t.Fresh around' f.1 ∧ t.Fresh around' f.2) :
    List.Forall₂ (SameEntry (Apart s t around around')) es fs := by
  induction h with
  | nil => exact .nil
  | cons hef _ ih =>
      obtain ⟨⟨hown, hek, he⟩, hes⟩ := List.forall_mem_cons.mp hes
      obtain ⟨⟨-, hfk, hf⟩, hfs⟩ := List.forall_mem_cons.mp hfs
      exact .cons ⟨hef.1.eq_of_isOwn hown, hown, ⟨hef.1, hek, hfk⟩, hef.2, he, hf⟩ (ih hes hfs)

/-- So are their pairs. -/
theorem forall₂_pairs {es fs : List (Value × Value)} (h : List.Forall₂ (EntryRel (Alike s t)) es fs)
    (hes : ∀ e ∈ es, s.Fresh around (.pair e)) (hfs : ∀ f ∈ fs, t.Fresh around' (.pair f)) :
    List.Forall₂ (Apart s t around around') (es.map .pair) (fs.map .pair) := by
  refine forall₂ (List.forall₂_map_left_iff.mpr (List.forall₂_map_right_iff.mpr ?_))
    (List.forall_mem_map.mpr hes) (List.forall_mem_map.mpr hfs)
  exact h.imp fun e f hef => .of_rel (.tuple (.cons hef.1 (.cons hef.2 .nil)))

/-- What values apart from the containers around them are made of. -/
theorem shape (h : Apart s t around around' v w) : Shape s t around around' v w := by
  obtain ⟨halike, hv, hw⟩ := h
  cases halike.rel with
  | leaf hleaf => exact .leaf hleaf
  | nan m n =>
      obtain ⟨depth, hnan⟩ := hv.unfolds
      cases depth <;> exact hnan.elim
  | tuple hvs => exact .tuple (forall₂ hvs hv.tuple hw.tuple)
  | @ref m n hc =>
      have hm := hv.inside
      have hn := hw.inside
      generalize hsm : s.get m = c at hc hm
      generalize htn : t.get n = d at hc hn
      cases hc with
      | list hvs => exact .list hv.notMem hw.notMem hsm htn (forall₂ hvs hm hn)
      | mapping hes => exact .mapping hv.notMem hw.notMem hsm htn (forall₂_entries hes hm hn)
      | @ordered es fs hes =>
          have hsplit : ∀ {u : Store} {inside : List Nat} {gs : List (Value × Value)},
              (∀ g ∈ gs, g.1.IsOwn ∧ u.Fresh inside (.pair g)) →
              ∀ g ∈ gs, g.1.IsOwn ∧ u.Fresh inside g.1 ∧ u.Fresh inside g.2 := fun h g hg =>
            ⟨(h g hg).1, (h g hg).2.tuple _ (by simp), (h g hg).2.tuple _ (by simp)⟩
          exact .ordered hv.notMem hw.notMem hsm htn (forall₂_entries hes (hsplit hm) (hsplit hn))
            (forall₂_pairs hes (fun e he => (hm e he).2) fun f hf => (hn f hf).2)
      | set => exact hm.elim

end Apart

section Lists

variable {α β γ δ : Type} {R : α → β → Prop} {as : List α} {bs : List β}

theorem map_eq_of_forall₂ {f : α → γ} {g : β → γ} (h : List.Forall₂ R as bs)
    (hfg : ∀ a b, R a b → f a = g b) : as.map f = bs.map g := by
  induction h with
  | nil => rfl
  | cons hab _ ih => rw [List.map_cons, List.map_cons, hfg _ _ hab, ih]

theorem any_eq_of_forall₂ {f : α → Bool} {g : β → Bool} (h : List.Forall₂ R as bs)
    (hfg : ∀ a b, R a b → f a = g b) : as.any f = bs.any g := by
  induction h with
  | nil => rfl
  | cons hab _ ih => rw [List.any_cons, List.any_cons, hfg _ _ hab, ih]

theorem all_eq_of_forall₂ {f : α → Bool} {g : β → Bool} (h : List.Forall₂ R as bs)
    (hfg : ∀ a b, R a b → f a = g b) : as.all f = bs.all g := by
  induction h with
  | nil => rfl
  | cons hab _ ih => rw [List.all_cons, List.all_cons, hfg _ _ hab, ih]

theorem isEmpty_eq_of_forall₂ (h : List.Forall₂ R as bs) : as.isEmpty = bs.isEmpty := by
  cases h <;> rfl

/-- Things beside related things, in pairs. -/
theorem forall₂_zip (h : List.Forall₂ R as bs) (cs : List γ) :
    List.Forall₂ (fun p q => p.1 = q.1 ∧ R p.2 q.2) (cs.zip as) (cs.zip bs) := by
  induction h generalizing cs with
  | nil => simp
  | cons hab _ ih =>
      cases cs with
      | nil => exact .nil
      | cons c rest => exact .cons ⟨rfl, hab⟩ (ih rest)

theorem forall_left_of_forall₂ {P : α → Prop} (h : List.Forall₂ R as bs)
    (hP : ∀ a b, R a b → P a) : ∀ a ∈ as, P a := by
  induction h with
  | nil => exact fun _ ha => nomatch ha
  | cons hab _ ih => exact List.forall_mem_cons.mpr ⟨hP _ _ hab, ih⟩

/-- Each thing on the right is related to one on the left. -/
theorem exists_of_forall₂ (h : List.Forall₂ R as bs) : ∀ b ∈ bs, ∃ a ∈ as, R a b := by
  induction h with
  | nil => exact fun _ hb => nomatch hb
  | @cons a _ _ _ hab _ ih =>
      refine List.forall_mem_cons.mpr ⟨⟨a, List.mem_cons_self, hab⟩, fun b hb => ?_⟩
      obtain ⟨a', ha', hab'⟩ := ih b hb
      exact ⟨a', List.mem_cons_of_mem _ ha', hab'⟩

/-- What is kept on one side is kept on the other. -/
theorem forall₂_filter {p : α → Bool} {q : β → Bool} (h : List.Forall₂ R as bs)
    (hpq : ∀ a b, R a b → p a = q b) : List.Forall₂ R (as.filter p) (bs.filter q) := by
  induction h with
  | nil => exact .nil
  | @cons a b _ _ hab _ ih =>
      rw [List.filter_cons, List.filter_cons, hpq a b hab]
      split
      · exact .cons hab ih
      · exact ih

/-- What is found for some things is found on both sides, and related, or on neither. -/
theorem forall₂_filterMap {R : β → γ → Prop} {f : α → Option β} {g : α → Option γ}
    (hfg : ∀ a, Option.Rel R (f a) (g a)) (as : List α) :
    List.Forall₂ R (as.filterMap f) (as.filterMap g) := by
  induction as with
  | nil => exact .nil
  | cons a rest ih =>
      have ha := hfg a
      rw [List.filterMap_cons, List.filterMap_cons]
      generalize f a = x, g a = y at ha ⊢
      cases ha with
      | none => exact ih
      | some hbc => exact .cons hbc ih

theorem optionRel_mono {Q : α → β → Prop} {x : Option α} {y : Option β} (h : Option.Rel R x y)
    (hRQ : ∀ a b, R a b → Q a b) : Option.Rel Q x y := by
  cases h with
  | some hab => exact .some (hRQ _ _ hab)
  | none => exact .none

theorem optionRel_map {Q : γ → δ → Prop} {f : α → γ} {g : β → δ} {x : Option α} {y : Option β}
    (h : Option.Rel R x y) (hfg : ∀ a b, R a b → Q (f a) (g b)) :
    Option.Rel Q (x.map f) (y.map g) := by
  cases h with
  | some hab => exact .some (hfg _ _ hab)
  | none => exact .none

/-- What is found with what was found is related, or missing on both sides. -/
theorem optionRel_bind {Q : γ → δ → Prop} {f : α → Option γ} {g : β → Option δ} {x : Option α}
    {y : Option β} (h : Option.Rel R x y) (hfg : ∀ a b, R a b → Option.Rel Q (f a) (g b)) :
    Option.Rel Q (x.bind f) (y.bind g) := by
  cases h with
  | some hab => exact hfg _ _ hab
  | none => exact .none

/-- What is asked of something that may be missing has one answer. -/
theorem optionRel_elim {f : Option α → γ} {g : Option β → γ} {x : Option α} {y : Option β}
    (h : Option.Rel R x y) (hnone : f none = g none)
    (hsome : ∀ a b, R a b → f (some a) = g (some b)) : f x = g y := by
  cases h with
  | some hab => exact hsome _ _ hab
  | none => exact hnone

end Lists

/-! ### Literals -/

section Literals

variable {s t : Store} {around around' : List Nat}

mutual

/-- If containers are written alike wherever they are apart, so are all values. -/
theorem Apart.literalWith {f g : Nat → String}
    (hfg : ∀ m n, Apart s t around around' (.ref m) (.ref n) → f m = g n) :
    ∀ {v w : Value}, Apart s t around around' v w → v.literalWith f = w.literalWith g
  | .tuple _, _, h => by
      cases h.shape with
      | leaf hleaf => exact hleaf.elim
      | tuple hvs => exact congrArg tupled (literalsWith_apart hfg hvs)
  | .ref _, _, h => by
      cases h.shape with
      | leaf hleaf => exact hleaf.elim
      | list | mapping | ordered => exact hfg _ _ h
  | .nan _, _, h => by
      cases h.shape with
      | leaf hleaf => exact hleaf.elim
  | .null, _, h | .bool _, _, h | .int _, _, h | .float _, _, h | .text _, _, h | .bytes _, _, h
  | .date _, _, h | .moment _, _, h => by
      cases h.shape
      rfl

theorem literalsWith_apart {f g : Nat → String}
    (hfg : ∀ m n, Apart s t around around' (.ref m) (.ref n) → f m = g n) :
    ∀ {vs ws : List Value}, List.Forall₂ (Apart s t around around') vs ws →
      literalsWith f vs = literalsWith g ws
  | [], _, h => by
      cases h
      rfl
  | _ :: _, _, h => by
      cases h with
      | cons hv hvs =>
          rw [literalsWith, literalsWith, hv.literalWith hfg, literalsWith_apart hfg hvs]

end

mutual

/-- The same for whether an integer in them has too many digits. -/
theorem Apart.isOverlongWith {f g : Nat → Bool}
    (hfg : ∀ m n, Apart s t around around' (.ref m) (.ref n) → f m = g n) :
    ∀ {v w : Value}, Apart s t around around' v w → v.isOverlongWith f = w.isOverlongWith g
  | .tuple _, _, h => by
      cases h.shape with
      | leaf hleaf => exact hleaf.elim
      | tuple hvs => exact anyOverlongWith_apart hfg hvs
  | .ref _, _, h => by
      cases h.shape with
      | leaf hleaf => exact hleaf.elim
      | list | mapping | ordered => exact hfg _ _ h
  | .nan _, _, h => by
      cases h.shape with
      | leaf hleaf => exact hleaf.elim
  | .null, _, h | .bool _, _, h | .int _, _, h | .float _, _, h | .text _, _, h | .bytes _, _, h
  | .date _, _, h | .moment _, _, h => by
      cases h.shape
      rfl

theorem anyOverlongWith_apart {f g : Nat → Bool}
    (hfg : ∀ m n, Apart s t around around' (.ref m) (.ref n) → f m = g n) :
    ∀ {vs ws : List Value}, List.Forall₂ (Apart s t around around') vs ws →
      anyOverlongWith f vs = anyOverlongWith g ws
  | [], _, h => by
      cases h
      rfl
  | _ :: _, _, h => by
      cases h with
      | cons hv hvs =>
          rw [anyOverlongWith, anyOverlongWith, hv.isOverlongWith hfg,
            anyOverlongWith_apart hfg hvs]

end

/-- With the same room, values that are apart from the containers around them have one literal. -/
theorem Apart.literalFrom {room : Nat} {v w : Value} (h : Apart s t around around' v w) :
    literalFrom s room around v = literalFrom t room around' w := by
  induction room generalizing around around' v w with
  | zero => exact h.literalWith fun _ _ _ => rfl
  | succ room ih =>
      refine h.literalWith fun m n hmn => ?_
      unfold Store.literalOf
      cases hmn.shape with
      | leaf hleaf => exact hleaf.elim
      | list hm hn hvs hws hall =>
          simp only [hvs, hws, List.contains_eq_mem, hm, hn, decide_false, Bool.false_eq_true, if_false,
            map_eq_of_forall₂ hall fun _ _ h => ih h]
      | mapping hm hn hes hfs hall =>
          simp only [hes, hfs, List.contains_eq_mem, hm, hn, decide_false, Bool.false_eq_true, if_false,
            map_eq_of_forall₂ hall fun _ _ h => congrArg₂ (· ++ ": " ++ ·) (ih h.keyed) (ih h.value)]
      | ordered hm hn hes hfs hall _ =>
          simp only [hes, hfs, List.contains_eq_mem, hm, hn, decide_false, Bool.false_eq_true, if_false,
            isEmpty_eq_of_forall₂ hall, map_eq_of_forall₂ hall fun _ _ h =>
              congrArg₂ (fun k v => "(" ++ k ++ ", " ++ v ++ ")") (ih h.keyed) (ih h.value)]

/-- And in both an integer has too many digits, or in neither. -/
theorem Apart.overlongFrom {room : Nat} {v w : Value} (h : Apart s t around around' v w) :
    overlongFrom s room around v = overlongFrom t room around' w := by
  induction room generalizing around around' v w with
  | zero => exact h.isOverlongWith fun _ _ _ => rfl
  | succ room ih =>
      refine h.isOverlongWith fun m n hmn => ?_
      unfold Store.isOverlongOf
      cases hmn.shape with
      | leaf hleaf => exact hleaf.elim
      | list hm hn hvs hws hall =>
          simp only [hvs, hws, List.contains_eq_mem, hm, hn, decide_false,
            any_eq_of_forall₂ hall fun _ _ h => ih h]
      | mapping hm hn hes hfs hall | ordered hm hn hes hfs hall _ =>
          simp only [hes, hfs, List.contains_eq_mem, hm, hn, decide_false,
            any_eq_of_forall₂ hall fun _ _ h => congrArg₂ (· || ·) (ih h.keyed) (ih h.value)]

/-- With the room that the stores give they have one literal too, since neither is cut off. -/
theorem Apart.literalFrom_room {v w : Value} (h : Apart s t around around' v w) :
    YamlAudit.literalFrom s s.room around v = YamlAudit.literalFrom t t.room around' w := by
  have hs := s.outside_lt_room around
  have ht := t.outside_lt_room around'
  rw [literalFrom_congr hs (hs.trans_le (Nat.le_max_left _ t.room)),
    literalFrom_congr ht (ht.trans_le (Nat.le_max_right s.room _))]
  exact h.literalFrom

/-- Nor is the look for digits. -/
theorem Apart.overlongFrom_room {v w : Value} (h : Apart s t around around' v w) :
    YamlAudit.overlongFrom s s.room around v = YamlAudit.overlongFrom t t.room around' w := by
  have hs := s.outside_lt_room around
  have ht := t.outside_lt_room around'
  rw [overlongFrom_congr hs (hs.trans_le (Nat.le_max_left _ t.room)),
    overlongFrom_congr ht (ht.trans_le (Nat.le_max_right s.room _))]
  exact h.overlongFrom

end Literals

namespace Twin

variable {s t : Store} {v w : Value}

/-- Twins have one literal. -/
theorem literal (h : Twin s t v w) : Datum.literal ⟨s, v⟩ = Datum.literal ⟨t, w⟩ :=
  h.literalFrom_room

/-- In both an integer has too many digits, or in neither. -/
theorem isOverlong (h : Twin s t v w) : Datum.isOverlong ⟨s, v⟩ = Datum.isOverlong ⟨t, w⟩ :=
  h.overlongFrom_room

/-- Twins have one text. -/
theorem text (h : Twin s t v w) : Datum.text ⟨s, v⟩ = Datum.text ⟨t, w⟩ := by
  have hliteral := h.literal
  unfold Datum.text
  cases h.shape with
  | leaf =>
      cases v with
      | text | date | moment => rfl
      | _ => exact hliteral
  | _ => exact hliteral

/-- It is told in messages, or in both it has too many digits. -/
theorem said (h : Twin s t v w) : Datum.said ⟨s, v⟩ = Datum.said ⟨t, w⟩ := by
  rw [Datum.said, Datum.said, Datum.literal?, Datum.literal?, h.isOverlong, h.literal]

/-- So is their text. -/
theorem told (h : Twin s t v w) : Datum.told ⟨s, v⟩ = Datum.told ⟨t, w⟩ := by
  rw [Datum.told, Datum.told, Datum.text?, Datum.text?, h.isOverlong, h.text]

/-- A value without a part is its own twin. -/
theorem leaf (h : v.IsLeaf) : Twin s t v v :=
  ⟨.leaf h, .of_unfolds (.of_isLeaf h), .of_unfolds (.of_isLeaf h)⟩

end Twin

/-! ### What is asked of twins -/

/-- Data in two stores with values that are twins. -/
inductive TwinData (s t : Store) : Datum → Datum → Prop
  | intro {v w} : Twin s t v w → TwinData s t ⟨s, v⟩ ⟨t, w⟩

namespace Twin

variable {s t : Store} {v w : Value} {es fs : List (Value × Value)}

/-- Twins are lists of twins, or neither is a list. -/
theorem items? (h : Twin s t v w) :
    Option.Rel (List.Forall₂ (Twin s t)) (Datum.items? ⟨s, v⟩) (Datum.items? ⟨t, w⟩) := by
  unfold Datum.items? Datum.container?
  cases h.shape with
  | leaf hleaf => cases v <;> first | exact .none | exact hleaf.elim
  | tuple => exact .none
  | list _ _ hvs hws hall =>
      simp only [hvs, hws]
      exact .some (hall.imp fun _ _ h => h.twin)
  | mapping _ _ hes hfs | ordered _ _ hes hfs =>
      simp only [hes, hfs]
      exact .none

/-- They are mappings with the same keys, or neither is a mapping. -/
theorem entries? (h : Twin s t v w) :
    Option.Rel (List.Forall₂ (SameEntry (Twin s t))) (Datum.entries? ⟨s, v⟩)
      (Datum.entries? ⟨t, w⟩) := by
  unfold Datum.entries? Datum.container?
  cases h.shape with
  | leaf hleaf => cases v <;> first | exact .none | exact hleaf.elim
  | tuple => exact .none
  | list _ _ hvs hws =>
      simp only [hvs, hws]
      exact .none
  | mapping _ _ hes hfs hall | ordered _ _ hes hfs hall =>
      simp only [hes, hfs]
      exact .some (hall.imp fun _ _ h => h.mono fun _ _ h => h.twin)

/-- Under a key there are twins, or there is nothing. -/
theorem lookupKey (h : List.Forall₂ (SameEntry (Twin s t)) es fs) (key : Value) :
    Option.Rel (Twin s t) (YamlAudit.lookupKey key es) (YamlAudit.lookupKey key fs) := by
  induction h with
  | nil => exact .none
  | cons hef _ ih =>
      rw [YamlAudit.lookupKey, YamlAudit.lookupKey, hef.key]
      split
      · exact .some hef.value
      · exact ih

/-- What stands under a word of one stands under the word of the other. -/
theorem member? (h : Twin s t v w) (name : String) :
    Option.Rel (TwinData s t) (Datum.member? ⟨s, v⟩ name) (Datum.member? ⟨t, w⟩ name) :=
  optionRel_map (optionRel_bind h.entries? fun _ _ hes => lookupKey hes (.text name))
    fun _ _ h => .intro h

/-- Twins are of one kind. -/
theorem kindName (h : Twin s t v w) : Datum.kindName ⟨s, v⟩ = Datum.kindName ⟨t, w⟩ :=
  h.alike.kindName

theorem isMapping (h : Twin s t v w) : Datum.isMapping ⟨s, v⟩ = Datum.isMapping ⟨t, w⟩ :=
  optionRel_elim h.entries? rfl fun _ _ _ => rfl

/-- The entries of twins have the same keys, or what was asked for is missing from both. -/
theorem entriesBy (h : Twin s t v w) (word : String) :
    Except.Rel (List.Forall₂ (SameEntry (Twin s t))) (Datum.entriesBy ⟨s, v⟩ word)
      (Datum.entriesBy ⟨t, w⟩ word) := by
  have hentries := h.entries?
  unfold Datum.entriesBy
  rw [h.kindName]
  generalize Datum.entries? ⟨s, v⟩ = x, Datum.entries? ⟨t, w⟩ = y at hentries ⊢
  cases hentries with
  | none => exact .error _
  | some hes => exact .ok hes

/-- What stands under a word of twins is twins, if both are mappings. -/
theorem under (h : Twin s t v w) (word : String) :
    Except.Rel (Option.Rel (TwinData s t)) (Datum.under ⟨s, v⟩ word) (Datum.under ⟨t, w⟩ word) :=
  (h.entriesBy "get").map fun _ _ hes =>
    optionRel_map (lookupKey hes (.text word)) fun _ _ h => .intro h

/-- The keys are twins too. -/
theorem forall₂_keys (h : List.Forall₂ (SameEntry (Twin s t)) es fs) :
    List.Forall₂ (Twin s t) (es.map Prod.fst) (fs.map Prod.fst) :=
  List.forall₂_map_left_iff.mpr (List.forall₂_map_right_iff.mpr (h.imp fun _ _ h => h.keyed))

/-- Leaves are gone through into leaves. -/
theorem forall₂_leaves {vs : List Value} (h : ∀ v ∈ vs, v.IsLeaf) : List.Forall₂ (Twin s t) vs vs :=
  List.forall₂_same.mpr fun v hv => leaf (h v hv)

/-- What can be gone through in twins are twins, one after the other. -/
theorem parts (h : Twin s t v w) :
    Except.Rel (List.Forall₂ (Twin s t)) (Datum.parts ⟨s, v⟩) (Datum.parts ⟨t, w⟩) := by
  cases h.shape with
  | leaf hleaf =>
      cases v with
      | text a => exact .ok (forall₂_leaves (by simp [Value.IsLeaf]))
      | bytes bs => exact .ok (forall₂_leaves (by simp [Value.IsLeaf]))
      | nan | tuple | ref => exact hleaf.elim
      | _ => exact .error _
  | tuple hall => exact .ok hall
  | list _ _ hvs hws hall =>
      unfold Datum.parts Datum.sequence? Store.sequence?
      simp only [hvs, hws]
      exact .ok (hall.imp fun _ _ h => h.twin)
  | mapping _ _ hes hfs hall | ordered _ _ hes hfs hall =>
      unfold Datum.parts Datum.sequence? Store.sequence? Datum.container?
      simp only [hes, hfs]
      exact .ok (forall₂_keys (hall.imp fun _ _ h => h.mono fun _ _ h => h.twin))

theorem size (h : Twin s t v w) : Datum.size ⟨s, v⟩ = Datum.size ⟨t, w⟩ := by
  have hparts := h.parts
  unfold Datum.size
  rw [h.kindName]
  generalize Datum.parts ⟨s, v⟩ = x, Datum.parts ⟨t, w⟩ = y at hparts ⊢
  cases hparts with
  | ok hall => exact congrArg Except.ok hall.length_eq
  | error => rfl

/-- Twins both count as true, or neither does. -/
theorem isTruthy (h : Twin s t v w) : Datum.isTruthy ⟨s, v⟩ = Datum.isTruthy ⟨t, w⟩ := by
  have hparts := h.parts
  unfold Datum.isTruthy
  generalize Datum.parts ⟨s, v⟩ = x, Datum.parts ⟨t, w⟩ = y at hparts ⊢
  cases hparts with
  | ok hall =>
      have hempty := congrArg (!·) (isEmpty_eq_of_forall₂ hall)
      cases h.shape with
      | leaf hleaf => cases v <;> first | rfl | exact hleaf.elim | exact hempty
      | tuple | list | mapping | ordered => exact hempty
  | error =>
      cases h.shape with
      | leaf hleaf => cases v <;> rfl
      | tuple | list | mapping | ordered => rfl

/-- Twins are one key, or the same keeps both from being keys. -/
theorem asKey (h : Twin s t v w) : Datum.asKey ⟨s, v⟩ = Datum.asKey ⟨t, w⟩ := by
  unfold Datum.asKey
  rw [← h.alike.unhashable?]
  cases hkind : Value.unhashable? s v with
  | some kind => rfl
  | none =>
      obtain ⟨depth, hunfolds⟩ := h.left.unfolds
      exact congrArg Except.ok (h.alike.eq_of_isOwn (Value.isOwn_of_hashable hkind hunfolds))

/-- The one key is a twin of itself. -/
theorem asKey_twins (h : Twin s t v w) :
    Except.Rel (fun k l => k = l ∧ Twin s t k l) (Datum.asKey ⟨s, v⟩) (Datum.asKey ⟨t, w⟩) := by
  have hkey := h.asKey
  unfold Datum.asKey at hkey ⊢
  rw [← h.alike.unhashable?] at hkey ⊢
  generalize Value.unhashable? s v = kind at hkey ⊢
  cases kind with
  | some kind => exact .error _
  | none => exact .ok ⟨Except.ok.inj hkey, h⟩

theorem finds (h : Twin s t v w) {key : Value} (hkey : key.IsOwn) :
    Datum.finds ⟨s, v⟩ key = Datum.finds ⟨t, w⟩ key :=
  h.alike.finds hkey

/-- Neither is a set. -/
theorem ne_set (h : Twin s t v w) : (∀ items, Datum.container? ⟨s, v⟩ ≠ some (.set items)) ∧
    ∀ items, Datum.container? ⟨t, w⟩ ≠ some (.set items) := by
  unfold Datum.container?
  cases h.shape with
  | leaf hleaf => cases v <;> first | exact hleaf.elim | simp
  | tuple => simp
  | list _ _ hv hw | mapping _ _ hv hw | ordered _ _ hv hw => simp [hv, hw]

/-- What stands under a word of one stands under the word of the other, if the word is found. -/
theorem found? (h : Twin s t v w) (word : String) :
    Except.Rel (Option.Rel (TwinData s t)) (Datum.found? ⟨s, v⟩ word) (Datum.found? ⟨t, w⟩ word) := by
  unfold Datum.found?
  rw [h.finds (show (Value.text word).IsOwn from trivial)]
  refine (Except.Rel.refl _).bind ?_
  rintro found _ rfl
  cases found with
  | false => exact .ok .none
  | true =>
      have hentries := h.entries?
      obtain ⟨hs, ht⟩ := h.ne_set
      generalize Datum.entries? ⟨s, v⟩ = x, Datum.entries? ⟨t, w⟩ = y at hentries ⊢
      cases hentries with
      | some hes => exact .ok (optionRel_map (lookupKey hes (.text word)) fun _ _ h => .intro h)
      | none =>
          simp only [Bool.not_true, Bool.false_eq_true, if_false, h.kindName]
          exact .error _

theorem pattern (h : Twin s t v w) : Site.pattern ⟨s, v⟩ = Site.pattern ⟨t, w⟩ :=
  h.alike.pattern

/-! ### Comparisons -/

/-- Twins are one number, or neither is a number. -/
theorem isNumber (h : Twin s t v w) : v = w ∨ v.isNumber = false ∧ w.isNumber = false := by
  cases h.shape with
  | leaf => exact .inl rfl
  | tuple | list | mapping | ordered => exact .inr ⟨rfl, rfl⟩

/-- Twins are one truth value, or neither is one. -/
theorem isBool (h : Twin s t v w) : (∃ b, v = .bool b ∧ w = .bool b) ∨
    (∀ b, v = .bool b → False) ∧ ∀ b, w = .bool b → False := by
  cases h.shape with
  | leaf =>
      cases v with
      | bool b => exact .inl ⟨b, rfl, rfl⟩
      | _ => exact .inr ⟨by simp, by simp⟩
  | tuple | list | mapping | ordered => exact .inr ⟨by simp, by simp⟩

/-- A number stands in a relation to both or to neither. -/
theorem compares (h : Twin s t v w) (d : Datum) (relation : Relation) :
    d.compares relation ⟨s, v⟩ = d.compares relation ⟨t, w⟩ := by
  unfold Datum.compares
  rw [h.kindName]
  rcases h.isNumber with rfl | ⟨hv, hw⟩
  · rfl
  · simp only [hv, hw, Bool.and_false, Bool.false_eq_true, if_false]

theorem sameNumber (h : Twin s t v w) (n : Value) : v.sameNumber n = w.sameNumber n := by
  cases h.shape with
  | leaf => rfl
  | tuple | list | mapping | ordered => rfl

/-- A number is a multiple of both or of neither. -/
theorem isMultiple (h : Twin s t v w) (d : Datum) :
    d.isMultiple ⟨s, v⟩ = d.isMultiple ⟨t, w⟩ := by
  have hkind := h.kindName
  unfold Datum.isMultiple
  rw [hkind]
  cases h.shape with
  | leaf => rfl
  | tuple | list | mapping | ordered => rfl

/-- Twins have the same positions, with twins there. -/
theorem sequence? (h : Twin s t v w) :
    Option.Rel (List.Forall₂ (Twin s t)) (s.sequence? v) (t.sequence? w) := by
  unfold Store.sequence?
  cases h.shape with
  | leaf hleaf =>
      cases v with
      | bytes => exact .some (forall₂_leaves (by simp [Value.IsLeaf]))
      | nan | tuple | ref => exact hleaf.elim
      | _ => exact .none
  | tuple hall => exact .some hall
  | list _ _ hvs hws hall =>
      simp only [hvs, hws]
      exact .some (hall.imp fun _ _ h => h.twin)
  | mapping _ _ hes hfs | ordered _ _ hes hfs =>
      simp only [hes, hfs]
      exact .none

end Twin

section Comparisons

variable {s t data : Store} {v w : Value} {agree agree' : Value → Value → Bool}

/-- Lists of twins agree with the same lists. -/
theorem agreeing_twins {vs ws : List Value} (h : List.Forall₂ (Twin s t) vs ws)
    (hagree : ∀ v w, Twin s t v w → ∀ x, agree v x = agree' w x) (xs : List Value) :
    agreeing agree vs xs = agreeing agree' ws xs := by
  induction h generalizing xs with
  | nil => cases xs <;> rfl
  | cons hvw _ ih =>
      cases xs with
      | nil => rfl
      | cons x xs => rw [agreeing, agreeing, hagree _ _ hvw, ih]

/-- So do entries of twins. -/
theorem agreeingEntries_twins {es fs : List (Value × Value)}
    (h : List.Forall₂ (SameEntry (Twin s t)) es fs)
    (hagree : ∀ v w, Twin s t v w → ∀ x, agree v x = agree' w x) (xs : List (Value × Value)) :
    agreeingEntries agree es xs = agreeingEntries agree' fs xs := by
  rw [agreeingEntries, agreeingEntries, h.length_eq]
  refine congrArg (_ && ·) (all_eq_of_forall₂ h fun e f hef => ?_)
  rw [hef.key]
  cases lookupKey f.1 xs with
  | none => rfl
  | some x => exact hagree _ _ hef.value x

/-- Twins equal the same values of another store. -/
theorem Twin.equalFrom (h : Twin s t v w) (fuel : Nat) (x : Value) :
    YamlAudit.equalFrom s data false fuel v x = YamlAudit.equalFrom t data false fuel w x := by
  induction fuel generalizing v w x with
  | zero => cases h.shape <;> cases x <;> rfl
  | succ fuel ih =>
      have hagree : ∀ v w, Twin s t v w → ∀ x, YamlAudit.equalFrom s data false fuel v x =
          YamlAudit.equalFrom t data false fuel w x := fun _ _ h x => ih h x
      cases h.shape with
      | leaf hleaf => cases v <;> cases x <;> first | rfl | exact hleaf.elim
      | tuple hall =>
          cases x with
          | tuple => exact agreeing_twins hall hagree _
          | _ => rfl
      | list _ _ hvs hws hall =>
          have hall := hall.imp fun _ _ h => h.twin
          cases x with
          | ref k =>
              simp only [YamlAudit.equalFrom, hvs, hws]
              cases data.get k with
              | list => exact congrArg _ (agreeing_twins hall hagree _)
              | _ => rfl
          | _ => rfl
      | mapping _ _ hes hfs hall | ordered _ _ hes hfs hall =>
          have hall := hall.imp fun _ _ h => h.mono fun _ _ h => h.twin
          cases x with
          | ref k =>
              simp only [YamlAudit.equalFrom, hes, hfs]
              cases data.get k with
              | mapping | ordered => exact congrArg _ (agreeingEntries_twins hall hagree _)
              | _ => rfl
          | _ => rfl

/-- Whether two values that are no booleans are alike: items or entries, if both have some, or else the
values as they are. -/
def alikeInside (s t : Store) (fuel : Nat) (a b : Value) : Bool :=
  match s.sequence? a, t.sequence? b with
  | some as, some bs => agreeing (alikeFrom s t false fuel) as bs
  | _, _ =>
    match s.entries? a, t.entries? b with
    | some as, some bs => agreeingEntries (alikeFrom s t false fuel) as bs
    | _, _ => equalFrom s t false (fuel + 1) a b

/-- Booleans are alike only each other; all else is alike as far as what lies inside is. -/
theorem alikeFrom_succ (s t : Store) (fuel : Nat) (a b : Value) :
    alikeFrom s t false (fuel + 1) a b =
      match a, b with
      | .bool x, .bool y => x == y
      | .bool _, _ | _, .bool _ => false
      | _, _ => alikeInside s t fuel a b := by
  simp only [alikeFrom, Bool.false_and, Bool.false_or]
  rfl

/-- They are alike to the same values of another store. -/
theorem Twin.alikeFrom (h : Twin s t v w) (fuel : Nat) (x : Value) :
    YamlAudit.alikeFrom s data false fuel v x = YamlAudit.alikeFrom t data false fuel w x := by
  induction fuel generalizing v w x with
  | zero => rfl
  | succ fuel ih =>
      have hagree : ∀ v w, Twin s t v w → ∀ x, YamlAudit.alikeFrom s data false fuel v x =
          YamlAudit.alikeFrom t data false fuel w x := fun _ _ h x => ih h x
      -- both have items, or entries, or neither; then they are compared as they are
      have hinside : alikeInside s data fuel v x = alikeInside t data fuel w x := by
        have hsequence := h.sequence?
        have hentries := h.entries?
        unfold alikeInside Store.entries?
        rw [h.equalFrom (fuel + 1) x]
        generalize s.sequence? v = vs, t.sequence? w = ws at hsequence ⊢
        generalize Datum.entries? ⟨s, v⟩ = es, Datum.entries? ⟨t, w⟩ = fs at hentries ⊢
        have hmapping := optionRel_elim (f := fun es => match es, Datum.entries? ⟨data, x⟩ with
          | some as, some bs => agreeingEntries (YamlAudit.alikeFrom s data false fuel) as bs
          | _, _ => YamlAudit.equalFrom t data false (fuel + 1) w x) (g := fun fs =>
          match fs, Datum.entries? ⟨data, x⟩ with
          | some as, some bs => agreeingEntries (YamlAudit.alikeFrom t data false fuel) as bs
          | _, _ => YamlAudit.equalFrom t data false (fuel + 1) w x) hentries rfl fun es fs hes => by
            cases Datum.entries? ⟨data, x⟩ with
            | none => rfl
            | some xs => exact agreeingEntries_twins hes hagree xs
        cases hsequence with
        | none => exact hmapping
        | some hvs =>
            cases data.sequence? x with
            | none => exact hmapping
            | some xs => exact agreeing_twins hvs hagree xs
      rw [alikeFrom_succ, alikeFrom_succ]
      cases h.shape with
      | leaf hleaf =>
          cases v <;> first | rfl | exact hleaf.elim | (cases x <;> first | rfl | exact hinside)
      | tuple | list | mapping | ordered => cases x <;> first | rfl | exact hinside

theorem Twin.alikeAcross (h : Twin s t v w) (x : Value) :
    YamlAudit.alikeAcross s data v x = YamlAudit.alikeAcross t data w x :=
  h.alikeFrom _ x

end Comparisons

end YamlAudit
