import YamlAudit.Proofs.Value.Operands
import YamlAudit.Schema.Site

/-!
# Value — values that are alike

Values of two stores that cannot be told apart once they are written out: their texts, numbers and
dates are the same, and their containers hold, in the same order, what is alike.  Nothing is said of
which containers are shared, and a container may lie inside itself, so `Alike` is the greatest
relation of this kind.

What can be asked of a value has the same answer for values that are alike: what lies under a text
(`Alike.member?`), whether a key is found that is the same in all stores (`Alike.finds`), what can be
gone through (`Alike.parts`) and which pattern the value stands for (`Alike.pattern`).
-/

namespace YamlAudit

/-- Two computations give what is related, or fail in the same way. -/
inductive Except.Rel {ε α β : Type} (R : α → β → Prop) : Except ε α → Except ε β → Prop
  | ok {a b} : R a b → Except.Rel R (.ok a) (.ok b)
  | error (e : ε) : Except.Rel R (.error e) (.error e)

/-- Computations that go on alike from results that are related. -/
theorem Except.Rel.bind {ε α β γ δ : Type} {R : α → β → Prop} {Q : γ → δ → Prop} {x : Except ε α}
    {y : Except ε β} {f : α → Except ε γ} {g : β → Except ε δ} (h : Except.Rel R x y)
    (hf : ∀ a b, R a b → Except.Rel Q (f a) (g b)) : Except.Rel Q (x >>= f) (y >>= g) := by
  cases h with
  | ok h => exact hf _ _ h
  | error e => exact .error e

theorem Except.Rel.map {ε α β γ δ : Type} {R : α → β → Prop} {Q : γ → δ → Prop} {x : Except ε α}
    {y : Except ε β} {f : α → γ} {g : β → δ} (h : Except.Rel R x y)
    (hf : ∀ a b, R a b → Q (f a) (g b)) : Except.Rel Q (x.map f) (y.map g) := by
  cases h with
  | ok h => exact .ok (hf _ _ h)
  | error e => exact .error e

theorem Except.Rel.mono {ε α β : Type} {R Q : α → β → Prop} {x : Except ε α} {y : Except ε β}
    (h : Except.Rel R x y) (hRQ : ∀ a b, R a b → Q a b) : Except.Rel Q x y := by
  cases h with
  | ok h => exact .ok (hRQ _ _ h)
  | error e => exact .error e

/-- A computation and itself. -/
theorem Except.Rel.refl {ε α : Type} (x : Except ε α) : Except.Rel (· = ·) x x := by
  cases x with
  | ok a => exact .ok rfl
  | error e => exact .error e

theorem Except.Rel.eq {ε α : Type} {x y : Except ε α} (h : Except.Rel (· = ·) x y) : x = y := by
  cases h with
  | ok h => rw [h]
  | error e => rfl

/-- What is made of related results, or of the same failure, is one. -/
theorem Except.Rel.bind_eq {ε α β γ : Type} {R : α → β → Prop} {x : Except ε α} {y : Except ε β}
    {f : α → Except ε γ} {g : β → Except ε γ} (h : Except.Rel R x y)
    (hf : ∀ a b, R a b → f a = g b) : x >>= f = y >>= g := by
  cases h with
  | ok h => exact hf _ _ h
  | error e => rfl

section Lists

variable {ε α β γ δ : Type} {R : α → β → Prop} {Q : γ → δ → Prop} {as : List α} {bs : List β}

/-- A map with functions that give what is related, or fail in the same way. -/
theorem Except.Rel.mapM {f : α → Except ε γ} {g : β → Except ε δ} (h : List.Forall₂ R as bs)
    (hfg : ∀ a b, R a b → Except.Rel Q (f a) (g b)) :
    Except.Rel (List.Forall₂ Q) (as.mapM f) (bs.mapM g) := by
  induction h with
  | nil => exact .ok .nil
  | cons hab _ ih =>
      rw [List.mapM_cons, List.mapM_cons]
      exact (hfg _ _ hab).bind fun _ _ hcd => ih.bind fun _ _ hrest => .ok (.cons hcd hrest)

/-- A map with functions that give the same. -/
theorem Except.mapM_eq_of_forall₂ {f : α → Except ε γ} {g : β → Except ε γ}
    (h : List.Forall₂ R as bs) (hfg : ∀ a b, R a b → f a = g b) : as.mapM f = bs.mapM g := by
  induction h with
  | nil => rfl
  | cons hab _ ih => rw [List.mapM_cons, List.mapM_cons, hfg _ _ hab, ih]

/-- What two functions find for some things is found by both, and related, or by neither. -/
theorem Except.Rel.filterMapM {f : α → Except ε (Option γ)} {g : α → Except ε (Option δ)}
    (hfg : ∀ a, Except.Rel (Option.Rel Q) (f a) (g a)) :
    Except.Rel (List.Forall₂ Q) (as.filterMapM f) (as.filterMapM g) := by
  induction as with
  | nil => exact .ok .nil
  | cons a rest ih =>
      rw [List.filterMapM_cons, List.filterMapM_cons]
      refine (hfg a).bind fun x y hxy => ?_
      cases hxy with
      | none => exact ih
      | some hcd => exact ih.bind fun _ _ hrest => .ok (.cons hcd hrest)

end Lists

/-! ### The relation -/

/-- Entries with related keys and values. -/
def EntryRel (R : Value → Value → Prop) (e f : Value × Value) : Prop := R e.1 f.1 ∧ R e.2 f.2

/-- Containers of one kind with related members. -/
inductive Container.Rel (R : Value → Value → Prop) : Container → Container → Prop
  | list {vs ws} : List.Forall₂ R vs ws → Rel R (.list vs) (.list ws)
  | mapping {es fs} : List.Forall₂ (EntryRel R) es fs → Rel R (.mapping es) (.mapping fs)
  | ordered {es fs} : List.Forall₂ (EntryRel R) es fs → Rel R (.ordered es) (.ordered fs)
  | set {vs ws} : List.Forall₂ R vs ws → Rel R (.set vs) (.set ws)

/-- A value that is neither a container nor a tuple and has a text of its own. -/
def Value.IsLeaf : Value → Prop
  | .ref _ | .tuple _ | .nan _ => False
  | _ => True

/-- Values that are the same but for what lies inside, which is related. -/
inductive Value.Rel (s t : Store) (R : Value → Value → Prop) : Value → Value → Prop
  | leaf {v} : v.IsLeaf → Rel s t R v v
  | nan (m n) : Rel s t R (.nan m) (.nan n)
  | tuple {vs ws} : List.Forall₂ R vs ws → Rel s t R (.tuple vs) (.tuple ws)
  | ref {m n} : Container.Rel R (s.get m) (t.get n) → Rel s t R (.ref m) (.ref n)

/-- Values of two stores that say the same. -/
def Alike (s t : Store) (v w : Value) : Prop :=
  ∃ R : Value → Value → Prop, R v w ∧ ∀ v w, R v w → Value.Rel s t R v w

section Mono

variable {R Q : Value → Value → Prop}

theorem EntryRel.mono (hR : ∀ v w, R v w → Q v w) {e f : Value × Value} (h : EntryRel R e f) :
    EntryRel Q e f :=
  ⟨hR _ _ h.1, hR _ _ h.2⟩

theorem Container.Rel.mono (hR : ∀ v w, R v w → Q v w) {c d : Container} (h : Container.Rel R c d) :
    Container.Rel Q c d := by
  cases h with
  | list h => exact .list (h.imp hR)
  | mapping h => exact .mapping (h.imp fun _ _ => .mono hR)
  | ordered h => exact .ordered (h.imp fun _ _ => .mono hR)
  | set h => exact .set (h.imp hR)

/-- What is one step of a relation is one of any wider relation. -/
theorem Value.Rel.mono {s t : Store} (hR : ∀ v w, R v w → Q v w) {v w : Value}
    (h : Value.Rel s t R v w) : Value.Rel s t Q v w := by
  cases h with
  | leaf h => exact .leaf h
  | nan m n => exact .nan m n
  | tuple h => exact .tuple (h.imp hR)
  | ref h => exact .ref (h.mono hR)

end Mono

namespace Alike

variable {s t : Store} {v w : Value}

/-- What is alike is alike for one step more: the relation is one of those it is made of. -/
theorem rel (h : Alike s t v w) : Value.Rel s t (Alike s t) v w := by
  obtain ⟨R, hv, hR⟩ := h
  exact (hR v w hv).mono fun _ _ h => ⟨R, h, hR⟩

/-- Conversely, what is alike for one step and then on is alike. -/
theorem of_rel (h : Value.Rel s t (Alike s t) v w) : Alike s t v w := by
  refine ⟨fun a b => Alike s t a b ∨ a = v ∧ b = w, .inr ⟨rfl, rfl⟩, ?_⟩
  rintro a b (hab | ⟨rfl, rfl⟩)
  · exact hab.rel.mono fun _ _ => .inl
  · exact h.mono fun _ _ => .inl

theorem refl (s : Store) (v : Value) : Alike s s v v := by
  refine ⟨Eq, rfl, ?_⟩
  rintro v _ rfl
  have hsame : ∀ vs : List Value, List.Forall₂ Eq vs vs := fun vs =>
    List.forall₂_same.mpr fun _ _ => rfl
  have hentries : ∀ es : List (Value × Value), List.Forall₂ (EntryRel Eq) es es := fun es =>
    List.forall₂_same.mpr fun _ _ => ⟨rfl, rfl⟩
  cases v with
  | nan m => exact .nan m m
  | tuple vs => exact .tuple (hsame vs)
  | ref n =>
      refine .ref ?_
      cases s.get n with
      | list vs => exact .list (hsame vs)
      | mapping es => exact .mapping (hentries es)
      | ordered es => exact .ordered (hentries es)
      | set vs => exact .set (hsame vs)
  | _ => exact .leaf trivial

theorem leaf (h : v.IsLeaf) : Alike s t v v := of_rel (.leaf h)

theorem ref {m n : Nat} (h : Container.Rel (Alike s t) (s.get m) (t.get n)) :
    Alike s t (.ref m) (.ref n) :=
  of_rel (.ref h)

/-- Nothing but the text itself is alike to a text. -/
theorem eq_text {a : String} (h : Alike s t (.text a) w) : w = .text a := by
  cases h.rel
  rfl

end Alike

mutual

/-- A value that is one key, in whatever store it is: no container lies in it, and nothing that does
not equal itself. -/
def Value.IsOwn : Value → Prop
  | .ref _ | .nan _ => False
  | .tuple items => AllOwn items
  | _ => True

/-- The same of several values. -/
def AllOwn : List Value → Prop
  | [] => True
  | v :: vs => v.IsOwn ∧ AllOwn vs

end

mutual

/-- Such a value is the same key as both or as neither. -/
theorem Alike.sameKey {s t : Store} {v w : Value} (h : Alike s t v w) : ∀ {k : Value}, k.IsOwn →
    v.sameKey k = w.sameKey k
  | .tuple ks, hk => by
      cases h.rel with
      | tuple hvs => exact sameKeys_alike hvs hk
      | _ => rfl
  | .ref _, hk | .nan _, hk => hk.elim
  | .null, _ | .bool _, _ | .int _, _ | .float _, _ | .text _, _ | .bytes _, _ | .date _, _
  | .moment _, _ => by
      cases h.rel <;> rfl

/-- So it is for the values in two tuples. -/
theorem sameKeys_alike {s t : Store} {vs ws : List Value} (h : List.Forall₂ (Alike s t) vs ws) :
    ∀ {ks : List Value}, AllOwn ks → sameKeys vs ks = sameKeys ws ks
  | [], _ => by
      cases h <;> rfl
  | k :: ks, hks => by
      cases h with
      | nil => rfl
      | cons hv hvs => rw [sameKeys, sameKeys, hv.sameKey hks.1, sameKeys_alike hvs hks.2]

end

namespace Alike

variable {s t : Store} {v w : Value}

/-- What is alike is a mapping in both stores or in neither. -/
theorem entries? (h : Alike s t v w) :
    Option.Rel (List.Forall₂ (EntryRel (Alike s t))) (Datum.entries? ⟨s, v⟩)
      (Datum.entries? ⟨t, w⟩) := by
  cases h.rel with
  | leaf hv => cases v <;> first | exact .none | exact hv.elim
  | nan => exact .none
  | tuple => exact .none
  | ref hc =>
      simp only [Datum.entries?, Datum.container?]
      generalize s.get _ = c, t.get _ = d at hc ⊢
      cases hc with
      | list => exact .none
      | mapping hes => exact .some hes
      | ordered hes => exact .some hes
      | set => exact .none

/-- Under a text lies the same, if anything does. -/
theorem lookupKey_text {es fs : List (Value × Value)}
    (h : List.Forall₂ (EntryRel (Alike s t)) es fs) (name : String) :
    Option.Rel (Alike s t) (lookupKey (.text name) es) (lookupKey (.text name) fs) := by
  induction h with
  | nil => exact .none
  | cons hef _ ih =>
      rw [lookupKey, lookupKey, hef.1.sameKey (k := .text name) trivial]
      split
      · exact .some hef.2
      · exact ih

/-- What lies under a name is alike. -/
theorem member? (h : Alike s t v w) (name : String) :
    Option.Rel (fun d e : Datum => d.store = s ∧ e.store = t ∧ Alike s t d.value e.value)
      (Datum.member? ⟨s, v⟩ name) (Datum.member? ⟨t, w⟩ name) := by
  have hes := h.entries?
  unfold Datum.member?
  generalize Datum.entries? ⟨s, v⟩ = es, Datum.entries? ⟨t, w⟩ = fs at hes ⊢
  cases hes with
  | none => exact .none
  | @some es fs hes =>
      have hlookup := lookupKey_text hes name
      simp only [Option.bind_some]
      generalize lookupKey (.text name) es = x, lookupKey (.text name) fs = y at hlookup ⊢
      cases hlookup with
      | none => exact .none
      | some hxy => exact .some ⟨rfl, rfl, hxy⟩

/-- Their types have one name. -/
theorem kindName (h : Alike s t v w) : Datum.kindName ⟨s, v⟩ = Datum.kindName ⟨t, w⟩ := by
  cases h.rel with
  | leaf hv => cases v <;> first | rfl | exact hv.elim
  | nan => rfl
  | tuple => rfl
  | ref hc =>
      simp only [Datum.kindName]
      generalize s.get _ = c, t.get _ = d at hc ⊢
      cases hc <;> rfl

theorem forall₂_leaf {vs : List Value} (h : ∀ v ∈ vs, v.IsLeaf) : List.Forall₂ (Alike s t) vs vs :=
  List.forall₂_same.mpr fun v hv => leaf (h v hv)

/-- Entries that are alike have keys that are. -/
theorem forall₂_keys {es fs : List (Value × Value)}
    (h : List.Forall₂ (EntryRel (Alike s t)) es fs) :
    List.Forall₂ (Alike s t) (es.map Prod.fst) (fs.map Prod.fst) :=
  List.forall₂_map_left_iff.mpr (List.forall₂_map_right_iff.mpr (h.imp fun _ _ h => h.1))

/-- What can be gone through in values that are alike is alike, one after the other. -/
theorem parts (h : Alike s t v w) :
    Except.Rel (List.Forall₂ (Alike s t)) (Datum.parts ⟨s, v⟩) (Datum.parts ⟨t, w⟩) := by
  have hkind := h.kindName
  cases h.rel with
  | leaf hv =>
      cases v with
      | text a => exact .ok (forall₂_leaf (by simp [Value.IsLeaf]))
      | bytes bs => exact .ok (forall₂_leaf (by simp [Value.IsLeaf]))
      | nan | tuple | ref => exact hv.elim
      | _ => exact .error _
  | nan => exact .error _
  | tuple hvs => exact .ok hvs
  | @ref m n hc =>
      unfold Datum.parts
      simp only [Datum.sequence?, Store.sequence?, Datum.container?, hkind]
      generalize s.get m = c, t.get n = d at hc ⊢
      cases hc with
      | list hvs => exact .ok hvs
      | mapping hes => exact .ok (forall₂_keys hes)
      | ordered hes => exact .ok (forall₂_keys hes)
      | set hvs => exact .ok hvs

/-- Lists of texts are alike only if they are equal. -/
theorem eq_texts {names : List String} {ws : List Value}
    (h : List.Forall₂ (Alike s t) (names.map .text) ws) : ws = names.map .text := by
  induction names generalizing ws with
  | nil =>
      cases h
      rfl
  | cons name rest ih =>
      cases h with
      | cons hname hrest => rw [List.map_cons, hname.eq_text, ih hrest]

/-- Where texts are gone through in the one, the same texts are in the other. -/
theorem parts_texts (h : Alike s t v w) {names : List String}
    (hv : Datum.parts ⟨s, v⟩ = .ok (names.map .text)) :
    Datum.parts ⟨t, w⟩ = .ok (names.map .text) := by
  have hparts := h.parts
  rw [hv] at hparts
  generalize Datum.parts ⟨t, w⟩ = y at hparts ⊢
  cases hparts with
  | ok hall => rw [eq_texts hall]

/-- A key is found in both or in neither, or there is nothing to look in. -/
theorem finds (h : Alike s t v w) {key : Value} (hkey : key.IsOwn) :
    Datum.finds ⟨s, v⟩ key = Datum.finds ⟨t, w⟩ key := by
  have hany : ∀ {vs ws : List Value}, List.Forall₂ (Alike s t) vs ws →
      (vs.any fun a => a.sameKey key) = ws.any fun a => a.sameKey key := by
    intro vs ws hvs
    induction hvs with
    | nil => rfl
    | cons hab _ ih => rw [List.any_cons, List.any_cons, hab.sameKey hkey, ih]
  have hparts := h.parts
  have hkind := h.kindName
  cases h.rel with
  | leaf hv => cases v <;> first | rfl | exact hv.elim | (cases key <;> first | rfl | exact hkey.elim)
  | nan => rfl
  | tuple hvs => exact congrArg Except.ok (hany hvs)
  | @ref m n =>
      simp only [Datum.finds, hkind]
      generalize Datum.parts ⟨s, .ref m⟩ = x, Datum.parts ⟨t, .ref n⟩ = y at hparts ⊢
      cases hparts with
      | ok hvs => exact congrArg Except.ok (hany hvs)
      | error => rfl

end Alike

mutual

/-- A container inside keeps both from being keys, or neither. -/
theorem Alike.unhashable? {s t : Store} : ∀ {v w : Value}, Alike s t v w →
    v.unhashable? s = w.unhashable? t
  | .tuple vs, w, h => by
      cases h.rel with
      | leaf hv => exact hv.elim
      | tuple hvs => exact unhashableAmong?_alike hvs
  | .ref m, w, h => by
      cases h.rel with
      | leaf hv => exact hv.elim
      | @ref _ n hc =>
          simp only [Value.unhashable?]
          generalize s.get m = c, t.get n = d at hc ⊢
          cases hc <;> rfl
  | .nan _, w, h => by
      cases h.rel <;> rfl
  | .null, w, h | .bool _, w, h | .int _, w, h | .float _, w, h | .text _, w, h | .bytes _, w, h
  | .date _, w, h | .moment _, w, h => by
      cases h.rel
      rfl

/-- The first that cannot be a key is at one place in both lists. -/
theorem unhashableAmong?_alike {s t : Store} : ∀ {vs ws : List Value},
    List.Forall₂ (Alike s t) vs ws → unhashableAmong? s vs = unhashableAmong? t ws
  | [], _, h => by
      cases h
      rfl
  | v :: vs, _, h => by
      cases h with
      | cons hv hvs =>
          rw [unhashableAmong?, unhashableAmong?, hv.unhashable?, unhashableAmong?_alike hvs]

end

namespace Alike

variable {s t : Store} {v w : Value}

/-- The pattern that both stand for is the same. -/
theorem pattern (h : Alike s t v w) : Site.pattern ⟨s, v⟩ = Site.pattern ⟨t, w⟩ := by
  unfold Site.pattern Datum.asKey
  simp only [h.unhashable?]
  cases Value.unhashable? t w with
  | some kind => rfl
  | none => cases h.rel <;> rfl

end Alike

end YamlAudit
