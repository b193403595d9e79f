import Mathlib.Data.List.Forall2
import Mathlib.Data.List.Perm.Subperm

/-!
# Proofs — results and lists

Laws of computations that may fail and of lists, for use in all other modules.

They are stated for all types and know nothing of documents.  Results are told by equations with
`.ok`, as that is how a run that has succeeded is taken apart: each law says what the parts of a
computation have given if it has given something, or what it gives when its parts do.
-/

namespace YamlAudit

theorem Except.bind_of_ok {ε α β : Type} {x : Except ε α} {a : α} {f : α → Except ε β}
    (h : x = .ok a) : x >>= f = f a := by
  subst h
  rfl

/-- A computation in two steps succeeds when both do. -/
theorem Except.bind_eq_ok {ε α β : Type} {x : Except ε α} {f : α → Except ε β} {b : β} :
    (x >>= f) = .ok b ↔ ∃ a, x = .ok a ∧ f a = .ok b := by
  cases x with
  | error e => simp [bind, Except.bind]
  | ok a => simp [bind, Except.bind]

/-- A result that passes a check is there. -/
theorem Except.exists_ok_of_any {ε α : Type} {x : Except ε α} {p : α → Bool}
    (h : x.toOption.any p = true) : ∃ a, x = .ok a ∧ p a = true := by
  cases x with
  | ok a => exact ⟨a, rfl, h⟩
  | error => cases h

/-- Whether a computation fails, and with a fault of a certain kind. -/
def Except.failsWith {ε α : Type} (x : Except ε α) (p : ε → Bool) : Bool :=
  match x with
  | .error e => p e
  | .ok _ => false

theorem Except.exists_error_of_failsWith {ε α : Type} {x : Except ε α} {p : ε → Bool}
    (h : Except.failsWith x p = true) : ∃ e, x = .error e ∧ p e = true := by
  cases x with
  | error e => exact ⟨e, rfl, h⟩
  | ok => cases h

theorem Except.toOption_eq_some {ε α : Type} {x : Except ε α} {a : α} :
    x.toOption = some a ↔ x = .ok a := by
  cases x <;> simp [Except.toOption]

/-! ### Filters with a condition that may fail -/

theorem Except.filterAuxM_eq {ε α : Type} (f : α → Except ε Bool) (l acc : List α) :
    l.filterAuxM f acc = (l.filterM f).map fun r => r.reverse ++ acc := by
  have main : ∀ l acc : List α, l.filterAuxM f acc = (l.filterAuxM f []).map (· ++ acc) := by
    intro l
    induction l with
    | nil => exact fun _ => rfl
    | cons a rest ih =>
        intro acc
        rw [List.filterAuxM, List.filterAuxM]
        cases f a with
        | error e => rfl
        | ok b =>
            show rest.filterAuxM f (cond b (a :: acc) acc) =
              (rest.filterAuxM f (cond b [a] [])).map _
            rw [ih (cond b (a :: acc) acc), ih (cond b [a] [])]
            cases rest.filterAuxM f [] <;> cases b <;> simp [Except.map]
  rw [main, List.filterM]
  cases l.filterAuxM f [] <;> simp [Except.map, bind, Except.bind, pure, Except.pure]

theorem Except.filterM_cons {ε α : Type} (f : α → Except ε Bool) (a : α) (l : List α) :
    (a :: l).filterM f = f a >>= fun b => (l.filterM f).map fun r => cond b (a :: r) r := by
  rw [List.filterM, List.filterAuxM]
  cases f a with
  | error e => rfl
  | ok b =>
      show (l.filterAuxM f (cond b [a] []) >>= fun as => pure as.reverse) = _
      rw [filterAuxM_eq]
      cases b <;> cases l.filterM f <;>
        simp [Except.map, bind, Except.bind, pure, Except.pure]

/-- A filter succeeds when its condition does for every element. -/
theorem Except.filterM_of_ok {ε α : Type} {f : α → Except ε Bool} {q : α → Bool} {l : List α}
    (h : ∀ a ∈ l, f a = .ok (q a)) : l.filterM f = .ok (l.filter q) := by
  induction l with
  | nil => rfl
  | cons a rest ih =>
      rw [filterM_cons, h a List.mem_cons_self, ih fun b hb => h b (List.mem_cons_of_mem _ hb)]
      cases hq : q a <;> simp [bind, Except.bind, Except.map, hq]

/-- A filter does not tell apart conditions that agree on the elements. -/
theorem Except.filterM_congr {ε α : Type} {f g : α → Except ε Bool} {l : List α}
    (h : ∀ a ∈ l, f a = g a) : l.filterM f = l.filterM g := by
  induction l with
  | nil => rfl
  | cons a rest ih =>
      rw [filterM_cons, filterM_cons, h a List.mem_cons_self,
        ih fun b hb => h b (List.mem_cons_of_mem _ hb)]

theorem Except.exists_filterM {ε α : Type} {f : α → Except ε Bool} {l : List α}
    (h : ∀ a ∈ l, ∃ b, f a = .ok b) : ∃ r, l.filterM f = .ok r := by
  refine ⟨_, filterM_of_ok (q := fun a => (f a).toOption.getD false) fun a ha => ?_⟩
  obtain ⟨b, hb⟩ := h a ha
  rw [hb]
  rfl

/-- The condition of a filter that succeeds does so for every element. -/
theorem Except.ok_of_filterM {ε α : Type} {f : α → Except ε Bool} {l r : List α}
    (h : l.filterM f = .ok r) : ∀ a ∈ l, ∃ b, f a = .ok b := by
  induction l generalizing r with
  | nil => exact fun _ h => nomatch h
  | cons a rest ih =>
      rw [filterM_cons] at h
      obtain ⟨b, hb, h⟩ := Except.bind_eq_ok.mp h
      cases hr : rest.filterM f with
      | error e => rw [hr] at h; cases h
      | ok r => exact List.forall_mem_cons.mpr ⟨⟨b, hb⟩, ih hr⟩

theorem Except.filterM_map {ε α β : Type} (f : β → Except ε Bool) (g : α → β) (l : List α) :
    (l.map g).filterM f = (l.filterM fun a => f (g a)).map (List.map g) := by
  induction l with
  | nil => rfl
  | cons a rest ih =>
      rw [List.map_cons, filterM_cons, filterM_cons, ih]
      cases f (g a) with
      | error e => rfl
      | ok b =>
          cases rest.filterM fun a => f (g a) with
          | error e => rfl
          | ok r => cases b <;> rfl

/-- A map with a function that may fail succeeds when the function does for every element. -/
theorem Except.mapM_of_ok {ε α β : Type} {f : α → Except ε β} {g : α → β} {l : List α}
    (h : ∀ a ∈ l, f a = .ok (g a)) : l.mapM f = .ok (l.map g) := by
  induction l with
  | nil => rfl
  | cons a rest ih =>
      rw [List.mapM_cons, h a List.mem_cons_self, ih fun b hb => h b (List.mem_cons_of_mem _ hb)]
      rfl

/-- A map with a function that gives something fit for every element gives only that. -/
theorem Except.exists_mapM {ε α β : Type} {f : α → Except ε β} {Q : β → Prop} {l : List α}
    (h : ∀ a ∈ l, ∃ b, f a = .ok b ∧ Q b) : ∃ r, l.mapM f = .ok r ∧ ∀ b ∈ r, Q b := by
  induction l with
  | nil => exact ⟨[], rfl, fun _ hb => nomatch hb⟩
  | cons a rest ih =>
      obtain ⟨⟨b, hb, hQ⟩, hrest⟩ := List.forall_mem_cons.mp h
      obtain ⟨r, hr, hall⟩ := ih hrest
      refine ⟨b :: r, ?_, List.forall_mem_cons.mpr ⟨hQ, hall⟩⟩
      rw [List.mapM_cons, hb, hr]
      rfl

/-- What a map with a function that may fail gives comes from its elements. -/
theorem Except.exists_of_mem_mapM {ε α β : Type} {f : α → Except ε β} {l : List α} {r : List β}
    (h : l.mapM f = .ok r) {b : β} (hb : b ∈ r) : ∃ a ∈ l, f a = .ok b := by
  induction l generalizing r with
  | nil =>
      cases h
      cases hb
  | cons a rest ih =>
      rw [List.mapM_cons] at h
      obtain ⟨b', hb', h⟩ := Except.bind_eq_ok.mp h
      obtain ⟨r', hr', h⟩ := Except.bind_eq_ok.mp h
      cases h
      rcases List.mem_cons.mp hb with rfl | hb
      · exact ⟨a, List.mem_cons_self, hb'⟩
      · obtain ⟨a', ha', hfa'⟩ := ih hr' hb
        exact ⟨a', List.mem_cons_of_mem _ ha', hfa'⟩

theorem exists_getElem?_of_forall₂ {α β : Type} {R : α → β → Prop} {as : List α} {bs : List β}
    (h : List.Forall₂ R as bs) {n : Nat} {b : β} (hb : bs[n]? = some b) :
    ∃ a, as[n]? = some a ∧ R a b := by
  induction h generalizing n with
  | nil => cases hb
  | cons hab _ ih =>
      cases n with
      | zero =>
          cases hb
          exact ⟨_, rfl, hab⟩
      | succ n => exact ih hb

/-- A list is split before any of the elements that are counted. -/
theorem split_of_lt_countP {α : Type} {p : α → Bool} {l : List α} {n : Nat} (h : n < l.countP p) :
    ∃ pre x post, l = pre ++ x :: post ∧ p x = true ∧ pre.countP p = n := by
  induction l generalizing n with
  | nil => simp at h
  | cons x rest ih =>
      rw [List.countP_cons] at h
      by_cases hx : p x = true
      · cases n with
        | zero => exact ⟨[], x, rest, rfl, hx, rfl⟩
        | succ n =>
            rw [if_pos hx] at h
            obtain ⟨pre, y, post, rfl, hy, hn⟩ := ih (n := n) (by omega)
            exact ⟨x :: pre, y, post, rfl, hy, by simp [hx, hn]⟩
      · rw [if_neg hx] at h
        obtain ⟨pre, y, post, rfl, hy, hn⟩ := ih (n := n) (by omega)
        exact ⟨x :: pre, y, post, rfl, hy, by simp [hx, hn]⟩

end YamlAudit
