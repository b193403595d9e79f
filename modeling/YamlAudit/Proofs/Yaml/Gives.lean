import YamlAudit.Yaml.Graph

/-!
# Yaml — what a computation gives

`Gives x s Q` says of a computation that may fail that its result and the state it leaves behind
satisfy `Q` whenever it succeeds.  There is one law for each way in which computations are put
together, so that what a rule gives is read off its text.

It does not say that the computation succeeds; that is asked for where it matters, by equations.  So
a law about a part of a computation may be used whatever comes before it, and a fault ends the
argument.
-/

namespace YamlAudit.Yaml

/-- If a computation succeeds from a state, its result and the state after it are related. -/
def Gives {ε σ α : Type} (x : EStateM ε σ α) (s : σ) (Q : α → σ → Prop) : Prop :=
  ∀ a s', x s = .ok a s' → Q a s'

namespace Gives

variable {ε σ α β : Type} {s : σ}

/-- What is given may be weakened. -/
theorem imp {x : EStateM ε σ α} {Q R : α → σ → Prop} (h : Gives x s Q)
    (hQR : ∀ a s', Q a s' → R a s') : Gives x s R :=
  fun a s' hx => hQR a s' (h a s' hx)

/-- What comes second is judged by what comes first has left behind. -/
theorem bind {x : EStateM ε σ α} {f : α → EStateM ε σ β} {Q : β → σ → Prop}
    (h : Gives x s fun a s' => Gives (f a) s' Q) : Gives (x >>= f) s Q := by
  intro b s'' hx
  change EStateM.bind x f s = _ at hx
  unfold EStateM.bind at hx
  cases hs : x s with
  | ok a s' => rw [hs] at hx; exact h a s' hs b s'' hx
  | error e s' => rw [hs] at hx; cases hx

/-- Conversely, what holds after both holds of the second after the first. -/
theorem of_bind {x : EStateM ε σ α} {f : α → EStateM ε σ β} {Q : β → σ → Prop}
    (h : Gives (x >>= f) s Q) : Gives x s fun a s' => Gives (f a) s' Q := by
  intro a s' hx b s'' hf
  refine h b s'' ?_
  change EStateM.bind x f s = _
  unfold EStateM.bind
  rw [hx]
  exact hf

theorem pure {a : α} {Q : α → σ → Prop} (h : Q a s) : Gives (Pure.pure a : EStateM ε σ α) s Q := by
  rintro _ _ ⟨⟩
  exact h

/-- A failure gives nothing. -/
theorem throw {e : ε} {Q : α → σ → Prop} : Gives (MonadExcept.throw e : EStateM ε σ α) s Q := by
  rintro _ _ ⟨⟩

/-- Reading the state leaves it as it is. -/
theorem get {Q : σ → σ → Prop} (h : Q s s) : Gives (MonadState.get : EStateM ε σ σ) s Q := by
  rintro _ _ ⟨⟩
  exact h

theorem set {s₁ : σ} {Q : PUnit → σ → Prop} (h : Q ⟨⟩ s₁) :
    Gives (MonadStateOf.set s₁ : EStateM ε σ PUnit) s Q := by
  rintro _ _ ⟨⟩
  exact h

theorem modify {f : σ → σ} {Q : PUnit → σ → Prop} (h : Q ⟨⟩ (f s)) :
    Gives (modifyGet fun s => (PUnit.unit, f s) : EStateM ε σ PUnit) s Q := by
  rintro _ _ ⟨⟩
  exact h

/-- Of a choice only the branch that is taken counts. -/
theorem ite {c : Prop} [Decidable c] {x y : EStateM ε σ α} {Q : α → σ → Prop}
    (hx : c → Gives x s Q) (hy : ¬ c → Gives y s Q) : Gives (if c then x else y) s Q := by
  split
  · next h => exact hx h
  · next h => exact hy h

/-- A loop, by what holds before its turn for every item. -/
theorem forIn {ι : Type} {f : ι → PUnit → EStateM ε σ (ForInStep PUnit)} (I : List ι → σ → Prop)
    {items : List ι} (h : I items s)
    (hf : ∀ i rest s, I (i :: rest) s →
      Gives (f i ⟨⟩) s fun r s' => r = .yield ⟨⟩ ∧ I rest s') :
    Gives (ForIn.forIn items PUnit.unit f) s fun _ s' => I [] s' := by
  induction items generalizing s with
  | nil => exact .pure h
  | cons i rest ih =>
      rw [List.forIn_cons]
      refine .bind ((hf i rest s h).imp fun r s' hr => ?_)
      obtain ⟨rfl, hI⟩ := hr
      exact ih hI

end Gives

end YamlAudit.Yaml
