import YamlAudit.Proofs.Basic
import YamlAudit.Proofs.Value.Copied
import YamlAudit.Value.Copy

/-!
# Value — the copier

The copier keeps the copy of each container in its notes.  While a container is being copied its own
note is there but its copy is not complete; all other copies that have been noted since are
(`Copier.Stage`).  A stage is kept by every call (`Stage.trans`) and by every addition to the copy in
hand (`Stage.write`), and when nothing is left to add the copy in hand is complete as well
(`Stage.close`).  Each container inside another takes a note, and two calls at most, so calls are never
deeper inside one another than twice the number of containers.

* `Copier.copyValue_ends`: what a call comes to.
* `Datum.copied_isCopy`: copying ends with a copy unless a mapping that is reached has a key that
  cannot become a text.
-/

namespace YamlAudit

/-- What a computation comes to, a result or a failure. -/
def Except.Ends {ε α : Type} (Good : α → Prop) (Bad : ε → Prop) : Except ε α → Prop
  | .ok a => Good a
  | .error e => Bad e

theorem Except.Ends.bind {ε α β : Type} {Good : α → Prop} {Good' : β → Prop} {Bad : ε → Prop}
    {x : Except ε α} {f : α → Except ε β} (h : Except.Ends Good Bad x)
    (hf : ∀ a, Good a → Except.Ends Good' Bad (f a)) : Except.Ends Good' Bad (x >>= f) := by
  cases x with
  | ok a => exact hf a h
  | error e => exact h

namespace Copier

variable {s : Store} {memo memo' : List (Nat × Nat)} {v w : Value}

/-- A value and what becomes of it, by the notes of a copier. -/
inductive Becomes (s : Store) (memo : List (Nat × Nat)) : Value → Value → Prop
  | part {n m : Nat} : (n, m) ∈ memo → Becomes s memo (.ref n) (.ref m)
  | set {n : Nat} {items : List Value} : s.get n = .set items → Becomes s memo (.ref n) (.ref n)
  | atom {v : Value} : v.IsAtom → Becomes s memo v v

theorem Becomes.mono (h : Becomes s memo v w) (hmemo : memo ⊆ memo') : Becomes s memo' v w := by
  cases h with
  | part hmem => exact .part (hmemo hmem)
  | set hset => exact .set hset
  | atom hv => exact .atom hv

section Parts

variable {α : Type} {value : α → Value} {add : α → Value → Container → Except CopyError Container}
  {start content : Container} {done : List α}

/-- Content that has come of parts, each added with what has become of its value. -/
def Comes (s : Store) (memo : List (Nat × Nat)) (value : α → Value)
    (add : α → Value → Container → Except CopyError Container) (start : Container) (done : List α)
    (content : Container) : Prop :=
  ∃ added : List (α × Value), added.map Prod.fst = done ∧
    (∀ x ∈ added, Becomes s memo (value x.1) x.2) ∧
    added.foldlM (fun content x => add x.1 x.2 content) start = .ok content

theorem Comes.nil : Comes s memo value add start [] start := ⟨[], rfl, List.forall_mem_nil _, rfl⟩

theorem Comes.mono (h : Comes s memo value add start done content) (hmemo : memo ⊆ memo') :
    Comes s memo' value add start done content := by
  obtain ⟨added, hdone, hbecomes, hcontent⟩ := h
  exact ⟨added, hdone, fun x hx => (hbecomes x hx).mono hmemo, hcontent⟩

/-- One part more is added. -/
theorem Comes.concat (h : Comes s memo value add start done content) {part : α}
    (hw : Becomes s memo (value part) w) {content' : Container}
    (hadd : add part w content = .ok content') :
    Comes s memo value add start (done ++ [part]) content' := by
  obtain ⟨added, rfl, hbecomes, hcontent⟩ := h
  refine ⟨added ++ [(part, w)], by simp, ?_, ?_⟩
  · exact List.forall_mem_append.mpr ⟨hbecomes, List.forall_mem_singleton.mpr hw⟩
  · rw [List.foldlM_append, hcontent]
    simp [bind, Except.bind, pure, Except.pure, hadd]

end Parts

/-- A container has all of the content that the copy of another one gets. -/
def Complete (s : Store) (memo : List (Nat × Nat)) : Container → Container → Prop
  | .list items, copy => Comes s memo id addItem (.list []) items copy
  | .mapping es, copy | .ordered es, copy =>
    Comes s memo Prod.snd (addEntry s) (.mapping []) es copy
  | .set _, _ => False

theorem Complete.mono {original copy : Container} (h : Complete s memo original copy)
    (hmemo : memo ⊆ memo') : Complete s memo' original copy := by
  cases original with
  | set => exact h
  | _ => exact Comes.mono h hmemo

/-- The notes of a copier fit its containers: the originals `s` are as they were, and there is one
copy for each that has a note, behind the originals. -/
structure Sound (s : Store) (c : Copier) : Prop where
  kept : ∀ n < s.containers.size, c.store.get n = s.get n
  size_le : s.containers.size ≤ c.store.containers.size
  originals : (c.memo.map Prod.fst).Nodup
  copies : (c.memo.map Prod.snd).Nodup
  mem : ∀ p ∈ c.memo, p.1 < s.containers.size ∧ (s.get p.1).kind ≠ .set ∧
    s.containers.size ≤ p.2 ∧ p.2 < c.store.containers.size

/-- There are no more notes than originals. -/
theorem Sound.length_le {c : Copier} (h : Sound s c) : c.memo.length ≤ s.containers.size := by
  have hsub : c.memo.map Prod.fst ⊆ List.range s.containers.size := fun n hn => by
    obtain ⟨p, hp, rfl⟩ := List.mem_map.mp hn
    exact List.mem_range.mpr (h.mem p hp).1
  simpa using (h.originals.subperm hsub).length_le

/-- A copier after another one: containers that were there are as they were, and all notes but those
in `begun` are of complete copies. -/
structure Stage (s : Store) (c : Copier) (begun : List (Nat × Nat)) (c' : Copier) : Prop where
  sound : Sound s c'
  memo : begun <:+ c'.memo
  size_le : c.store.containers.size ≤ c'.store.containers.size
  kept : ∀ k < c.store.containers.size, c'.store.get k = c.store.get k
  complete : ∀ p ∈ c'.memo, p ∈ begun ∨ Complete s c'.memo (s.get p.1) (c'.store.get p.2)

namespace Stage

variable {c c' c'' : Copier} {begun : List (Nat × Nat)} {n : Nat} {content : Container}

theorem refl (h : Sound s c) : Stage s c c.memo c where
  sound := h
  memo := List.suffix_rfl
  size_le := Nat.le_refl _
  kept _ _ := rfl
  complete _ hp := .inl hp

/-- What has been completed stays complete. -/
theorem trans (h : Stage s c begun c') (h' : Stage s c' c'.memo c'') : Stage s c begun c'' where
  sound := h'.sound
  memo := h.memo.trans h'.memo
  size_le := h.size_le.trans h'.size_le
  kept k hk := (h'.kept k (hk.trans_le h.size_le)).trans (h.kept k hk)
  complete p hp := by
    rcases h'.complete p hp with hmem | hcomplete
    · refine (h.complete p hmem).imp_right fun hcomplete => ?_
      rw [h'.kept p.2 (h.sound.mem p hmem).2.2.2]
      exact hcomplete.mono h'.memo.subset
    · exact .inr hcomplete

/-- The copy of a container is begun. -/
theorem enter (h : Sound s c) (hn : n < s.containers.size) (hkind : (s.get n).kind ≠ .set)
    (hnew : n ∉ c.memo.map Prod.fst) :
    Stage s c ((n, c.store.containers.size) :: c.memo) (c.enter n content) where
  sound := by
    have hget : ∀ k < c.store.containers.size, (c.enter n content).store.get k = c.store.get k :=
      fun k hk => Store.get_add_of_lt hk content
    have hsize : (c.enter n content).store.containers.size = c.store.containers.size + 1 :=
      Array.size_push _
    have hmem : ∀ p ∈ (c.enter n content).memo, p.1 < s.containers.size ∧
        (s.get p.1).kind ≠ .set ∧ s.containers.size ≤ p.2 ∧
          p.2 < (c.enter n content).store.containers.size := by
      rw [hsize]
      refine List.forall_mem_cons.mpr ⟨⟨hn, hkind, h.size_le, Nat.lt_succ_self _⟩, fun p hp => ?_⟩
      obtain ⟨hlt, hkind, hle, hcopy⟩ := h.mem p hp
      exact ⟨hlt, hkind, hle, Nat.lt_succ_of_lt hcopy⟩
    refine ⟨fun k hk => (hget k (hk.trans_le h.size_le)).trans (h.kept k hk), ?_, ?_, ?_, hmem⟩
    · rw [hsize]
      exact Nat.le_succ_of_le h.size_le
    · exact List.nodup_cons.mpr ⟨hnew, h.originals⟩
    · refine List.nodup_cons.mpr ⟨fun hsize => ?_, h.copies⟩
      obtain ⟨p, hp, heq⟩ := List.mem_map.mp hsize
      exact absurd (h.mem p hp).2.2.2 (by rw [heq]; exact Nat.lt_irrefl _)
  memo := List.suffix_rfl
  size_le := (Nat.le_succ _).trans_eq (Array.size_push _).symm
  kept k hk := Store.get_add_of_lt hk content
  complete _ hp := .inl hp

/-- Something is added to the copy in hand. -/
theorem write (hc : Sound s c) (h : Stage s c ((n, c.store.containers.size) :: c.memo) c') :
    Stage s c ((n, c.store.containers.size) :: c.memo)
      (c'.write c.store.containers.size content) where
  sound :=
    { kept k hk :=
        (Store.get_put_of_ne (hk.trans_le hc.size_le).ne content).trans (h.sound.kept k hk)
      size_le := by
        rw [Copier.write, Store.size_put]
        exact h.sound.size_le
      originals := h.sound.originals
      copies := h.sound.copies
      mem p hp := by
        rw [Copier.write, Store.size_put]
        exact h.sound.mem p hp }
  memo := h.memo
  size_le := by
    rw [Copier.write, Store.size_put]
    exact h.size_le
  kept k hk := (Store.get_put_of_ne hk.ne content).trans (h.kept k hk)
  complete p hp := by
    -- only the copy in hand is written to
    by_cases hcopy : p.2 = c.store.containers.size
    · -- it is the only note of the copy in hand
      have hin : (n, c.store.containers.size) ∈ c'.memo := h.memo.subset List.mem_cons_self
      have heq : p = (n, c.store.containers.size) :=
        List.inj_on_of_nodup_map h.sound.copies hp hin hcopy
      exact .inl (heq ▸ List.mem_cons_self)
    · refine (h.complete p hp).imp_right fun hcomplete => ?_
      rw [Copier.write, Store.get_put_of_ne hcopy]
      exact hcomplete

/-- Nothing is left to be added. -/
theorem close (h : Stage s c ((n, c.store.containers.size) :: c.memo) c')
    (hcomplete : Complete s c'.memo (s.get n) (c'.store.get c.store.containers.size)) :
    Stage s c c.memo c' where
  sound := h.sound
  memo := (List.suffix_cons _ _).trans h.memo
  size_le := h.size_le
  kept := h.kept
  complete p hp := by
    rcases h.complete p hp with hbegun | hdone
    · rcases List.mem_cons.mp hbegun with rfl | hmem
      · exact .inr hcomplete
      · exact .inl hmem
    · exact .inr hdone

end Stage

/-- Where a call has come to when it is over. -/
def Yields (s : Store) (c : Copier) (v : Value) (r : Value × Copier) : Prop :=
  Stage s c c.memo r.2 ∧ Becomes s r.2.memo v r.1

section Fill

variable {α : Type} {copy : Value → Copier → Except CopyError (Value × Copier)} {value : α → Value}
  {add : α → Value → Container → Except CopyError Container} {Bad : CopyError → Prop} {calls : Nat}
  {c c' : Copier} {n : Nat} {start : Container}

/-- Parts that are copied and added one after the other to the copy in hand. -/
theorem fill_ends (hc : Sound s c) {done rest : List α}
    (hcopy : ∀ part ∈ rest, ∀ c, Sound s c → 2 * s.containers.size < calls + 2 * c.memo.length →
      Except.Ends (Yields s c (value part)) Bad (copy (value part) c))
    (hadd : ∀ part ∈ rest, ∀ w content, Except.Ends (fun _ => True) Bad (add part w content))
    (h : Stage s c ((n, c.store.containers.size) :: c.memo) c')
    (hroom : 2 * s.containers.size < calls + 2 * c'.memo.length)
    (hcomes : Comes s c'.memo value add start done (c'.store.get c.store.containers.size)) :
    Except.Ends (fun c'' => Stage s c ((n, c.store.containers.size) :: c.memo) c'' ∧
        Comes s c''.memo value add start (done ++ rest) (c''.store.get c.store.containers.size))
      Bad (fill copy value add c.store.containers.size rest c') := by
  -- by induction on the parts that are left, with those that are done general
  induction rest generalizing done c' with
  | nil => exact ⟨h, (List.append_nil done).symm ▸ hcomes⟩
  | cons part rest ih =>
      obtain ⟨hpart, hcopy⟩ := List.forall_mem_cons.mp hcopy
      obtain ⟨haddPart, hadd⟩ := List.forall_mem_cons.mp hadd
      refine (hpart c' h.sound hroom).bind fun ⟨w, c₁⟩ ⟨hstage, hbecomes⟩ => ?_
      dsimp only at hstage hbecomes ⊢
      -- the container in hand is older than what its parts add, so it keeps what has been written
      -- to it
      have hhand : c.store.containers.size < c'.store.containers.size :=
        (h.sound.mem _ (h.memo.subset List.mem_cons_self)).2.2.2
      have hcomes₁ := hcomes.mono hstage.memo.subset
      rw [← hstage.kept _ hhand] at hcomes₁
      have hends := haddPart w (c₁.store.get c.store.containers.size)
      cases hresult : add part w (c₁.store.get c.store.containers.size) with
      | error e =>
          rw [hresult] at hends
          exact hends
      | ok content =>
          have hstage' : Stage s c ((n, c.store.containers.size) :: c.memo)
              (c₁.write c.store.containers.size content) := (h.trans hstage).write hc
          have hhand₁ := hhand.trans_le hstage.size_le
          have hcomes' : Comes s (c₁.write c.store.containers.size content).memo value add start
              (done ++ [part]) ((c₁.write c.store.containers.size content).store.get
                c.store.containers.size) := by
            rw [Copier.write, Store.get_put_self hhand₁]
            exact hcomes₁.concat hbecomes hresult
          have hend := ih hcopy hadd hstage' (hroom.trans_le (Nat.add_le_add_left
            (Nat.mul_le_mul_left 2 hstage.memo.length_le) calls)) hcomes'
          rw [List.append_assoc, List.singleton_append] at hend
          exact hend

/-- A container whose copy is begun, and then all its parts are added. -/
theorem enter_fill_ends (hc : Sound s c) (hn : n < s.containers.size)
    (hkind : (s.get n).kind ≠ .set) (hnew : n ∉ c.memo.map Prod.fst) {parts : List α}
    (hcomplete : ∀ memo content, Comes s memo value add start parts content →
      Complete s memo (s.get n) content)
    (hcopy : ∀ part ∈ parts, ∀ c, Sound s c → 2 * s.containers.size < calls + 2 * c.memo.length →
      Except.Ends (Yields s c (value part)) Bad (copy (value part) c))
    (hadd : ∀ part ∈ parts, ∀ w content, Except.Ends (fun _ => True) Bad (add part w content))
    (hroom : 2 * s.containers.size < calls + 2 * (c.memo.length + 1)) :
    Except.Ends (Yields s c (.ref n)) Bad (do
      let c' ← fill copy value add c.store.containers.size parts (c.enter n start)
      return (.ref c.store.containers.size, c')) := by
  have hcomes : Comes s (c.enter n start).memo value add start []
      ((c.enter n start).store.get c.store.containers.size) := by
    have hget : (c.enter n start).store.get c.store.containers.size = start := by
      simp [enter, Store.add, Store.get, Array.getD_eq_getD_getElem?]
    rw [hget]
    exact .nil
  have hends := fill_ends hc hcopy hadd (Stage.enter hc hn hkind hnew)
    (by rw [enter, List.length_cons]; exact hroom) hcomes
  refine hends.bind fun c' hend => ?_
  obtain ⟨hstage, hcomes⟩ := hend
  exact ⟨hstage.close (hcomplete _ _ hcomes), .part (hstage.memo.subset List.mem_cons_self)⟩

end Fill

theorem addItem_ends {Bad : CopyError → Prop} (item w : Value) (content : Container) :
    Except.Ends (fun _ => True) Bad (addItem item w content) := by
  cases content <;> trivial

/-- An entry is not added because of its key only. -/
theorem addEntry_ends {Bad : CopyError → Prop} {e : Value × Value}
    (hbad : Datum.isOverlong ⟨s, e.1⟩ = true → Bad (.key ⟨⟩)) (w : Value) (content : Container) :
    Except.Ends (fun _ => True) Bad (addEntry s e w content) := by
  cases content with
  | mapping es =>
      rw [addEntry, Datum.text?]
      cases hkey : Datum.isOverlong ⟨s, e.1⟩ with
      | true => exact hbad hkey
      | false => trivial
  | _ => trivial

variable {d : Datum}

/-- A call comes to what has become of the value, or to a key that cannot become a text: there is room
for two calls for each container that has no note yet. -/
theorem copyValue_ends (hclosed : d.Closed) {calls : Nat} {c : Copier} (hv : d.Reaches v)
    (hc : Sound d.store c) (hroom : 2 * d.store.containers.size < calls + 2 * c.memo.length) :
    Except.Ends (Yields d.store c v) (fun e => e = .key ⟨⟩ ∧ d.hasOverlongKey = true)
      (copyValue d.store calls v c) := by
  -- a list takes two calls, so what is inside has the bound before the last
  induction calls using Nat.strong_induction_on generalizing v c with
  | _ calls ih =>
  cases calls with
  | zero =>
      have := hc.length_le
      omega
  | succ calls =>
      cases v with
      | ref n =>
          have hn := hclosed n hv
          rw [copyValue]
          split
          · next m hlookup =>
            obtain ⟨before, after, hmemo, -⟩ := List.lookup_eq_some_iff.mp hlookup
            exact ⟨.refl hc, .part (hmemo ▸ List.mem_append_right _ List.mem_cons_self)⟩
          · next hlookup =>
            have hnew : n ∉ c.memo.map Prod.fst := fun hmem => by
              obtain ⟨p, hp, rfl⟩ := List.mem_map.mp hmem
              simpa using List.lookup_eq_none_iff.mp hlookup p hp
            have hmapping : ∀ es, (d.store.get n = .mapping es ∨ d.store.get n = .ordered es) →
                Except.Ends (Yields d.store c (.ref n))
                  (fun e => e = .key ⟨⟩ ∧ d.hasOverlongKey = true) (do
                    let c' ← fill (copyValue d.store calls) Prod.snd (addEntry d.store)
                      c.store.containers.size es (c.enter n (.mapping []))
                    return (.ref c.store.containers.size, c')) := by
              intro es hget
              refine enter_fill_ends hc hn ?_ hnew ?_ (fun e he c hc hroom => ?_)
                (fun e he => addEntry_ends fun hkey => ⟨rfl, ?_⟩)
                (show _ < calls + 2 * (c.memo.length + 1) by omega)
              · rcases hget with hget | hget <;> rw [hget] <;> exact nofun
              · rcases hget with hget | hget <;> rw [hget] <;> exact fun _ _ h => h
              · exact ih calls (Nat.lt_succ_self _)
                  (hv.inside (Store.mem_inside_of_mem hget he)) hc hroom
              · exact Datum.hasOverlongKey_iff.mpr ⟨e, ⟨n, es, hv, hget, he⟩, hkey⟩
            rw [hc.kept n hn]
            split
            · next items hget =>
              have hkind : (d.store.get n).kind ≠ .set := by rw [hget]; exact nofun
              have hnoted : c.memo.length + 1 ≤ d.store.containers.size :=
                (Stage.enter hc hn hkind hnew : Stage _ _ _ (c.enter n (.list []))).sound.length_le
              cases calls with
              | zero => omega
              | succ calls =>
                  exact enter_fill_ends hc hn hkind hnew (fun _ _ h => by rw [hget]; exact h)
                    (fun item hitem c hc hroom => ih calls (by omega)
                      (hv.inside (by rw [Store.inside, hget]; exact hitem)) hc hroom)
                    (fun item _ => addItem_ends item)
                    (show _ < calls + 2 * (c.memo.length + 1) by omega)
            · next es hget => exact hmapping es (.inl hget)
            · next es hget => exact hmapping es (.inr hget)
            · next items hget =>
              exact ⟨.refl hc, .set hget⟩
      | _ => exact ⟨.refl hc, .atom trivial⟩

/-! ### What the notes say in the end -/

/-- The copy of a container by the notes. -/
def copyOf (c : Copier) (n : Nat) : Nat := (c.memo.lookup n).getD 0

section Finished

variable {c c' : Copier}

theorem Sound.copyOf_eq (h : Sound s c) {n m : Nat} (hmem : (n, m) ∈ c.memo) : c.copyOf n = m := by
  obtain ⟨before, after, hmemo⟩ := List.append_of_mem hmem
  have hnodup := h.originals
  rw [hmemo, List.map_append, List.map_cons] at hnodup
  have hbefore : ∀ p ∈ before, (n != p.1) = true := fun p hp => by
    have hdisjoint := (List.nodup_append.mp hnodup).2.2 p.1 (List.mem_map_of_mem hp) n
      List.mem_cons_self
    exact bne_iff_ne.mpr (Ne.symm hdisjoint)
  rw [copyOf, List.lookup_eq_some_iff.mpr ⟨before, after, hmemo, hbefore⟩]
  rfl

/-- What becomes of a value is its image. -/
theorem Sound.eq_image (h : Sound s c) (hbecomes : Becomes s c.memo v w) :
    w = s.image c.copyOf v := by
  cases hbecomes with
  | @part n m hmem =>
      have hkind := (h.mem _ hmem).2.1
      rw [Store.image, h.copyOf_eq hmem]
      split
      · next hget => exact absurd (by rw [hget]; rfl) hkind
      · rfl
  | set hset => rw [Store.image, hset]
  | atom hv =>
      cases v with
      | ref => exact hv.elim
      | _ => rfl

theorem Comes.foldlM_eq {α : Type} {value : α → Value}
    {add : α → Value → Container → Except CopyError Container} {start content : Container}
    {parts : List α} (h : Sound s c) (hcomes : Comes s c.memo value add start parts content) :
    parts.foldlM (fun content part => add part (s.image c.copyOf (value part)) content) start =
      .ok content := by
  obtain ⟨added, rfl, hbecomes, hcontent⟩ := hcomes
  rw [← hcontent, List.foldlM_map]
  clear hcontent
  induction added generalizing start with
  | nil => rfl
  | cons x rest ih =>
      obtain ⟨hx, hrest⟩ := List.forall_mem_cons.mp hbecomes
      simp only [List.foldlM_cons, ← h.eq_image hx, ih hrest]

theorem Comes.exists_becomes {α : Type} {value : α → Value}
    {add : α → Value → Container → Except CopyError Container} {start content : Container}
    {parts : List α} {part : α} (h : Comes s memo value add start parts content)
    (hpart : part ∈ parts) : ∃ w, Becomes s memo (value part) w := by
  obtain ⟨added, rfl, hbecomes, -⟩ := h
  obtain ⟨x, hx, rfl⟩ := List.mem_map.mp hpart
  exact ⟨x.2, hbecomes x hx⟩

/-- What lies inside a container whose copy is complete has become something. -/
theorem Complete.exists_becomes {n : Nat} {copy : Container}
    (h : Complete s memo (s.get n) copy) (hv : v ∈ s.inside (.ref n)) : ∃ w, Becomes s memo v w := by
  rw [Store.inside] at hv
  cases hget : s.get n with
  | list items =>
      rw [hget] at h hv
      exact Comes.exists_becomes h hv
  | mapping es | ordered es =>
      rw [hget] at h hv
      obtain ⟨e, he, rfl⟩ := List.mem_map.mp hv
      exact Comes.exists_becomes h he
  | set items =>
      rw [hget] at h
      exact h.elim

theorem foldlM_addItem (image : Value → Value) (items ws : List Value) :
    items.foldlM (fun content item => addItem item (image item) content) (.list ws) =
      .ok (.list (ws ++ items.map image)) := by
  induction items generalizing ws with
  | nil => rw [List.map_nil, List.append_nil]; rfl
  | cons item rest ih =>
      rw [List.foldlM_cons, addItem, List.map_cons]
      exact (ih _).trans (by rw [List.append_assoc, List.singleton_append])

/-- Entries that have all been added have keys that can become texts. -/
theorem of_foldlM_addEntry {image : Value → Value} {es ws : List (Value × Value)}
    {content : Container} (h : es.foldlM (fun content e => addEntry s e (image e.2) content)
      (.mapping ws) = .ok content) :
    content = .mapping (es.foldl
        (fun acc e => putKey (.text (Datum.text ⟨s, e.1⟩)) (image e.2) acc) ws) ∧
      ∀ e ∈ es, Datum.isOverlong ⟨s, e.1⟩ = false := by
  induction es generalizing ws with
  | nil => exact ⟨(Except.ok.inj h).symm, List.forall_mem_nil _⟩
  | cons e rest ih =>
      rw [List.foldlM_cons, addEntry, Datum.text?] at h
      cases hkey : Datum.isOverlong ⟨s, e.1⟩ with
      | true =>
          rw [hkey] at h
          cases h
      | false =>
          rw [hkey] at h
          obtain ⟨hcontent, hrest⟩ := ih h
          exact ⟨hcontent, List.forall_mem_cons.mpr ⟨hkey, hrest⟩⟩

/-- A copier that has come from one without notes. -/
def Final (d : Datum) (c : Copier) : Prop := Stage d.store ⟨d.store, []⟩ [] c

/-- All that is reached has become something. -/
theorem Final.exists_becomes (h : Final d c) (hroot : Becomes d.store c.memo d.value w)
    (hv : d.Reaches v) : ∃ w, Becomes d.store c.memo v w := by
  induction hv with
  | root => exact ⟨w, hroot⟩
  | @inside v w _ hw ih =>
      obtain ⟨u, hu⟩ := ih
      cases hu with
      | part hmem =>
          exact ((h.complete _ hmem).resolve_left List.not_mem_nil).exists_becomes hw
      | set hset =>
          rw [Store.inside, hset] at hw
          cases hw
      | atom hatom =>
          cases v with
          | ref => exact hatom.elim
          | _ => cases hw

/-- The lists and mappings that are reached have complete copies. -/
theorem Final.complete_copyOf (h : Final d c) (hroot : Becomes d.store c.memo d.value w) {n : Nat}
    (hn : n ∈ d.collections) : (n, c.copyOf n) ∈ c.memo ∧
    Complete d.store c.memo (d.store.get n) (c.store.get (c.copyOf n)) := by
  obtain ⟨u, hu⟩ := h.exists_becomes hroot hn.1
  cases hu with
  | @part _ m hmem =>
      rw [h.sound.copyOf_eq hmem]
      exact ⟨hmem, (h.complete _ hmem).resolve_left List.not_mem_nil⟩
  | set hset => exact absurd (by rw [hset]; rfl) hn.2
  | atom hatom => exact hatom.elim

/-- The entries of a mapping that is reached have all been added to its copy. -/
theorem Final.mapping (h : Final d c) (hroot : Becomes d.store c.memo d.value w) {n : Nat}
    {es : List (Value × Value)} (hn : n ∈ d.collections)
    (hget : d.store.get n = .mapping es ∨ d.store.get n = .ordered es) :
    c.store.get (c.copyOf n) = .mapping (renamed d.nameOf (d.store.image c.copyOf) es) ∧
      ∀ e ∈ es, Datum.isOverlong ⟨d.store, e.1⟩ = false := by
  have hcomplete := (h.complete_copyOf hroot hn).2
  have hcomes : Comes d.store c.memo Prod.snd (addEntry d.store) (.mapping []) es
      (c.store.get (c.copyOf n)) := by
    rcases hget with hget | hget <;> rw [hget] at hcomplete <;> exact hcomplete
  rw [← foldl_putKey]
  exact of_foldlM_addEntry (hcomes.foldlM_eq h.sound)

/-- What the notes say in the end is a copy. -/
theorem Final.isCopy (h : Final d c) (hroot : Becomes d.store c.memo d.value w) :
    d.IsCopy ⟨c.store, w⟩ c.copyOf where
  kept := h.sound.kept
  value_eq := h.sound.eq_image hroot
  new n hn := (h.sound.mem _ (h.complete_copyOf hroot hn).1).2.2
  injective n hn m hm heq :=
    congrArg Prod.fst (List.inj_on_of_nodup_map h.sound.copies (h.complete_copyOf hroot hn).1
      (h.complete_copyOf hroot hm).1 heq)
  list n hn items hget := by
    have hcomplete := (h.complete_copyOf hroot hn).2
    rw [hget] at hcomplete
    have hcontent := Comes.foldlM_eq h.sound hcomplete
    rw [foldlM_addItem] at hcontent
    exact (Except.ok.inj hcontent).symm
  mapping n hn es hget := (h.mapping hroot hn hget).1

/-- Keys that have been added can become texts. -/
theorem Final.namesKeys (h : Final d c) (hroot : Becomes d.store c.memo d.value w) :
    d.NamesKeys := by
  rintro e ⟨n, es, hn, hget, he⟩
  have hkind : (d.store.get n).kind ≠ .set := by
    rcases hget with hget | hget <;> rw [hget] <;> exact nofun
  exact (h.mapping hroot ⟨hn, hkind⟩ hget).2 e he

end Finished

end Copier

namespace Datum

variable {d : Datum}

/-- With room for two calls inside one another for each container, copying ends with a copy or at a key
that cannot become a text. -/
theorem copied_ends (hclosed : d.Closed) {depth : Nat} (hdepth : d.store.containers.size < depth) :
    Except.Ends (fun d' => d.NamesKeys ∧ ∃ copy, d.IsCopy d' copy)
      (fun e => e = .key ⟨⟩ ∧ ¬ d.NamesKeys) (d.copied depth) := by
  have hsound : Copier.Sound d.store ⟨d.store, []⟩ :=
    ⟨fun _ _ => rfl, Nat.le_refl _, List.nodup_nil, List.nodup_nil, List.forall_mem_nil _⟩
  have hends := Copier.copyValue_ends hclosed .root hsound
    (show 2 * d.store.containers.size < 2 * depth + 0 by omega)
  rw [copied, copiedWithin]
  cases hresult : Copier.copyValue d.store (2 * depth) d.value ⟨d.store, []⟩ with
  | ok r =>
      rw [hresult] at hends
      have hfinal : Copier.Final d r.2 := hends.1
      exact ⟨hfinal.namesKeys hends.2, _, hfinal.isCopy hends.2⟩
  | error e =>
      rw [hresult] at hends
      exact ⟨hends.1, by rw [namesKeys_iff, hends.2]; exact nofun⟩

/-- If all keys can become texts, copying ends with a copy. -/
theorem exists_copied (hclosed : d.Closed) {depth : Nat} (hdepth : d.store.containers.size < depth)
    (hnames : d.NamesKeys) : ∃ d' copy, d.copied depth = .ok d' ∧ d.IsCopy d' copy := by
  have hends := copied_ends hclosed hdepth
  cases hresult : d.copied depth with
  | ok d' =>
      rw [hresult] at hends
      obtain ⟨-, copy, hcopy⟩ := hends
      exact ⟨d', copy, rfl, hcopy⟩
  | error e =>
      rw [hresult] at hends
      exact absurd hnames hends.2

/-- If some key cannot become a text, copying ends there. -/
theorem copied_eq_error (hclosed : d.Closed) {depth : Nat}
    (hdepth : d.store.containers.size < depth) (hnot : ¬ d.NamesKeys) :
    d.copied depth = .error (.key ⟨⟩) := by
  have hends := copied_ends hclosed hdepth
  cases hresult : d.copied depth with
  | ok d' =>
      rw [hresult] at hends
      exact absurd hends.1 hnot
  | error e =>
      rw [hresult] at hends
      rw [hends.1]

/-- If the keys of the mappings that are reached can become texts, copying ends with a copy, in which
whatever is reached in two ways is one container again, and the copies behind the originals are such
a copy as well; otherwise there is none. -/
theorem copied_isCopy (hclosed : d.Closed) {depth : Nat} (hdepth : d.store.containers.size < depth) :
    (d.NamesKeys → (∃ d' copy, d.copied depth = .ok d' ∧ d.IsCopy d' copy) ∧
      d.IsCopy d.plain (d.store.containers.size + ·)) ∧
    (¬ d.NamesKeys → d.copied depth = .error (.key ⟨⟩)) ∧
    (d.hasOverlongKey = true ↔ ¬ d.NamesKeys) := by
  refine ⟨fun hnames => ⟨exists_copied hclosed hdepth hnames, isCopy_plain hclosed⟩,
    copied_eq_error hclosed hdepth, ?_⟩
  rw [namesKeys_iff, Bool.not_eq_false]

/-- A mapping with a list under two keys, in which there are the mapping and the list itself. -/
def sharedCycle : Datum :=
  ⟨⟨#[.mapping [(.text "a", .ref 1), (.bool true, .ref 1)], .list [.ref 0, .ref 1]]⟩, .ref 0⟩

theorem copied_isCopy_sharedCycle :
    sharedCycle.Closed ∧ sharedCycle.NamesKeys ∧
      (∃ d' copy, sharedCycle.copied 3 = .ok d' ∧ sharedCycle.IsCopy d' copy) ∧
      sharedCycle.IsCopy sharedCycle.plain (2 + ·) := by
  have hclosed : sharedCycle.Closed := closed_of_isBelow (by decide)
  have hnames : sharedCycle.NamesKeys := namesKeys_iff.mpr (by decide +kernel)
  exact ⟨hclosed, hnames, (copied_isCopy hclosed (by decide)).1 hnames⟩

/-- A mapping with a key in which an integer has too many digits. -/
def overlongKeyed : Datum := ⟨⟨#[.mapping [(.tuple [.int (10 ^ digitLimit)], .null)]]⟩, .ref 0⟩

/-- It has no copy. -/
theorem copied_overlongKeyed :
    overlongKeyed.Closed ∧ ∀ depth, overlongKeyed.store.containers.size < depth →
      overlongKeyed.copied depth = .error (.key ⟨⟩) := by
  have hclosed : overlongKeyed.Closed := closed_of_isBelow (by decide)
  have hnot : ¬ overlongKeyed.NamesKeys := by
    rw [namesKeys_iff]
    decide +kernel
  exact ⟨hclosed, fun _ hdepth => copied_eq_error hclosed hdepth hnot⟩

end Datum

end YamlAudit
