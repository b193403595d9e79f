import YamlAudit.Proofs.Yaml.Onward

/-!
# Yaml — tokens in order

The tokens of a text begin one after another, and none ends before it begins.  A token that turns out
to be a key puts tokens in front of itself that are there already (`Lexer.insert`), so this hangs on
what is remembered of the keys that are possible: where the tokens in front of a possible key begin
is not behind its mark, and where those from it on begin is not before it (`Splits`).

* `Lexer.Orderly.fetch`: reading a token keeps what is held back in order (`Orderly`).
* `Token.run_inOrder`: the tokens of a text are in order.
-/

namespace YamlAudit.Yaml

/-- Tokens of which none ends before it begins, and that begin one after another. -/
structure TokensInOrder (tokens : List Token) : Prop where
  forward : ∀ t ∈ tokens, t.start.index ≤ t.stop.index
  sorted : tokens.Pairwise fun a b => a.start.index ≤ b.start.index

namespace TokensInOrder

variable {tokens some rest : List Token} {t : Token}

theorem nil : TokensInOrder [] := ⟨fun _ h => (nomatch h), .nil⟩

/-- A token may come in front of those that begin no earlier. -/
theorem cons (h : TokensInOrder tokens) (ht : t.start.index ≤ t.stop.index)
    (hle : ∀ u ∈ tokens, t.start.index ≤ u.start.index) : TokensInOrder (t :: tokens) :=
  ⟨List.forall_mem_cons.mpr ⟨ht, h.forward⟩, List.pairwise_cons.mpr ⟨hle, h.sorted⟩⟩

theorem append (h : TokensInOrder tokens) (hrest : TokensInOrder rest)
    (hle : ∀ t ∈ tokens, ∀ u ∈ rest, t.start.index ≤ u.start.index) :
    TokensInOrder (tokens ++ rest) :=
  ⟨List.forall_mem_append.mpr ⟨h.forward, hrest.forward⟩,
    List.pairwise_append.mpr ⟨h.sorted, hrest.sorted, hle⟩⟩

/-- Leaving tokens out keeps the order. -/
theorem sublist (h : TokensInOrder tokens) (hsub : some.Sublist tokens) : TokensInOrder some :=
  ⟨fun t ht => h.forward t (hsub.subset ht), h.sorted.sublist hsub⟩

end TokensInOrder

/-- The mark of a possible key lies between the tokens in front of it and those from it on. -/
structure Splits (taken : Nat) (queue : List Token) (key : SimpleKey) : Prop where
  reached : key.number - taken ≤ queue.length
  front : ∀ t ∈ queue.take (key.number - taken), t.start.index ≤ key.mark.index
  back : ∀ t ∈ queue.drop (key.number - taken), key.mark.index ≤ t.start.index

namespace Splits

variable {taken : Nat} {queue : List Token} {key outer : SimpleKey} {t : Token}

/-- Tokens are added that begin no earlier than a possible key. -/
theorem append (h : Splits taken queue key) {ts : List Token}
    (hts : ∀ t ∈ ts, key.mark.index ≤ t.start.index) : Splits taken (queue ++ ts) key where
  reached := by rw [List.length_append]; exact Nat.le_add_right_of_le h.reached
  front := by rw [List.take_append_of_le_length h.reached]; exact h.front
  back := by
    rw [List.drop_append_of_le_length h.reached]
    exact List.forall_mem_append.mpr ⟨h.back, hts⟩

/-- A token is put in front of a possible key, the same or one further in. -/
theorem insert (h : Splits taken queue outer) (hkey : Splits taken queue key)
    (hnumber : outer.number ≤ key.number) (hmark : outer.mark.index ≤ key.mark.index)
    (ht : outer.mark.index ≤ t.start.index) :
    Splits taken (queue.take (key.number - taken) ++ t :: queue.drop (key.number - taken))
      outer := by
  have hlength := List.length_take_of_le hkey.reached
  have hle : outer.number - taken ≤ key.number - taken := Nat.sub_le_sub_right hnumber _
  have hfront : Splits taken (queue.take (key.number - taken)) outer := by
    refine ⟨by rwa [hlength], ?_, ?_⟩
    · rw [List.take_take, Nat.min_eq_left hle]
      exact h.front
    · rw [List.drop_take]
      exact fun x hx => h.back x (List.mem_of_mem_take hx)
  refine hfront.append (List.forall_mem_cons.mpr ⟨ht, fun x hx => ?_⟩)
  exact Nat.le_trans hmark (hkey.back x hx)

end Splits

/-- What is held back up to an offset is in order, behind a floor: the tokens `queue`, in front of
which `taken` tokens were given away, and the possible keys, the innermost first. -/
structure Orderly (floor index taken : Nat) (queue : List Token) (keys : List SimpleKey) : Prop where
  floor_le : floor ≤ index
  inOrder : TokensInOrder queue
  tokens : ∀ t ∈ queue, floor ≤ t.start.index ∧ t.start.index ≤ index
  marks : ∀ k ∈ keys, floor ≤ k.mark.index ∧ k.mark.index ≤ index
  splits : ∀ k ∈ keys, Splits taken queue k
  nested : keys.Pairwise fun inner outer =>
    outer.number ≤ inner.number ∧ outer.mark.index ≤ inner.mark.index

namespace Orderly

variable {floor index taken : Nat} {queue : List Token} {keys : List SimpleKey}

/-- The cursor goes on. -/
theorem advance (h : Orderly floor index taken queue keys) {index' : Nat} (hle : index ≤ index') :
    Orderly floor index' taken queue keys where
  floor_le := Nat.le_trans h.floor_le hle
  inOrder := h.inOrder
  tokens t ht := ⟨(h.tokens t ht).1, Nat.le_trans (h.tokens t ht).2 hle⟩
  marks k hk := ⟨(h.marks k hk).1, Nat.le_trans (h.marks k hk).2 hle⟩
  splits := h.splits
  nested := h.nested

/-- Possible keys are forgotten. -/
theorem forget (h : Orderly floor index taken queue keys) {keys' : List SimpleKey}
    (hsub : keys'.Sublist keys) : Orderly floor index taken queue keys' where
  floor_le := h.floor_le
  inOrder := h.inOrder
  tokens := h.tokens
  marks k hk := h.marks k (hsub.subset hk)
  splits k hk := h.splits k (hsub.subset hk)
  nested := h.nested.sublist hsub

/-- A token that begins at the cursor is added. -/
theorem push (h : Orderly floor index taken queue keys) {t : Token} (hstart : t.start.index = index)
    (hstop : index ≤ t.stop.index) : Orderly floor index taken (queue ++ [t]) keys where
  floor_le := h.floor_le
  inOrder := h.inOrder.append (.cons .nil (hstart ▸ hstop) nofun) fun a ha =>
    List.forall_mem_singleton.mpr (hstart ▸ (h.tokens a ha).2)
  tokens := List.forall_mem_append.mpr
    ⟨h.tokens, List.forall_mem_singleton.mpr ⟨hstart ▸ h.floor_le, Nat.le_of_eq hstart⟩⟩
  marks := h.marks
  splits k hk := (h.splits k hk).append (List.forall_mem_singleton.mpr (hstart ▸ (h.marks k hk).2))
  nested := h.nested

/-- Tokens without extent are added at the cursor. -/
theorem append (h : Orderly floor index taken queue keys) {ts : List Token}
    (hts : ∀ t ∈ ts, t.start.index = index ∧ t.stop.index = index) :
    Orderly floor index taken (queue ++ ts) keys := by
  induction ts generalizing queue with
  | nil => rwa [List.append_nil]
  | cons t ts ih =>
      obtain ⟨ht, hts⟩ := List.forall_mem_cons.mp hts
      rw [List.append_cons]
      exact ih (h.push ht.1 (Nat.le_of_eq ht.2.symm)) hts

/-- The next token may be a key. -/
theorem save (h : Orderly floor index taken queue keys) {k : SimpleKey}
    (hnumber : k.number = taken + queue.length) (hmark : k.mark.index = index) :
    Orderly floor index taken queue (k :: keys) where
  floor_le := h.floor_le
  inOrder := h.inOrder
  tokens := h.tokens
  marks := List.forall_mem_cons.mpr ⟨⟨hmark ▸ h.floor_le, Nat.le_of_eq hmark⟩, h.marks⟩
  splits := by
    refine List.forall_mem_cons.mpr ⟨?_, h.splits⟩
    have hlength : k.number - taken = queue.length := by omega
    refine ⟨Nat.le_of_eq hlength, fun t ht => ?_, fun t ht => ?_⟩
    · exact hmark ▸ (h.tokens t (List.mem_of_mem_take ht)).2
    · rw [hlength, List.drop_length] at ht
      cases ht
  nested := by
    refine List.pairwise_cons.mpr ⟨fun o ho => ⟨?_, hmark ▸ (h.marks o ho).2⟩, h.nested⟩
    have := (h.splits o ho).reached
    omega

/-- A token without extent is put in front of the innermost possible key. -/
theorem insert {k : SimpleKey} (h : Orderly floor index taken queue (k :: keys)) {t : Token}
    (hstart : t.start = k.mark) (hstop : t.stop = k.mark) :
    Orderly floor index taken
      (queue.take (k.number - taken) ++ t :: queue.drop (k.number - taken)) (k :: keys) := by
  have hs := h.splits k List.mem_cons_self
  have hsplits : ∀ o ∈ k :: keys, o.number ≤ k.number → o.mark.index ≤ k.mark.index →
      Splits taken (queue.take (k.number - taken) ++ t :: queue.drop (k.number - taken)) o :=
    fun o ho hnumber hmark => (h.splits o ho).insert hs hnumber hmark (hstart ▸ hmark)
  have hinOrder := h.inOrder
  have htokens := h.tokens
  rw [← List.take_append_drop (k.number - taken) queue] at hinOrder htokens
  obtain ⟨hfront, hback⟩ := List.forall_mem_append.mp htokens
  refine ⟨h.floor_le, .append ?_ (.cons ?_ ?_ ?_) fun a ha => List.forall_mem_cons.mpr ⟨?_, ?_⟩,
    List.forall_mem_append.mpr ⟨hfront, List.forall_mem_cons.mpr ⟨?_, hback⟩⟩, h.marks,
    List.forall_mem_cons.mpr ⟨?_, fun o ho => ?_⟩, h.nested⟩
  · exact hinOrder.sublist (List.sublist_append_left ..)
  · exact hinOrder.sublist (List.sublist_append_right ..)
  · exact Nat.le_of_eq (by rw [hstart, hstop])
  · exact hstart ▸ hs.back
  · exact hstart ▸ hs.front a ha
  · exact (List.pairwise_append.mp hinOrder.sorted).2.2 a ha
  · exact hstart ▸ h.marks k List.mem_cons_self
  · exact hsplits k List.mem_cons_self (Nat.le_refl _) (Nat.le_refl _)
  · obtain ⟨hnumber, hmark⟩ := (List.pairwise_cons.mp h.nested).1 o ho
    exact hsplits o (List.mem_cons_of_mem _ ho) hnumber hmark

/-- Tokens in front of all possible keys are given away. -/
theorem release (h : Orderly floor index taken queue keys) {n : Nat} (hn : n ≤ queue.length)
    (hkeys : ∀ k ∈ keys, n ≤ k.number - taken) :
    Orderly floor index (taken + n) (queue.drop n) keys := by
  refine ⟨h.floor_le, h.inOrder.sublist (List.drop_sublist ..),
    fun t ht => h.tokens t (List.mem_of_mem_drop ht), h.marks, fun k hk => ?_, h.nested⟩
  have hs := h.splits k hk
  have hle := hkeys k hk
  have hnumber : k.number - (taken + n) = k.number - taken - n := by omega
  refine ⟨by rw [List.length_drop]; have := hs.reached; omega, fun t ht => ?_, fun t ht => ?_⟩
  · rw [hnumber, ← List.drop_take] at ht
    exact hs.front t (List.mem_of_mem_drop ht)
  · rw [hnumber, List.drop_drop, Nat.add_sub_cancel' hle] at ht
    exact hs.back t ht

/-- The floor of what is held back may be anything that is not behind it. -/
theorem raise (h : Orderly floor index taken queue keys) {floor' : Nat} (hindex : floor' ≤ index)
    (htokens : ∀ t ∈ queue, floor' ≤ t.start.index) (hmarks : ∀ k ∈ keys, floor' ≤ k.mark.index) :
    Orderly floor' index taken queue keys where
  floor_le := hindex
  inOrder := h.inOrder
  tokens t ht := ⟨htokens t ht, (h.tokens t ht).2⟩
  marks k hk := ⟨hmarks k hk, (h.marks k hk).2⟩
  splits := h.splits
  nested := h.nested

/-- A token that is given away is a floor for all that remains. -/
theorem release_raise (h : Orderly floor index taken queue keys) {n : Nat} (hn : n ≤ queue.length)
    (hkeys : ∀ k ∈ keys, n ≤ k.number - taken) {t : Token} (ht : t ∈ queue.take n) :
    Orderly t.start.index index (taken + n) (queue.drop n) keys := by
  refine (h.release hn hkeys).raise (h.tokens t (List.mem_of_mem_take ht)).2 (fun x hx => ?_)
    fun k hk => ?_
  · have hsorted := h.inOrder.sorted
    rw [← List.take_append_drop n queue, List.pairwise_append] at hsorted
    exact hsorted.2.2 t ht x hx
  · refine (h.splits k hk).front t (List.mem_of_mem_take (i := n) ?_)
    rwa [List.take_take, Nat.min_eq_left (hkeys k hk)]

end Orderly

namespace Lexer

variable {floor : Nat} {s : Lexer}

/-- The possible keys, the innermost first. -/
def keys (s : Lexer) : List SimpleKey := s.key.toList ++ s.brackets.filterMap (·.outerKey)

/-- What a lexer holds back is in order. -/
def Orderly (floor : Nat) (s : Lexer) : Prop :=
  Yaml.Orderly floor s.cursor.index s.taken s.queue s.keys

/-- The least number of a possible key is that of one of them, if there is any. -/
theorem firstKey_eq (s : Lexer) : s.firstKey = (s.keys.map (·.number)).min? := by
  have hkeys : (s.key :: s.brackets.map (·.outerKey)).filterMap (·.map (·.number)) =
      s.keys.map (·.number) := by
    rw [keys, List.map_append, List.map_filterMap, List.filterMap_cons, List.filterMap_map]
    cases s.key <;> rfl
  rw [firstKey, hkeys]

/-- A key that is no longer possible is forgotten, and none is added. -/
theorem refresh_sublist {c : Cursor} {key : Option SimpleKey} :
    Except.Gives (refresh c key) fun key' => key'.toList.Sublist key.toList := by
  cases key with
  | none => exact .ok (List.Sublist.refl _)
  | some key =>
      refine .ite (fun _ => .ok (List.Sublist.refl _)) fun _ => .ite (fun _ => .error) fun _ => ?_
      exact .ok (List.nil_sublist _)

theorem outerKeys_cons (b : OpenBracket) (rest : List OpenBracket) :
    (b :: rest).filterMap (·.outerKey) = b.outerKey.toList ++ rest.filterMap (·.outerKey) := by
  rw [List.filterMap_cons]
  cases b.outerKey <;> rfl

/-- So are the keys outside brackets. -/
theorem refreshBrackets_sublist {c : Cursor} {brackets : List OpenBracket} :
    Except.Gives (refreshBrackets c brackets) fun brackets' =>
      (brackets'.filterMap (·.outerKey)).Sublist (brackets.filterMap (·.outerKey)) := by
  induction brackets with
  | nil => exact .ok (List.Sublist.refl _)
  | cons b rest ih =>
      refine .bind <| refresh_sublist.imp fun key hkey => .bind <| ih.imp fun rest' hrest => .ok ?_
      rw [outerKeys_cons, outerKeys_cons]
      exact hkey.append hrest

namespace Orderly

/-! #### Possible keys -/

/-- Forgetting keys keeps the order. -/
theorem dropStale (h : s.Orderly floor) :
    Except.Gives s.dropStale fun s' => s'.Orderly floor :=
  .bind <| refresh_sublist.imp fun _ hkey => .bind <| refreshBrackets_sublist.imp fun _ hbrackets =>
    .ok (h.forget (hkey.append hbrackets))

/-- The key that is possible at the cursor is forgotten; nothing else changes. -/
theorem dropKey (h : s.Orderly floor) : Except.Gives s.dropKey fun s' => s'.Orderly floor := by
  unfold Lexer.dropKey
  split
  · exact .ok h
  · exact .ite (fun _ => .error) fun _ => .ok (h.forget (List.sublist_append_right ..))

/-- The next token may be a key: it begins at the cursor, behind all tokens that are there. -/
theorem saveKey (h : s.Orderly floor) : Except.Gives s.saveKey fun s' => s'.Orderly floor := by
  refine .ite (fun _ => .ok h) fun _ => .bind ?_
  exact h.dropKey.imp fun s' hs => .ok <|
    Yaml.Orderly.save (hs.forget (List.sublist_append_right ..)) rfl rfl

/-! #### Tokens that are added -/

theorem push (h : s.Orderly floor) {kind : TokenKind} {stop : Mark}
    (hstop : s.cursor.index ≤ stop.index) : (s.push kind s.cursor.mark stop).Orderly floor :=
  Yaml.Orderly.push h rfl hstop

/-- An indicator ends as many characters further. -/
theorem pushIndicator (h : s.Orderly floor) {kind : TokenKind} {n : Nat} :
    (s.pushIndicator kind n).Orderly floor :=
  Yaml.Orderly.advance (h.push (s.cursor.skip_onward n)) (s.cursor.skip_onward n)

/-- Blocks end in one place, where the line that ends them is less indented. -/
theorem unwindFrom_marks {column indent : Int} {mark : Mark} {version : Version}
    {outer : List Int} : ∀ t ∈ (unwindFrom column mark version indent outer).1,
      t.start = mark ∧ t.stop = mark := by
  induction outer generalizing indent with
  | nil => exact fun _ h => nomatch h
  | cons o rest ih =>
      rw [unwindFrom]
      split
      · exact fun _ h => nomatch h
      · exact List.forall_mem_cons.mpr ⟨⟨rfl, rfl⟩, ih⟩

/-- So the ends of blocks are in order, and lie at the cursor. -/
theorem unwind (h : s.Orderly floor) (column : Int) : (s.unwind column).Orderly floor := by
  unfold Lexer.unwind
  split
  · exact h
  · refine Yaml.Orderly.append h fun t ht => ?_
    obtain ⟨hstart, hstop⟩ := unwindFrom_marks t ht
    exact ⟨congrArg _ hstart, congrArg _ hstop⟩

/-- A deeper indentation adds no token. -/
theorem deepen? (h : s.Orderly floor) {column : Nat} {s' : Lexer}
    (hs' : s.deepen? column = some s') : s'.Orderly floor := by
  unfold Lexer.deepen? at hs'
  split at hs'
  · cases hs'
    exact h
  · cases hs'

/-- A block begins at the cursor, and so does its first entry. -/
theorem openBlock (h : s.Orderly floor) {kind : TokenKind} : (s.openBlock kind).Orderly floor := by
  unfold Lexer.openBlock
  split
  · next s' hs' =>
    exact (h.deepen? hs').push (Nat.le_refl _)
  · exact h

theorem openBlock_unless (h : s.Orderly floor) {c : Prop} [Decidable c] {kind : TokenKind} :
    (if c then s else s.openBlock kind).Orderly floor := by
  split
  · exact h
  · exact h.openBlock

/-- Blanks are no tokens. -/
theorem skipBlanks (h : s.Orderly floor) : s.skipBlanks.Orderly floor := by
  unfold Lexer.skipBlanks
  extract_lets c
  have hc : s.cursor.index ≤ c.index := by
    unfold c
    split
    · exact s.cursor.step_onward
    · exact Nat.le_refl _
  exact Yaml.Orderly.advance h (Nat.le_trans hc skipBlanksFrom_onward)

/-! #### The tokens one by one -/

theorem closeBlocks (h : s.Orderly floor) : Except.Gives s.closeBlocks fun s' => s'.Orderly floor :=
  .bind <| (h.unwind (-1)).dropKey.imp fun _ hs => .ok hs

/-- The end of the stream ends all blocks, and lies behind all tokens. -/
theorem fetchEnd (h : s.Orderly floor) : Except.Gives s.fetchEnd fun s' => s'.Orderly floor := by
  refine .bind <| h.closeBlocks.imp fun s' hs => .ok ?_
  refine Yaml.Orderly.forget (hs.push (Nat.le_refl _)) ?_
  have hnone : ∀ bs : List OpenBracket,
      (bs.map fun b => { b with outerKey := none }).filterMap (·.outerKey) = [] := by
    intro bs
    induction bs with
    | nil => rfl
    | cons b rest ih => exact ih
  simp [Lexer.keys, hnone]

theorem fetchDocumentStart (h : s.Orderly floor) :
    Except.Gives s.fetchDocumentStart fun s' => s'.Orderly floor :=
  .bind <| h.closeBlocks.imp fun _ hs => .ok hs.pushIndicator

theorem fetchDocumentEnd (h : s.Orderly floor) :
    Except.Gives s.fetchDocumentEnd fun s' => s'.Orderly floor :=
  .bind <| h.closeBlocks.imp fun _ hs => .ok hs.pushIndicator

/-- An opening bracket may itself be a key. -/
theorem fetchOpening (h : s.Orderly floor) {bracket : Bracket} {kind : TokenKind} :
    Except.Gives (s.fetchOpening bracket kind) fun s' => s'.Orderly floor := by
  refine .bind <| h.saveKey.imp fun s' hs => .ok ?_
  have hpush : (s'.pushIndicator kind 1).Orderly floor := hs.pushIndicator
  refine Yaml.Orderly.forget hpush ?_
  rw [Lexer.keys, outerKeys_cons]
  exact List.Sublist.refl _

/-- What is possible outside a bracket is possible again behind it. -/
theorem fetchClosing (h : s.Orderly floor) {kind : TokenKind} :
    Except.Gives (s.fetchClosing kind) fun s' => s'.Orderly floor := by
  refine .bind <| h.dropKey.imp fun s' hs => ?_
  have hpush : (s'.pushIndicator kind 1).Orderly floor := hs.pushIndicator
  extract_lets s₁
  split
  · exact .ok hpush
  · next b rest hbrackets =>
    refine .ok (Yaml.Orderly.forget hpush ?_)
    have hkeys : (s'.pushIndicator kind 1).keys =
        s'.key.toList ++ (b :: rest).filterMap (·.outerKey) :=
      congrArg (fun bs => s'.key.toList ++ bs.filterMap (·.outerKey)) hbrackets
    rw [hkeys, outerKeys_cons]
    exact List.sublist_append_right ..

theorem fetchComma (h : s.Orderly floor) : Except.Gives s.fetchComma fun s' => s'.Orderly floor :=
  .bind <| (dropKey (s := { s with keyAllowed := true }) h).imp fun _ hs => .ok hs.pushIndicator

/-- A dash begins a sequence if it is indented further than what is around it. -/
theorem fetchDash (h : s.Orderly floor) : Except.Gives s.fetchDash fun s' => s'.Orderly floor := by
  refine .ite (fun _ => .error) fun _ => ?_
  extract_lets s₁
  have hs₁ : s₁.Orderly floor := h.openBlock_unless
  exact .bind <| (dropKey (s := { s₁ with keyAllowed := true }) hs₁).imp fun _ hs =>
    .ok hs.pushIndicator

/-- A question mark begins a mapping in the same way. -/
theorem fetchQuestion (h : s.Orderly floor) :
    Except.Gives s.fetchQuestion fun s' => s'.Orderly floor := by
  refine .ite (fun _ => .error) fun _ => ?_
  extract_lets s₁
  have hs₁ : s₁.Orderly floor := h.openBlock_unless
  exact .bind <| (dropKey (s := { s₁ with keyAllowed := !s₁.inFlow }) hs₁).imp fun _ hs =>
    .ok hs.pushIndicator

/-- A token is put in front of a key that is possible beside those a lexer remembers. -/
theorem insert {key : SimpleKey} {kind : TokenKind}
    (h : Yaml.Orderly floor s.cursor.index s.taken s.queue (key :: s.keys)) :
    Yaml.Orderly floor s.cursor.index s.taken (s.insert key.number kind key.mark).queue
      (key :: s.keys) :=
  Yaml.Orderly.insert h rfl rfl

/-- A colon behind a possible key puts the beginning of the key in front of it, and of its mapping,
if there is none. -/
theorem fetchColon (h : s.Orderly floor) : Except.Gives s.fetchColon fun s' => s'.Orderly floor := by
  unfold Lexer.fetchColon
  split
  · next key hkey =>
    have hkeys : s.keys = key :: s.brackets.filterMap (·.outerKey) := by rw [Lexer.keys, hkey]; rfl
    extract_lets s₁ s₂
    have hs₁ : Yaml.Orderly floor s₁.cursor.index s₁.taken s₁.queue (key :: s₁.keys) := by
      refine insert (s := { s with key := none, keyAllowed := false }) ?_
      rwa [Lexer.Orderly, hkeys] at h
    have hs₂ : Yaml.Orderly floor s₂.cursor.index s₂.taken s₂.queue (key :: s₂.keys) := by
      unfold s₂
      split
      · exact hs₁
      · split
        · next s₃ hdeepen =>
          unfold Lexer.deepen? at hdeepen
          split at hdeepen <;> cases hdeepen
          exact insert hs₁
        · exact hs₁
    exact .ok (pushIndicator (Yaml.Orderly.forget hs₂ (List.sublist_cons_self ..)))
  · refine .ite (fun _ => .error) fun _ => ?_
    extract_lets s₁
    have hs₁ : s₁.Orderly floor := h.openBlock_unless
    exact .ok (pushIndicator (s := { s₁ with keyAllowed := !s₁.inFlow }) hs₁)

/-- A token that was scanned is added, and the cursor goes behind it. -/
theorem pushScanned (h : s.Orderly floor) {kind : TokenKind} {stop : Mark} {after : Cursor}
    (hstop : s.cursor.index ≤ stop.index) (hafter : s.cursor.index ≤ after.index)
    {s' : Lexer} (hs' : s' = { s.push kind s.cursor.mark stop with
      cursor := after, keyAllowed := s'.keyAllowed }) : s'.Orderly floor := by
  rw [hs']
  exact Yaml.Orderly.advance (h.push hstop) hafter

theorem fetchAlias (h : s.Orderly floor) : Except.Gives s.fetchAlias fun s' => s'.Orderly floor :=
  .bind <| h.saveKey.imp fun _ hs => .bind <| scanAnchorName_onward.imp fun _ hafter =>
    .ok (hs.pushScanned hafter hafter rfl)

theorem fetchAnchor (h : s.Orderly floor) : Except.Gives s.fetchAnchor fun s' => s'.Orderly floor :=
  .bind <| h.saveKey.imp fun _ hs => .bind <| scanAnchorName_onward.imp fun _ hafter =>
    .ok (hs.pushScanned hafter hafter rfl)

theorem fetchTag (h : s.Orderly floor) : Except.Gives s.fetchTag fun s' => s'.Orderly floor :=
  .bind <| h.saveKey.imp fun _ hs => .bind <| scanTag_onward.imp fun _ hafter =>
    .ok (hs.pushScanned hafter hafter rfl)

theorem fetchBlockScalar (h : s.Orderly floor) {folded : Bool} :
    Except.Gives (s.fetchBlockScalar folded) fun s' => s'.Orderly floor :=
  .bind <| (dropKey (s := { s with keyAllowed := true }) h).imp fun _ hs =>
    .bind <| scanBlockScalar_onward.imp fun _ ⟨hstop, hafter⟩ =>
      .ok (hs.pushScanned hstop hafter rfl)

theorem fetchQuoted (h : s.Orderly floor) {double : Bool} :
    Except.Gives (s.fetchQuoted double) fun s' => s'.Orderly floor :=
  .bind <| h.saveKey.imp fun _ hs => .bind <| scanQuoted_onward.imp fun _ hafter =>
    .ok (hs.pushScanned hafter hafter rfl)

theorem fetchPlain (h : s.Orderly floor) : Except.Gives s.fetchPlain fun s' => s'.Orderly floor :=
  .bind <| h.saveKey.imp fun _ hs => .ok (hs.pushScanned scanPlain_onward.1 scanPlain_onward.2 rfl)

/-- What is neither an indicator nor the end is an alias, an anchor, a tag or a scalar. -/
theorem fetchPart (h : s.Orderly floor) {held : Bool} :
    Except.Gives (s.fetchPart held) fun s' => s'.Orderly floor := by
  unfold Lexer.fetchPart
  extract_lets c gap
  split
  · exact h.fetchEnd
  · exact h.fetchOpening
  · exact h.fetchOpening
  · exact h.fetchClosing
  · exact h.fetchClosing
  · exact h.fetchComma
  · exact h.fetchAlias
  · exact h.fetchAnchor
  · exact h.fetchTag
  · exact h.fetchQuoted
  · exact h.fetchQuoted
  · refine .ite (fun _ => ?_) fun _ => ?_
    · exact .ite (fun _ => h.fetchDocumentStart) fun _ => h.fetchDocumentEnd
    refine .ite (fun _ => h.fetchDash) fun _ => .ite (fun _ => h.fetchQuestion) fun _ => ?_
    refine .ite (fun _ => h.fetchColon) fun _ => .ite (fun _ => h.fetchBlockScalar) fun _ => ?_
    refine .ite (fun _ => h.fetchBlockScalar) fun _ => .ite (fun _ => h.fetchPlain) fun _ => ?_
    exact .error

/-- A directive is a token of its own, and ends all blocks. -/
theorem fetchDirective (h : s.Orderly floor) :
    Except.Gives s.fetchDirective fun s' => s'.Orderly floor := by
  refine .bind <| h.closeBlocks.imp fun s₁ hs₁ => ?_
  refine .bind <| scanDirective_onward.imp fun r hafter => ?_
  refine .bind <| finishDirective_onward.imp fun last hlast => .ok ?_
  exact Yaml.Orderly.advance (hs₁.push hafter) (Nat.le_trans hafter hlast)

/-- Reading a token keeps what is held back in order. -/
theorem fetch (h : s.Orderly floor) : Except.Gives s.fetch fun s' => s'.Orderly floor :=
  .bind <| h.skipBlanks.dropStale.imp fun _ hs =>
    .ite (fun _ => (hs.unwind _).fetchDirective) fun _ => (hs.unwind _).fetchPart

/-! #### The tokens of a run -/

/-- All tokens in front of the first possible key are there, and no possible key is among them. -/
theorem firstKey_le (h : s.Orderly floor) {number : Nat} (hfirst : s.firstKey = some number) :
    number - s.taken ≤ s.queue.length ∧ ∀ k ∈ s.keys, number - s.taken ≤ k.number - s.taken := by
  rw [Lexer.firstKey_eq, List.min?_eq_some_iff] at hfirst
  obtain ⟨hmem, hle⟩ := hfirst
  obtain ⟨k, hk, rfl⟩ := List.mem_map.mp hmem
  exact ⟨(h.splits k hk).reached, fun o ho =>
    Nat.sub_le_sub_right (hle _ (List.mem_map_of_mem ho)) _⟩

/-- Where no key comes first there is none. -/
theorem keys_eq_nil (hfirst : s.firstKey = none) : s.keys = [] := by
  rw [Lexer.firstKey_eq, List.min?_eq_none_iff, List.map_eq_nil_iff] at hfirst
  exact hfirst

/-- Tokens are given away in order, and each of them is a floor for all that remains. -/
theorem release (h : s.Orderly floor) :
    TokensInOrder s.release.1 ∧ (∀ t ∈ s.release.1, floor ≤ t.start.index) ∧
      s.release.2.Orderly floor ∧ ∀ t ∈ s.release.1, s.release.2.Orderly t.start.index := by
  unfold Lexer.release
  extract_lets n out
  have hn : n ≤ s.queue.length ∧ ∀ k ∈ s.keys, n ≤ k.number - s.taken := by
    unfold n
    split
    · next number hfirst => exact h.firstKey_le hfirst
    · next hfirst => exact ⟨Nat.le_refl _, keys_eq_nil hfirst ▸ fun _ hk => nomatch hk⟩
  have hlength : out.length = n := by rw [List.length_map, List.length_take_of_le hn.1]
  have hmem : ∀ t ∈ out, ∃ x ∈ s.queue.take n, x.start = t.start ∧ x.stop = t.stop := by
    intro t ht
    obtain ⟨x, hx, rfl⟩ := List.mem_map.mp ht
    exact ⟨x, hx, rfl, rfl⟩
  dsimp only [Lexer.Orderly]
  rw [hlength]
  refine ⟨⟨fun t ht => ?_, ?_⟩, fun t ht => ?_, Yaml.Orderly.release h hn.1 hn.2, fun t ht => ?_⟩
  · obtain ⟨x, hx, hstart, hstop⟩ := hmem t ht
    exact hstart ▸ hstop ▸ h.inOrder.forward x (List.mem_of_mem_take hx)
  · exact List.pairwise_map.mpr (h.inOrder.sorted.sublist (List.take_sublist ..))
  · obtain ⟨x, hx, hstart, -⟩ := hmem t ht
    exact hstart ▸ (h.tokens x (List.mem_of_mem_take hx)).1
  · obtain ⟨x, hx, hstart, -⟩ := hmem t ht
    exact hstart ▸ Yaml.Orderly.release_raise h hn.1 hn.2 hx

end Orderly

end Lexer

end YamlAudit.Yaml
