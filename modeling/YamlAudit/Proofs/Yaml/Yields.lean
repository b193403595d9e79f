import YamlAudit.Proofs.Yaml.Gives

/-!
# Yaml — what the grammar yields

Each rule of the grammar yields one part and says what comes next; it looks at nothing on the stack.
`Yields e kind pushed` lists, for every expectation, which kinds of parts can come and what is
expected after them.

* `expected_yields`: the rules of the grammar do no more than that.

Rules that change nothing but the tokens are `Still`; the others are taken apart into these and what
they push.  Which of several parts comes, and where it lies, is left open: for the order in which
parts can come it is enough to know what is expected next.
-/

namespace YamlAudit.Yaml

/-- What a node begins with, and what is expected inside it. -/
inductive NodeYields : MarkupKind → List Expected → Prop
  | alias {name} : NodeYields (.alias name) []
  | scalar {p untyped value} : NodeYields (.scalar p untyped value) []
  | indentless {p} : NodeYields (.sequenceStart p) [.indentlessEntry]
  | flowSequence {p} : NodeYields (.sequenceStart p) [.flowSequenceFirst]
  | blockSequence {p} : NodeYields (.sequenceStart p) [.blockSequenceFirst]
  | flowMapping {p} : NodeYields (.mappingStart p) [.flowMappingFirst]
  | blockMapping {p} : NodeYields (.mappingStart p) [.blockMappingFirst]

namespace Expected

/-- What is expected after the node that is expected here. -/
def after : Expected → List (List Expected)
  | documentContent | blockNode => [[]]
  | blockSequenceFirst | blockSequenceEntry => [[blockSequenceEntry]]
  | indentlessEntry => [[indentlessEntry]]
  | blockMappingFirst | blockMappingKey => [[blockMappingValue]]
  | blockMappingValue => [[blockMappingKey]]
  | flowSequenceFirst | flowSequenceEntry => [[flowSequenceEntry]]
  | flowPairKey => [[flowPairValue]]
  | flowPairValue => [[flowPairEnd]]
  | flowMappingFirst | flowMappingKey => [[flowMappingValue], [flowMappingNoValue]]
  | flowMappingValue | flowMappingNoValue => [[flowMappingKey]]
  | _ => []

/-- Whether a sequence may end here. -/
def endsSequence : Expected → Bool
  | blockSequenceFirst | blockSequenceEntry | indentlessEntry | flowSequenceFirst
  | flowSequenceEntry => true
  | _ => false

/-- Whether a mapping may end here. -/
def endsMapping : Expected → Bool
  | blockMappingFirst | blockMappingKey | flowMappingFirst | flowMappingKey => true
  | _ => false

/-- Whether a pair may stand among the entries of a sequence here. -/
def allowsPair : Expected → Bool
  | flowSequenceFirst | flowSequenceEntry => true
  | _ => false

/-- Whether a document may begin here. -/
def beginsDocument : Expected → Bool
  | firstDocument | document => true
  | _ => false

end Expected

/-- What can come where something is expected, and what is expected then. -/
inductive Yields : Expected → MarkupKind → List Expected → Prop
  | node {e kind inner next} : next ∈ e.after → NodeYields kind inner → Yields e kind (inner ++ next)
  | sequenceEnd {e} : e.endsSequence → Yields e .sequenceEnd []
  | mappingEnd {e} : e.endsMapping → Yields e .mappingEnd []
  | pair {e} : e.allowsPair → Yields e (.mappingStart ⟨none, none⟩) [.flowPairKey]
  | pairEnd : Yields .flowPairEnd .mappingEnd [.flowSequenceEntry]
  | documentStart {e content} : e.beginsDocument → content = .documentContent ∨ content = .blockNode →
      Yields e .documentStart [content, .documentEnd]
  | streamEnd {e} : e.beginsDocument → Yields e .streamEnd []
  | documentEnd {e} : e.beginsDocument → Yields .documentEnd .documentEnd [e]

namespace Yields

variable {e : Expected} {kind : MarkupKind} {pushed : List Expected}

/-- Where a document may begin there is its first line, or the end of the stream. -/
theorem of_beginsDocument (he : e.beginsDocument) (h : Yields e kind pushed) :
    (kind = .documentStart ∧ ∃ content, (content = .documentContent ∨ content = .blockNode) ∧
        pushed = [content, .documentEnd]) ∨ (kind = .streamEnd ∧ pushed = []) := by
  cases h with
  | documentStart _ hc => exact .inl ⟨rfl, _, hc, rfl⟩
  | streamEnd => exact .inr ⟨rfl, rfl⟩
  | node h | sequenceEnd h | mappingEnd h | pair h => cases e <;> cases he <;> cases h
  | pairEnd | documentEnd => cases he

/-- A document that has ended is followed by another or by the end of the stream. -/
theorem of_documentEnd (h : Yields .documentEnd kind pushed) :
    kind = .documentEnd ∧ ∃ e : Expected, e.beginsDocument ∧ pushed = [e] := by
  cases h with
  | documentEnd he => exact ⟨rfl, _, he, rfl⟩
  | node h | sequenceEnd h | mappingEnd h | pair h | documentStart h | streamEnd h => cases h

end Yields

namespace Rule

/-- A rule that leaves what is expected as it is, and goes on in the tokens at most. -/
def Still {α : Type} (x : Rule α) : Prop :=
  ∀ r, Gives x r fun _ r' => r'.stack = r.stack ∧ r'.tokens <:+ r.tokens

namespace Still

variable {α β : Type}

theorem bind {x : Rule α} {f : α → Rule β} (hx : Still x) (hf : ∀ a, Still (f a)) :
    Still (x >>= f) := fun r =>
  .bind <| (hx r).imp fun a r' h => (hf a r').imp fun _ _ h' =>
    ⟨h'.1.trans h.1, h'.2.trans h.2⟩

theorem pure (a : α) : Still (Pure.pure a) := fun _ => .pure ⟨rfl, List.suffix_rfl⟩

theorem throw (f : Fault) : Still (MonadExcept.throw f : Rule α) := fun _ => .throw

theorem get : Still (MonadState.get : Rule Reading) := fun _ => .get ⟨rfl, List.suffix_rfl⟩

theorem ite {c : Prop} [Decidable c] {x y : Rule α} (hx : Still x) (hy : Still y) :
    Still (if c then x else y) := fun r => .ite (fun _ => hx r) fun _ => hy r

end Still

/-- Looking at the next token may take in a comment in front of it, and expects nothing new. -/
theorem peek_still : Still peek := by
  intro r
  refine .bind (.get ?_)
  split
  · exact .bind (.set (.pure ⟨rfl, List.suffix_rfl⟩))
  · split
    · exact .bind (.set .throw)
    · exact .pure ⟨rfl, List.suffix_rfl⟩

/-- The next token is gone then, and nothing else has changed. -/
theorem take_still : Still take :=
  .bind peek_still fun _ => .bind (fun _ => .modify ⟨rfl, List.tail_suffix _⟩) fun _ => .pure _

theorem sees_still (p : TokenKind → Bool) : Still (sees p) := .bind peek_still fun _ => .pure _

theorem mark_still (m : Mark) : Still (mark m) := fun _ => .modify ⟨rfl, List.suffix_rfl⟩

theorem unmark_still : Still unmark := fun _ => .modify ⟨rfl, List.suffix_rfl⟩

theorem openMark_still : Still openMark := .bind .get fun _ => .pure _

theorem enter_still : Still enter := .bind take_still fun _ => mark_still _

theorem gives_push (e : Expected) (r : Reading) :
    Gives (push e) r fun _ r' => r'.stack = e :: r.stack := .modify rfl

/-- A part is of the kind it is said to be, whatever its places and version. -/
theorem gives_part (kind : MarkupKind) (start stop : Mark) (r : Reading) :
    Gives (part kind start stop) r fun m r' => m.kind = kind ∧ r'.stack = r.stack :=
  .bind (.get (.pure ⟨rfl, rfl⟩))

/-- A computation that expects nothing of its own, before another. -/
theorem gives_bind_still {α β : Type} {x : Rule α} (hx : Still x) {f : α → Rule β} {r : Reading}
    {Q : β → Reading → Prop} (h : ∀ a r', r'.stack = r.stack → Gives (f a) r' Q) :
    Gives (x >>= f) r Q :=
  .bind <| (hx r).imp fun a r' h' => h a r' h'.1

/-! ### Documents -/

/-- Directives are read up to the first token that is none. -/
theorem directivesFrom_still (fuel : Nat) (d : Directives) : Still (directivesFrom fuel d) := by
  induction fuel generalizing d with
  | zero => exact .pure _
  | succ fuel ih =>
      refine .bind peek_still fun t => ?_
      split
      · refine .bind take_still fun t => ?_
        split
        · exact ih _
        · exact .throw _
      · exact .pure _

/-- The directives of a document change versions and prefixes of tags, and expect nothing. -/
theorem directives_still : Still directives := by
  refine .bind .get fun r => .bind (directivesFrom_still _ _) fun d => ?_
  extract_lets defaults finish
  have hfinish : ∀ u, Still (finish u) := fun _ =>
    .bind (fun _ => .modify ⟨rfl, List.suffix_rfl⟩) fun _ => .pure _
  split
  · exact .ite (.bind (.throw _) hfinish) (hfinish ())
  · exact hfinish ()

/-- Lines that end a document again are gone past. -/
theorem skipDocumentEnds_still (fuel : Nat) : Still (skipDocumentEnds fuel) := by
  induction fuel with
  | zero => exact .pure _
  | succ fuel ih =>
      exact .bind (sees_still _) fun _ => .ite (.bind take_still fun _ => ih) (.pure _)

/-- What a rule leaves behind: a part that can come, and what is expected after it. -/
def Outcome (e : Expected) (r : Reading) (m : Markup) (r' : Reading) : Prop :=
  ∃ pushed, r'.stack = pushed ++ r.stack ∧ Yields e m.kind pushed

/-- A document begins, and its content and its end are expected; or the stream ends. -/
theorem document_yields {e : Expected} (he : e.beginsDocument) (r : Reading) :
    Gives document r (Outcome e r) := by
  refine .bind (.get (gives_bind_still (skipDocumentEnds_still _) fun _ r₁ h₁ => ?_))
  refine gives_bind_still (sees_still _) fun _ r₂ h₂ => .ite (fun _ => ?_) fun _ => ?_
  · refine gives_bind_still take_still fun _ r₃ h₃ => (gives_part _ _ _ _).imp fun m r' h => ?_
    exact ⟨[], by rw [h.2, h₃, h₂, h₁]; rfl, h.1 ▸ .streamEnd he⟩
  · refine gives_bind_still directives_still fun _ r₃ h₃ => ?_
    refine gives_bind_still peek_still fun _ r₄ h₄ => ?_
    extract_lets finish
    -- a version that is not supported is an error, or makes no difference
    have hfinish : ∀ u r₄, r₄.stack = r.stack → Gives (finish u) r₄ (Outcome e r) := by
      intro u r₄ h₄
      refine gives_bind_still take_still fun _ r₅ h₅ => .bind (.modify ?_)
      refine .bind ((gives_push _ _).imp fun _ r₆ h₆ => ?_)
      refine .bind ((gives_push _ _).imp fun _ r₇ h₇ => (gives_part _ _ _ _).imp fun m r' h => ?_)
      refine ⟨[.documentContent, .documentEnd], ?_, h.1 ▸ .documentStart he (.inl rfl)⟩
      rw [h.2, h₇, h₆]
      exact congrArg (fun st => _ :: _ :: st) (h₅.trans h₄)
    have hstack : r₄.stack = r.stack := by rw [h₄, h₃, h₂, h₁]
    exact .ite (fun _ => .bind .throw) fun _ => hfinish () _ hstack

/-- The first document may begin with its content: no line has to mark its beginning. -/
theorem firstDocument_yields (r : Reading) :
    Gives firstDocument r (Outcome .firstDocument r) := by
  refine gives_bind_still peek_still fun t r₁ h₁ => ?_
  have hdocument : Gives document r₁ (Outcome .firstDocument r) :=
    (document_yields rfl r₁).imp fun m r' h => by rwa [Outcome, h₁] at h
  split
  · exact hdocument
  · exact hdocument
  · exact hdocument
  · refine .bind (.modify (.bind ((gives_push _ _).imp fun _ r₂ h₂ => ?_)))
    refine .bind ((gives_push _ _).imp fun _ r₃ h₃ => (gives_part _ _ _ _).imp fun m r' h => ?_)
    refine ⟨[.blockNode, .documentEnd], ?_, h.1 ▸ .documentStart rfl (.inr rfl)⟩
    rw [h.2, h₃, h₂]
    exact congrArg (fun st => _ :: _ :: st) h₁

/-- Behind the end of a document another one may begin, with or without its first line. -/
theorem documentEnd_yields (r : Reading) : Gives documentEnd r (Outcome .documentEnd r) := by
  refine gives_bind_still peek_still fun t r₁ h₁ => .ite (fun _ => ?_) fun _ => ?_
  · refine gives_bind_still take_still fun _ r₂ h₂ => gives_bind_still peek_still fun _ r₃ h₃ => ?_
    extract_lets finish
    have hfinish : ∀ u r₃, r₃.stack = r.stack → Gives (finish u) r₃ (Outcome .documentEnd r) := by
      intro u r₃ h₃
      refine .bind (.get (.bind ((gives_push _ _).imp fun _ r₄ h₄ => ?_)))
      refine (gives_part _ _ _ _).imp fun m r' h => ⟨[_], by rw [h.2, h₄, h₃]; rfl, ?_⟩
      rw [h.1]
      exact .documentEnd (by split <;> rfl)
    exact .ite (fun _ => .bind .throw) fun _ => hfinish () _ (by rw [h₃, h₂, h₁])
  · refine .bind ((gives_push _ _).imp fun _ r₂ h₂ => (gives_part _ _ _ _).imp fun m r' h => ?_)
    exact ⟨[.document], by rw [h.2, h₂, h₁]; rfl, h.1 ▸ .documentEnd rfl⟩

/-! ### Nodes -/

theorem tag?_still : Still tag? := by
  refine .bind peek_still fun t => ?_
  split
  · exact .bind take_still fun _ => .pure _
  · exact .pure _

theorem anchor?_still : Still anchor? := by
  refine .bind peek_still fun t => ?_
  split
  · exact .bind take_still fun _ => .pure _
  · exact .pure _

/-- The tag and the anchor of a node come in either order. -/
theorem front_still : Still front := by
  refine .bind anchor?_still fun a => ?_
  split
  · refine .bind tag?_still fun t => ?_
    split <;> exact .pure _
  · refine .bind tag?_still fun t => ?_
    split
    · exact .pure _
    · refine .bind anchor?_still fun a => ?_
      split <;> exact .pure _

theorem suffixOf_still (name : TagName) : Still (suffixOf name) := by
  unfold suffixOf
  split
  · exact .pure _
  · exact .throw _

/-- A shorthand of a tag stands for its prefix and what comes behind it. -/
theorem fullTag_still (f : Front) : Still (fullTag f) := by
  unfold fullTag
  split
  · exact .pure _
  · split
    · exact .bind (suffixOf_still _) fun _ => .pure _
    · refine .bind .get fun r => ?_
      split
      · exact .bind (suffixOf_still _) fun _ => .pure _
      · exact .throw _

/-- What a node leaves behind. -/
def NodeOutcome (r : Reading) (m : Markup) (r' : Reading) : Prop :=
  ∃ inner, r'.stack = inner ++ r.stack ∧ NodeYields m.kind inner

/-- A part with which a node begins, when what is inside it is expected already. -/
theorem part_nodeOutcome {kind : MarkupKind} {inner : List Expected} (h : NodeYields kind inner)
    (start stop : Mark) {r r₁ : Reading} (hr : r₁.stack = inner ++ r.stack) :
    Gives (part kind start stop) r₁ (NodeOutcome r) :=
  (gives_part _ _ _ _).imp fun _ _ hm => ⟨inner, by rw [hm.2, hr], hm.1 ▸ h⟩

/-- A collection begins, and its first entry is expected. -/
theorem push_nodeOutcome {kind : MarkupKind} {e : Expected} (h : NodeYields kind [e])
    (start stop : Mark) {r r₁ : Reading} (hr : r₁.stack = r.stack) :
    Gives (do push e; part kind start stop) r₁ (NodeOutcome r) :=
  .bind <| (gives_push _ _).imp fun _ _ hp => part_nodeOutcome h start stop (by rw [hp, hr]; rfl)

/-- A node that is not there is an empty scalar. -/
theorem empty_yields (place : Mark) {r r₁ : Reading} (hr : r₁.stack = r.stack) :
    Gives (empty place) r₁ (NodeOutcome r) := part_nodeOutcome .scalar _ _ hr

/-- A node is an alias, a scalar or the beginning of a collection, whichever its first token says.
-/
theorem node_yields (block indentless : Bool) {r r₁ : Reading} (hr : r₁.stack = r.stack) :
    Gives (node block indentless) r₁ (NodeOutcome r) := by
  refine gives_bind_still peek_still fun t r₂ h₂ => ?_
  split
  · exact gives_bind_still take_still fun _ r₃ h₃ =>
      part_nodeOutcome .alias _ _ (by rw [h₃, h₂, hr]; rfl)
  refine gives_bind_still front_still fun f r₃ h₃ => ?_
  refine gives_bind_still (fullTag_still f) fun tag r₄ h₄ => ?_
  refine gives_bind_still peek_still fun next r₅ h₅ => ?_
  extract_lets start properties untagged finish
  have hstack : r₅.stack = r.stack := by rw [h₅, h₄, h₃, h₂, hr]
  have hfinish : ∀ u, Gives (finish u) r₅ (NodeOutcome r) := fun _ =>
    .ite (fun _ => part_nodeOutcome .scalar _ _ hstack) fun _ => .throw
  split
  · exact .ite (fun _ => push_nodeOutcome .indentless _ _ hstack) fun _ => hfinish ()
  · exact gives_bind_still take_still fun _ r₆ h₆ =>
      part_nodeOutcome .scalar _ _ (by rw [h₆, hstack]; rfl)
  · exact push_nodeOutcome .flowSequence _ _ hstack
  · exact push_nodeOutcome .flowMapping _ _ hstack
  · exact .ite (fun _ => push_nodeOutcome .blockSequence _ _ hstack) fun _ => hfinish ()
  · exact .ite (fun _ => push_nodeOutcome .blockMapping _ _ hstack) fun _ => hfinish ()
  · exact hfinish ()

/-- A node is read with its successor on the stack already. -/
theorem outcome_of_node {e : Expected} (next : List Expected) (r₂ : Reading)
    (he : next ∈ e.after) {x : Rule Markup} {r r₁ : Reading} (hr : r₂.stack = next ++ r.stack)
    (h : Gives x r₁ (NodeOutcome r₂)) : Gives x r₁ (Outcome e r) :=
  h.imp fun _ _ ⟨inner, hstack, hnode⟩ =>
    ⟨inner ++ next, by rw [hstack, hr, List.append_assoc], .node he hnode⟩

section Entries

variable {e : Expected} {r r₁ : Reading}

/-- A node is read when what comes behind it has been noted. -/
theorem push_node {next : Expected} (he : [next] ∈ e.after) (hr : r₁.stack = r.stack)
    (block indentless : Bool) : Gives (do push next; node block indentless) r₁ (Outcome e r) :=
  .bind <| (gives_push _ _).imp fun _ _ hp =>
    outcome_of_node _ _ he (by rw [hp, hr]; rfl) (node_yields block indentless rfl)

/-- So is a node that is not there. -/
theorem push_empty {next : Expected} (he : [next] ∈ e.after) (hr : r₁.stack = r.stack)
    (place : Mark) : Gives (do push next; empty place) r₁ (Outcome e r) :=
  .bind <| (gives_push _ _).imp fun _ _ hp =>
    outcome_of_node _ _ he (by rw [hp, hr]; rfl) (empty_yields place rfl)

/-- A part behind which nothing new is expected. -/
theorem part_outcome {kind : MarkupKind} (h : Yields e kind []) (start stop : Mark)
    (hr : r₁.stack = r.stack) : Gives (part kind start stop) r₁ (Outcome e r) :=
  (gives_part _ _ _ _).imp fun _ _ hm => ⟨[], by rw [hm.2, hr]; rfl, hm.1 ▸ h⟩

/-- The content of a document is a node, or empty. -/
theorem documentContent_yields (r : Reading) :
    Gives documentContent r (Outcome .documentContent r) := by
  refine gives_bind_still peek_still fun t r₁ h₁ => ?_
  refine outcome_of_node [] r (.head _) rfl ?_
  exact .ite (fun _ => empty_yields _ h₁) fun _ => node_yields _ _ h₁

/-! ### Block collections -/

/-- An entry of a block sequence is a node or empty; without a dash the sequence ends. -/
theorem blockSequenceEntry_yields (he : [.blockSequenceEntry] ∈ e.after) (hend : e.endsSequence)
    (hr : r₁.stack = r.stack) : Gives blockSequenceEntry r₁ (Outcome e r) := by
  refine gives_bind_still peek_still fun t r₂ h₂ => .ite (fun _ => ?_) fun _ => .ite (fun _ => ?_) ?_
  · refine gives_bind_still take_still fun _ r₃ h₃ =>
      gives_bind_still (sees_still _) fun _ r₄ h₄ => ?_
    have hstack : r₄.stack = r.stack := by rw [h₄, h₃, h₂, hr]
    exact .ite (fun _ => push_empty he hstack _) fun _ => push_node he hstack _ _
  · refine gives_bind_still take_still fun _ r₃ h₃ => gives_bind_still unmark_still fun _ r₄ h₄ => ?_
    exact part_outcome (.sequenceEnd hend) _ _ (by rw [h₄, h₃, h₂, hr])
  · exact fun _ => .bind ((openMark_still _).imp fun _ _ _ => .throw)

/-- An indentless sequence ends with the first token that is no dash, which belongs to what is
around it. -/
theorem indentlessEntry_yields (r : Reading) :
    Gives indentlessEntry r (Outcome .indentlessEntry r) := by
  refine gives_bind_still peek_still fun t r₂ h₂ => .ite (fun _ => ?_) fun _ => ?_
  · refine gives_bind_still take_still fun _ r₃ h₃ =>
      gives_bind_still (sees_still _) fun _ r₄ h₄ => ?_
    have hstack : r₄.stack = r.stack := by rw [h₄, h₃, h₂]
    exact .ite (fun _ => push_empty (.head _) hstack _)
      fun _ => push_node (.head _) hstack _ _
  · exact part_outcome (.sequenceEnd rfl) _ _ h₂

/-- A key of a block mapping is a node, or empty if there is a value only. -/
theorem blockMappingKey_yields (he : [.blockMappingValue] ∈ e.after) (hend : e.endsMapping)
    (hr : r₁.stack = r.stack) : Gives blockMappingKey r₁ (Outcome e r) := by
  refine gives_bind_still peek_still fun t r₂ h₂ => .ite (fun _ => ?_) fun _ => ?_
  · refine gives_bind_still take_still fun _ r₃ h₃ =>
      gives_bind_still (sees_still _) fun _ r₄ h₄ => ?_
    have hstack : r₄.stack = r.stack := by rw [h₄, h₃, h₂, hr]
    exact .ite (fun _ => push_empty he hstack _) fun _ => push_node he hstack _ _
  · refine .bind (.get (.ite (fun _ => push_empty he (h₂.trans hr) _) fun _ => ?_))
    refine .ite (fun _ => ?_) fun _ => .bind ((openMark_still _).imp fun _ _ _ => .throw)
    refine gives_bind_still take_still fun _ r₃ h₃ => gives_bind_still unmark_still fun _ r₄ h₄ => ?_
    exact part_outcome (.mappingEnd hend) _ _ (by rw [h₄, h₃, h₂, hr])

/-- A value, which is read if its indicator is there and empty otherwise. -/
theorem blockMappingValue_yields (r : Reading) :
    Gives blockMappingValue r (Outcome .blockMappingValue r) := by
  refine gives_bind_still peek_still fun t r₂ h₂ => .bind ((gives_push _ _).imp fun _ r₃ h₃ => ?_)
  refine outcome_of_node [.blockMappingKey] r₃ (.head _)
    (by rw [h₃, h₂]; rfl) (.ite (fun _ => ?_) fun _ => empty_yields _ rfl)
  refine gives_bind_still take_still fun _ r₄ h₄ => gives_bind_still (sees_still _) fun _ r₅ h₅ => ?_
  refine .ite (fun _ => ?_) fun _ => node_yields _ _ (h₅.trans h₄)
  exact gives_bind_still peek_still fun _ r₆ h₆ => empty_yields _ (h₆.trans (h₅.trans h₄))

/-! ### Flow collections -/

/-- Entries of a flow collection are separated by commas. -/
theorem comma_still (first : Bool) (activity : Activity) (close : TokenKind) :
    Still (comma first activity close) := by
  refine .ite (.bind peek_still fun t => ?_) (.pure _)
  exact .ite (.bind take_still fun _ => .pure _) (.bind openMark_still fun _ => .throw _)

/-- A bracket closes a flow collection. -/
theorem flowEnd_outcome {kind : MarkupKind} (h : Yields e kind []) (hr : r₁.stack = r.stack) :
    Gives (flowEnd kind) r₁ (Outcome e r) := by
  refine gives_bind_still take_still fun _ r₂ h₂ => gives_bind_still unmark_still fun _ r₃ h₃ => ?_
  exact part_outcome h _ _ (by rw [h₃, h₂, hr])

/-- An entry of a flow sequence is a node, or a pair if it is marked as a key. -/
theorem flowSequenceEntry_yields (he : [.flowSequenceEntry] ∈ e.after) (hend : e.endsSequence)
    (hpair : e.allowsPair) (first : Bool) (hr : r₁.stack = r.stack) :
    Gives (flowSequenceEntry first) r₁ (Outcome e r) := by
  refine gives_bind_still (sees_still _) fun _ r₂ h₂ => .ite (fun _ => ?_) fun _ => ?_
  · exact flowEnd_outcome (.sequenceEnd hend) (h₂.trans hr)
  refine gives_bind_still (comma_still _ _ _) fun _ r₃ h₃ => ?_
  refine gives_bind_still peek_still fun t r₄ h₄ => ?_
  have hstack : r₄.stack = r.stack := by rw [h₄, h₃, h₂, hr]
  refine .ite (fun _ => ?_) fun _ => .ite (fun _ => flowEnd_outcome (.sequenceEnd hend) hstack)
    fun _ => push_node he hstack _ _
  refine .bind ((gives_push _ _).imp fun _ r₅ h₅ => (gives_part _ _ _ _).imp fun m r' h => ?_)
  exact ⟨[.flowPairKey], by rw [h.2, h₅, hstack]; rfl, h.1 ▸ .pair hpair⟩

/-- The key of a pair, which may be empty. -/
theorem flowPairKey_yields (r : Reading) : Gives flowPairKey r (Outcome .flowPairKey r) := by
  refine gives_bind_still take_still fun t r₂ h₂ => .bind ((gives_push _ _).imp fun _ r₃ h₃ => ?_)
  refine outcome_of_node [.flowPairValue] r₃ (.head _)
    (by rw [h₃, h₂]; rfl) (gives_bind_still (sees_still _) fun _ r₄ h₄ => ?_)
  exact .ite (fun _ => empty_yields _ h₄) fun _ => node_yields _ _ h₄

/-- Its value, which may be missing. -/
theorem flowPairValue_yields (r : Reading) : Gives flowPairValue r (Outcome .flowPairValue r) := by
  refine gives_bind_still peek_still fun t r₂ h₂ => .bind ((gives_push _ _).imp fun _ r₃ h₃ => ?_)
  refine outcome_of_node [.flowPairEnd] r₃ (.head _)
    (by rw [h₃, h₂]; rfl) (.ite (fun _ => ?_) fun _ => empty_yields _ rfl)
  refine gives_bind_still take_still fun _ r₄ h₄ => gives_bind_still (sees_still _) fun _ r₅ h₅ => ?_
  exact .ite (fun _ => empty_yields _ (h₅.trans h₄)) fun _ => node_yields _ _ (h₅.trans h₄)

/-- A pair ends by itself: no token stands for its end. -/
theorem flowPairEnd_yields (r : Reading) : Gives flowPairEnd r (Outcome .flowPairEnd r) := by
  refine .bind ((gives_push _ _).imp fun _ r₂ h₂ => gives_bind_still peek_still fun t r₃ h₃ => ?_)
  refine (gives_part _ _ _ _).imp fun m r' h => ?_
  exact ⟨[.flowSequenceEntry], by rw [h.2, h₃, h₂]; rfl, h.1 ▸ .pairEnd⟩

/-- A key of a flow mapping is marked as one and followed by its value, or is a node without a
value. -/
theorem flowMappingKey_yields (he : [.flowMappingValue] ∈ e.after)
    (he' : [.flowMappingNoValue] ∈ e.after) (hend : e.endsMapping) (first : Bool)
    (hr : r₁.stack = r.stack) : Gives (flowMappingKey first) r₁ (Outcome e r) := by
  refine gives_bind_still (sees_still _) fun _ r₂ h₂ => .ite (fun _ => ?_) fun _ => ?_
  · exact flowEnd_outcome (.mappingEnd hend) (h₂.trans hr)
  refine gives_bind_still (comma_still _ _ _) fun _ r₃ h₃ => ?_
  refine gives_bind_still peek_still fun t r₄ h₄ => ?_
  have hstack : r₄.stack = r.stack := by rw [h₄, h₃, h₂, hr]
  refine .ite (fun _ => ?_) fun _ => ?_
  · refine gives_bind_still take_still fun _ r₅ h₅ => .bind ((gives_push _ _).imp fun _ r₆ h₆ => ?_)
    refine outcome_of_node _ r₆ he (by rw [h₆, h₅, hstack]; rfl)
      (gives_bind_still (sees_still _) fun _ r₇ h₇ => ?_)
    exact .ite (fun _ => empty_yields _ h₇) fun _ => node_yields _ _ h₇
  · refine .bind (.get (.ite (fun _ => push_empty he hstack _) fun _ => ?_))
    exact .ite (fun _ => flowEnd_outcome (.mappingEnd hend) hstack)
      fun _ => push_node he' hstack _ _

theorem flowMappingValue_yields (r : Reading) :
    Gives flowMappingValue r (Outcome .flowMappingValue r) := by
  refine gives_bind_still peek_still fun t r₂ h₂ => .bind ((gives_push _ _).imp fun _ r₃ h₃ => ?_)
  refine outcome_of_node [.flowMappingKey] r₃ (.head _)
    (by rw [h₃, h₂]; rfl) (.ite (fun _ => ?_) fun _ => empty_yields _ rfl)
  refine gives_bind_still take_still fun _ r₄ h₄ => gives_bind_still (sees_still _) fun _ r₅ h₅ => ?_
  exact .ite (fun _ => empty_yields _ (h₅.trans h₄)) fun _ => node_yields _ _ (h₅.trans h₄)

/-- A key without a value has an empty one. -/
theorem flowMappingNoValue_yields (r : Reading) :
    Gives flowMappingNoValue r (Outcome .flowMappingNoValue r) := by
  refine .bind ((gives_push _ _).imp fun _ r₂ h₂ => gives_bind_still peek_still fun t r₃ h₃ => ?_)
  exact outcome_of_node [.flowMappingKey] r₂ (.head _)
    (by rw [h₂]; rfl) (empty_yields _ h₃)

end Entries

/-- The rules of the grammar yield what can come. -/
theorem expected_yields (e : Expected) (r : Reading) : Gives (expected e) r (Outcome e r) := by
  cases e with
  | firstDocument => exact firstDocument_yields r
  | document => exact document_yields rfl r
  | documentContent => exact documentContent_yields r
  | documentEnd => exact documentEnd_yields r
  | blockNode =>
      exact outcome_of_node [] r (.head _) rfl
        (node_yields _ _ rfl)
  | blockSequenceFirst =>
      exact gives_bind_still enter_still fun _ r₁ h =>
        blockSequenceEntry_yields (.head _) rfl h
  | blockSequenceEntry => exact blockSequenceEntry_yields (.head _) rfl rfl
  | indentlessEntry => exact indentlessEntry_yields r
  | blockMappingFirst =>
      exact gives_bind_still enter_still fun _ r₁ h =>
        blockMappingKey_yields (.head _) rfl h
  | blockMappingKey => exact blockMappingKey_yields (.head _) rfl rfl
  | blockMappingValue => exact blockMappingValue_yields r
  | flowSequenceFirst =>
      exact gives_bind_still enter_still fun _ r₁ h =>
        flowSequenceEntry_yields (.head _) rfl rfl _ h
  | flowSequenceEntry => exact flowSequenceEntry_yields (.head _) rfl rfl _ rfl
  | flowPairKey => exact flowPairKey_yields r
  | flowPairValue => exact flowPairValue_yields r
  | flowPairEnd => exact flowPairEnd_yields r
  | flowMappingFirst =>
      exact gives_bind_still enter_still fun _ r₁ h =>
        flowMappingKey_yields (.head _) (.tail _ (.head _)) rfl _ h
  | flowMappingKey =>
      exact flowMappingKey_yields (.head _) (.tail _ (.head _)) rfl _ rfl
  | flowMappingValue => exact flowMappingValue_yields r
  | flowMappingNoValue => exact flowMappingNoValue_yields r

end Rule

end YamlAudit.Yaml
