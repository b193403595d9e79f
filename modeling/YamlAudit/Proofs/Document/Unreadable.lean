import Mathlib.Data.List.Induction
import YamlAudit.Audit.Loader
import YamlAudit.Proofs.Document.Grammar

/-!
# Document — the first event that cannot be read

Which collections are open after some events of a document is told by the events alone
(`openAfter`), and so is whether the next event can be read (`Unreadable`).  The reading follows this
count (`Follows`): each step reads an event exactly if it can be read, and says of one that cannot be
read what `errorAt` says (`Follows.step`).

* `run_of_readable`, `run_of_firstUnreadable`: events are read up to the first that cannot be.
* `compose_eq_error_iff`: what keeps events from composing.
* `compose_unreadable`: the first event that cannot be read decides, and which error it is; events
  that end too early are refused with the start of the innermost open collection.
-/

namespace YamlAudit

open OpenCollection (spanOf)

/-- The end of the collection that begins with an event. -/
def EventKind.closing : EventKind → Option EventKind
  | .sequenceStart _ => some .sequenceEnd
  | .mappingStart _ => some .mappingEnd
  | _ => none

/-- A node can begin with the event. -/
def EventKind.beginsNode : EventKind → Bool
  | .scalar .. | .alias .. | .sequenceStart .. | .mappingStart .. => true
  | _ => false

/-- The start events of the open collections after one more event, the innermost first. -/
def openWith (outer : List Event) (e : Event) : List Event :=
  if e.kind.closing.isSome then e :: outer
  else if e.kind = .sequenceEnd ∨ e.kind = .mappingEnd then outer.tail
  else outer

/-- The collections open after more events; once none is open any more, none opens again. -/
def openFrom (outer : List Event) : List Event → List Event
  | [] => outer
  | e :: rest =>
    match openWith outer e with
    | [] => []
    | first :: outer => openFrom (first :: outer) rest

/-- The start events of the collections open after the events since the start of a document, the
innermost first. -/
def openAfter (events : List Event) : List Event := openFrom [] events

/-- The root of the document is not complete: it has not begun or a collection is open. -/
def Awaits (events : List Event) : Prop := events = [] ∨ openAfter events ≠ []

/-- The event is the end of the innermost open collection. -/
def EndsInnermost (events : List Event) (e : Event) : Prop :=
  (openAfter events).head?.bind (·.kind.closing) = some e.kind

instance (events : List Event) : Decidable (Awaits events) :=
  inferInstanceAs (Decidable (_ ∨ _))

instance (events : List Event) (e : Event) : Decidable (EndsInnermost events e) :=
  inferInstanceAs (Decidable (_ = _))

/-- An event that comes after others of a document cannot be read: it neither ends the innermost
collection nor begins a node within the limit, or it begins a second document. -/
def Unreadable (limit : Int) (pre : List Event) (e : Event) : Prop :=
  (Awaits pre ∧ ¬ EndsInnermost pre e ∧
    (limit < (openAfter pre).length ∨ e.kind.beginsNode = false)) ∨
  (¬ Awaits pre ∧ e.kind = .documentStart)

instance (limit : Int) (pre : List Event) (e : Event) : Decidable (Unreadable limit pre e) :=
  inferInstanceAs (Decidable (_ ∨ _))

/-- Each of the events can be read after those before it. -/
def Readable (limit : Int) (events : List Event) : Prop :=
  ∀ pre e post, events = pre ++ e :: post → ¬ Unreadable limit pre e

/-- An event is the first that cannot be read. -/
def FirstUnreadable (limit : Int) (pre : List Event) (e : Event) : Prop :=
  Readable limit pre ∧ Unreadable limit pre e

/-- What is said of an event that cannot be read. -/
def errorAt (limit : Int) (pre : List Event) (e : Event) : CompositionError :=
  if Awaits pre then
    if limit < (openAfter pre).length then .tooDeep limit else .unexpected e.kind
  else .secondDocument

/-- The events that a tree is made of. -/
def structural (events : List Event) : List Event := events.filter fun e => !e.kind.isStream

/-! ### Open collections -/

theorem openFrom_concat (outer events : List Event) (e : Event) :
    openFrom outer (events ++ [e]) =
      if events = [] ∨ openFrom outer events ≠ [] then openWith (openFrom outer events) e else [] := by
  induction events generalizing outer with
  | nil =>
      simp only [List.nil_append, openFrom, true_or, if_true]
      cases openWith outer e <;> rfl
  | cons e' events ih =>
      rw [List.cons_append, openFrom, openFrom]
      cases openWith outer e' with
      | nil => simp
      | cons first outer =>
          have hnil : events = [] → openFrom (first :: outer) events ≠ [] := by
            rintro rfl
            simp [openFrom]
          simp only [ih, reduceCtorEq, false_or]
          by_cases h : openFrom (first :: outer) events = []
          · rw [if_neg (not_or.mpr ⟨fun hn => hnil hn h, by simpa using h⟩), if_neg (by simpa using h)]
          · rw [if_pos (.inr h), if_pos h]

theorem openAfter_concat {events : List Event} (h : Awaits events) (e : Event) :
    openAfter (events ++ [e]) = openWith (openAfter events) e := by
  rw [openAfter, openFrom_concat, if_pos (by exact h), openAfter]

/-- A complete root stays complete. -/
theorem not_awaits_concat {events : List Event} (h : ¬ Awaits events) (e : Event) :
    ¬ Awaits (events ++ [e]) := by
  rw [Awaits, openAfter, openFrom_concat, if_neg (by exact h)]
  simp

/-! ### Readable events -/

theorem readable_nil (limit : Int) : Readable limit [] := fun pre e post h => by simp at h

theorem readable_concat {limit : Int} {events : List Event} {e : Event} :
    Readable limit (events ++ [e]) ↔ Readable limit events ∧ ¬ Unreadable limit events e := by
  constructor
  · refine fun h => ⟨fun pre e' post hpre => ?_, h events e [] rfl⟩
    exact h pre e' (post ++ [e]) (by simp [hpre])
  · rintro ⟨h, he⟩ pre e' post hpre
    rcases List.eq_nil_or_concat post with rfl | ⟨post, last, rfl⟩
    · obtain ⟨rfl, rfl⟩ : events = pre ∧ e = e' := by simpa using List.append_inj' hpre rfl
      exact he
    · rw [List.concat_eq_append, ← List.cons_append, ← List.append_assoc] at hpre
      exact h pre e' post (List.append_inj_left' hpre rfl)

/-- Events can be read, or there is a first one among them that cannot. -/
theorem readable_or_first (limit : Int) (events : List Event) :
    Readable limit events ∨ ∃ pre e, pre ++ [e] <+: events ∧ FirstUnreadable limit pre e := by
  induction events using List.reverseRecOn with
  | nil => exact .inl (readable_nil limit)
  | append_singleton events e ih =>
      rcases ih with hread | ⟨pre, e', hpre, hfirst⟩
      · by_cases he : Unreadable limit events e
        · exact .inr ⟨events, e, List.prefix_rfl, hread, he⟩
        · exact .inl (readable_concat.mpr ⟨hread, he⟩)
      · exact .inr ⟨pre, e', hpre.trans (List.prefix_append _ _), hfirst⟩

/-- The error names the depth exactly if the event lies too deep and is not the end of the innermost
collection.  No second document begins at such a depth: its root was within the limit. -/
theorem errorAt_eq_tooDeep_iff {limit : Int} {pre : List Event} {e : Event}
    (h : FirstUnreadable limit pre e) :
    errorAt limit pre e = .tooDeep limit ↔
      limit < (openAfter pre).length ∧ ¬ EndsInnermost pre e := by
  obtain ⟨hread, ⟨hawaits, hends, -⟩ | ⟨hawaits, -⟩⟩ := h
  · rw [errorAt, if_pos hawaits]
    split <;> simp_all
  · obtain ⟨hne, hopen⟩ : pre ≠ [] ∧ openAfter pre = [] := by simpa [Awaits] using hawaits
    obtain ⟨first, rest, rfl⟩ := List.exists_cons_of_ne_nil hne
    have hlimit : 0 ≤ limit := by
      have hfirst := hread [] first rest rfl
      simp only [Unreadable, Awaits, EndsInnermost, openAfter, openFrom] at hfirst
      simp at hfirst
      exact hfirst.1
    rw [errorAt, if_neg hawaits, hopen]
    simp only [reduceCtorEq, List.length_nil, Int.natCast_zero, false_iff]
    exact fun h => absurd h.1 (Int.not_lt.mpr hlimit)

/-! ### The reading follows the open collections -/

namespace Progress

variable {limit : Int}

theorem run_append {p q : Progress} {events : List Event} (h : run limit p events = .ok q)
    (more : List Event) : run limit p (events ++ more) = run limit q more := by
  induction events generalizing p with
  | nil => cases h; rfl
  | cons e events ih =>
      obtain ⟨p', hp', hrun⟩ := run_cons_eq_ok.mp h
      rw [List.cons_append, run_cons hp', ih hrun]

/-- The collections that are open when some events of a document have been read. -/
inductive Follows (events : List Event) : Progress → Prop
  | awaiting (outer : List OpenCollection) : Awaits events →
      (openAfter events).map Event.kind = outer.map OpenCollection.startEvent →
      Follows events (awaiting outer)
  | complete {root : Node} : ¬ Awaits events → Follows events (.complete root)

variable {events : List Event} {e : Event} {outer : List OpenCollection}

/-- After a node the collections around it are open. -/
theorem Follows.place (node : Node) (hne : events ≠ [])
    (h : (openAfter events).map Event.kind = outer.map OpenCollection.startEvent) :
    Follows events (place node outer) := by
  cases outer with
  | nil => exact .complete (by simpa [Awaits, hne] using h)
  | cons top outer =>
      refine .awaiting ({ top with children := node :: top.children } :: outer) (.inr ?_) h
      rintro hnil
      simp [hnil] at h

theorem closing_startEvent (c : OpenCollection) : c.startEvent.closing = some c.endEvent := by
  obtain ⟨shape, anchor, start, children⟩ := c
  cases shape <;> rfl

section Awaiting

variable (houter : (openAfter events).map Event.kind = outer.map OpenCollection.startEvent)
include houter

theorem length_of_follows : outer.length = (openAfter events).length := by
  simpa using (congrArg List.length houter).symm

/-- The innermost collection ends with the event its start asks for. -/
theorem endsInnermost_iff :
    EndsInnermost events e ↔ outer.head?.map OpenCollection.endEvent = some e.kind := by
  have hhead : (openAfter events).head?.bind (·.kind.closing) =
      outer.head?.map OpenCollection.endEvent := by
    have := congrArg (·.head?.bind EventKind.closing) houter
    simp only [List.head?_map, Option.bind_map] at this
    rw [Function.comp_def] at this
    rw [this]
    cases outer.head? with
    | none => rfl
    | some top => exact closing_startEvent top
  rw [EndsInnermost, hhead]

variable (hawaits : Awaits events)
include hawaits

/-- No node begins too deep or with an event of another kind. -/
theorem begin_eq_error (h : limit < (openAfter events).length ∨ e.kind.beginsNode = false) :
    begin limit outer e = .error (errorAt limit events e) := by
  rw [errorAt, if_pos hawaits, Progress.begin, length_of_follows houter]
  by_cases hdeep : limit < (openAfter events).length
  · rw [if_pos hdeep, if_pos hdeep]
  · rw [if_neg hdeep, if_neg hdeep]
    have hkind := h.resolve_left hdeep
    cases hk : e.kind <;> simp_all [EventKind.beginsNode]

/-- A node that begins leaves the same collections open, or one more. -/
theorem Follows.begin (hd : ¬ limit < (openAfter events).length) (hk : e.kind.beginsNode) :
    ∃ q, begin limit outer e = .ok q ∧ Follows (events ++ [e]) q := by
  have hleaf (node : Node) (h : openWith (openAfter events) e = openAfter events) :
      Follows (events ++ [e]) (Progress.place node outer) :=
    .place node (by simp) (by rw [openAfter_concat hawaits, h, houter])
  have hstart (c : OpenCollection) (hk : e.kind = c.startEvent) (h : e.kind.closing.isSome) :
      Follows (events ++ [e]) (.inside c outer) := by
    have hopen := openAfter_concat hawaits e
    rw [openWith, if_pos h] at hopen
    refine .awaiting (c :: outer) (.inr (by simp [hopen])) ?_
    rw [hopen, List.map_cons, List.map_cons, hk, houter]
  rw [Progress.begin, length_of_follows houter, if_neg hd]
  cases hkind : e.kind <;> rw [hkind] at hk <;> try cases hk
  · exact ⟨_, rfl, hleaf _ (by simp [openWith, hkind, EventKind.closing])⟩
  · exact ⟨_, rfl, hleaf _ (by simp [openWith, hkind, EventKind.closing])⟩
  · exact ⟨_, rfl, hstart _ hkind (by simp [hkind, EventKind.closing])⟩
  · exact ⟨_, rfl, hstart _ hkind (by simp [hkind, EventKind.closing])⟩

/-- The end of the innermost collection closes it at any depth. -/
theorem Follows.close (hends : EndsInnermost events e) :
    ∃ q, Progress.step limit (Progress.awaiting outer) e = .ok q ∧
      Follows (events ++ [e]) q := by
  have hhead := (endsInnermost_iff houter).mp hends
  cases outer with
  | nil => cases hhead
  | cons top outer =>
      have hk : e.kind = top.endEvent := (Option.some.inj hhead).symm
      refine ⟨_, if_pos hk, .place _ (by simp) ?_⟩
      have hends : e.kind.closing = none ∧ (e.kind = .sequenceEnd ∨ e.kind = .mappingEnd) := by
        rw [hk, OpenCollection.endEvent]
        cases top.shape <;> simp [EventKind.closing]
      rw [openAfter_concat hawaits, openWith, hends.1, if_neg (by simp), if_pos hends.2,
        List.map_tail, houter, List.map_cons, List.tail_cons]

end Awaiting

theorem step_awaiting_of_not_end (h : outer.head?.map OpenCollection.endEvent ≠ some e.kind) :
    step limit (awaiting outer) e = begin limit outer e := by
  cases outer with
  | nil => rfl
  | cons top outer =>
      rw [awaiting, step, if_neg fun hk => h (by simp [hk])]

/-- An event that can be read is read, and the collections after it are those that are open. -/
theorem Follows.step {p : Progress} (h : Follows events p) (hread : ¬ Unreadable limit events e) :
    ∃ q, step limit p e = .ok q ∧ Follows (events ++ [e]) q := by
  cases h with
  | complete hawaits =>
      have hk : e.kind ≠ .documentStart := fun hk => hread (.inr ⟨hawaits, hk⟩)
      exact ⟨_, if_neg hk, .complete (not_awaits_concat hawaits e)⟩
  | awaiting outer hawaits houter =>
      by_cases hends : EndsInnermost events e
      · exact Follows.close houter hawaits hends
      · have hread : ¬ (limit < (openAfter events).length ∨ e.kind.beginsNode = false) :=
          fun h => hread (.inl ⟨hawaits, hends, h⟩)
        rw [step_awaiting_of_not_end ((endsInnermost_iff houter).not.mp hends)]
        obtain ⟨hd, hk⟩ := not_or.mp hread
        exact Follows.begin houter hawaits hd (by simpa using hk)

/-- An event that cannot be read is refused. -/
theorem Follows.step_eq_error {p : Progress} (h : Follows events p)
    (hread : Unreadable limit events e) :
    Progress.step limit p e = .error (errorAt limit events e) := by
  cases h with
  | complete hawaits =>
      obtain ⟨h, -⟩ | ⟨-, hk⟩ := hread
      · exact absurd h hawaits
      · rw [Progress.step, if_pos hk, errorAt, if_neg hawaits]
  | awaiting outer hawaits houter =>
      obtain ⟨-, hends, h⟩ | ⟨h, -⟩ := hread
      · rw [step_awaiting_of_not_end ((endsInnermost_iff houter).not.mp hends)]
        exact begin_eq_error houter hawaits h
      · exact absurd hawaits h

/-- Events that can be read are read. -/
theorem run_of_readable (h : Readable limit events) :
    ∃ q, run limit .opened events = .ok q ∧ Follows events q := by
  induction events using List.reverseRecOn with
  | nil => exact ⟨_, rfl, .awaiting [] (.inl rfl) rfl⟩
  | append_singleton events e ih =>
      obtain ⟨hread, he⟩ := readable_concat.mp h
      obtain ⟨p, hrun, hp⟩ := ih hread
      obtain ⟨q, hstep, hq⟩ := hp.step he
      exact ⟨q, by rw [run_append hrun, run_cons hstep, run], hq⟩

/-- The first event that cannot be read is refused, whatever follows it. -/
theorem run_of_firstUnreadable (h : FirstUnreadable limit events e) (post : List Event) :
    run limit .opened (events ++ e :: post) = .error (errorAt limit events e) := by
  obtain ⟨p, hrun, hp⟩ := run_of_readable h.1
  rw [run_append hrun, run, hp.step_eq_error h.2]

/-- What has been read when the events end. -/
theorem Follows.finish {p : Progress} (h : Follows events p) :
    (events = [] ∧ p.finish = .error .missingRoot) ∨
      (∃ first outer, openAfter events = first :: outer ∧
        p.finish = .error (.unexpected first.kind)) ∨
      (events ≠ [] ∧ openAfter events = [] ∧ ∃ root, p.finish = .ok (some root)) := by
  cases h with
  | complete hawaits =>
      obtain ⟨hne, hopen⟩ : events ≠ [] ∧ openAfter events = [] := by simpa [Awaits] using hawaits
      exact .inr (.inr ⟨hne, hopen, _, rfl⟩)
  | awaiting outer hawaits houter =>
      cases outer with
      | nil =>
          have hopen : openAfter events = [] := by simpa using houter
          exact .inl ⟨hawaits.resolve_right (not_not.mpr hopen), rfl⟩
      | cons top outer =>
          obtain ⟨first, rest, hopen, hfirst, -⟩ := List.map_eq_cons_iff.mp houter
          exact .inr (.inl ⟨first, rest, hopen, by rw [hfirst]; rfl⟩)

end Progress

/-! ### Composition -/

section Composition

variable {limit : Int} {before : List Event} {first : Event} {events : List Event}

/-- What comes before the first document says nothing about it. -/
theorem run_of_start (hbefore : ∀ e ∈ before, e.kind ≠ .documentStart)
    (hfirst : first.kind = .documentStart) (events : List Event) :
    Progress.run limit .before ((before ++ first :: events).filter fun e => !e.kind.isStream) =
      Progress.run limit .opened (structural events) := by
  rw [List.filter_append, List.filter_cons_of_pos (by simp [hfirst, EventKind.isStream]),
    Progress.run_before fun e he => hbefore e (List.mem_filter.mp he).1,
    Progress.run_cons (by rw [Progress.step, if_pos hfirst]), structural]

variable (hbefore : ∀ e ∈ before, e.kind ≠ .documentStart) (hfirst : first.kind = .documentStart)
include hbefore hfirst

/-- The first event that cannot be read decides. -/
theorem compose_of_firstUnreadable {pre : List Event} {e : Event} (h : FirstUnreadable limit pre e)
    (hpre : pre ++ [e] <+: structural events) :
    compose limit (before ++ first :: events) = .error (errorAt limit pre e) := by
  obtain ⟨post, hpost⟩ := hpre
  rw [compose, run_of_start hbefore hfirst, ← hpost, List.append_assoc, List.singleton_append,
    Progress.run_of_firstUnreadable h]

/-- With every event read, the end of the events decides. -/
theorem compose_of_readable (h : Readable limit (structural events)) :
    (structural events = [] ∧ compose limit (before ++ first :: events) = .error .missingRoot) ∨
      (∃ c outer, openAfter (structural events) = c :: outer ∧
        compose limit (before ++ first :: events) = .error (.unexpected c.kind)) ∨
      (structural events ≠ [] ∧ openAfter (structural events) = [] ∧
        ∃ root, compose limit (before ++ first :: events) = .ok (some root)) := by
  obtain ⟨p, hrun, hp⟩ := Progress.run_of_readable h
  rw [compose, run_of_start hbefore hfirst, hrun]
  exact hp.finish

/-- What keeps events from composing. -/
theorem compose_eq_error_iff {err : CompositionError} :
    compose limit (before ++ first :: events) = .error err ↔
      (∃ pre e, FirstUnreadable limit pre e ∧ pre ++ [e] <+: structural events ∧
        err = errorAt limit pre e) ∨
      Readable limit (structural events) ∧
        ((structural events = [] ∧ err = .missingRoot) ∨
          ∃ c outer, openAfter (structural events) = c :: outer ∧ err = .unexpected c.kind) := by
  constructor
  · intro herr
    -- either some event cannot be read, or all can and the end comes too early
    rcases readable_or_first limit (structural events) with hread | ⟨pre, e, hpre, h⟩
    · refine .inr ⟨hread, ?_⟩
      rcases compose_of_readable hbefore hfirst hread with ⟨hnil, h⟩ | ⟨c, outer, hopen, h⟩ |
        ⟨-, -, root, h⟩ <;> cases herr.symm.trans h
      · exact .inl ⟨hnil, rfl⟩
      · exact .inr ⟨c, outer, hopen, rfl⟩
    · cases herr.symm.trans (compose_of_firstUnreadable hbefore hfirst h hpre)
      exact .inl ⟨pre, e, h, hpre, rfl⟩
  · rintro (⟨pre, e, h, hpre, rfl⟩ | ⟨hread, hend⟩)
    · exact compose_of_firstUnreadable hbefore hfirst h hpre
    · rcases compose_of_readable hbefore hfirst hread with ⟨hnil, h⟩ | ⟨c, outer, hopen, h⟩ |
        ⟨hne, hnil, -⟩
      · obtain ⟨-, rfl⟩ | ⟨_, _, hopen, -⟩ := hend
        · exact h
        · simp [hnil, openAfter, openFrom] at hopen
      · obtain ⟨hnil, -⟩ | ⟨_, _, hopen', rfl⟩ := hend
        · simp [hnil, openAfter, openFrom] at hopen
        · obtain ⟨rfl, -⟩ := List.cons_eq_cons.mp (hopen.symm.trans hopen')
          exact h
      · obtain ⟨hnil', -⟩ | ⟨_, _, hopen, -⟩ := hend
        · exact absurd hnil' hne
        · cases hnil.symm.trans hopen

/-- After the start of a document composing fails at the first event that cannot be read, with the
same error whatever follows it; it is an error about the depth exactly if the event lies deeper than
the limit and does not end the innermost open collection.  If all events can be read, composing fails
exactly if there is none or a collection is left open, and names the start of the innermost one. -/
theorem compose_unreadable :
    (∀ pre e, FirstUnreadable limit pre e →
      (∀ events, pre ++ [e] <+: structural events →
        compose limit (before ++ first :: events) = .error (errorAt limit pre e)) ∧
      (errorAt limit pre e = .tooDeep limit ↔
        limit < (openAfter pre).length ∧ ¬ EndsInnermost pre e)) ∧
    (∀ events c outer, Readable limit (structural events) →
      openAfter (structural events) = c :: outer →
        compose limit (before ++ first :: events) = .error (.unexpected c.kind) ∧
        (CompositionError.unexpected c.kind).message = "unexpected parser event " ++ c.kind.name) ∧
    ∀ events err, compose limit (before ++ first :: events) = .error err ↔
      (∃ pre e, FirstUnreadable limit pre e ∧ pre ++ [e] <+: structural events ∧
        err = errorAt limit pre e) ∨
      Readable limit (structural events) ∧
        ((structural events = [] ∧ err = .missingRoot) ∨
          ∃ c outer, openAfter (structural events) = c :: outer ∧ err = .unexpected c.kind) := by
  refine ⟨fun pre e h => ⟨fun events => compose_of_firstUnreadable hbefore hfirst h,
    errorAt_eq_tooDeep_iff h⟩, fun events c outer hread hopen => ⟨?_, rfl⟩,
    fun events err => compose_eq_error_iff hbefore hfirst⟩
  exact (compose_eq_error_iff hbefore hfirst).mpr (.inr ⟨hread, .inr ⟨c, outer, hopen, rfl⟩⟩)

end Composition

/-- A document that starts inside a sequence, which lies too deep as well, and what follows it. -/
theorem compose_unreadable_nested :
    FirstUnreadable 0 [⟨.sequenceStart none, none, none⟩] ⟨.documentStart, none, none⟩ ∧
      ∀ post, compose 0 ([⟨.streamStart, none, none⟩] ++ ⟨.documentStart, none, none⟩ ::
        ⟨.sequenceStart none, none, none⟩ :: ⟨.documentStart, none, none⟩ :: post) =
          .error (.tooDeep 0) := by
  have hfirst :
      FirstUnreadable 0 [⟨.sequenceStart none, none, none⟩] ⟨.documentStart, none, none⟩ :=
    ⟨show Readable 0 ([] ++ [_]) from readable_concat.mpr ⟨readable_nil 0, by decide⟩, by decide⟩
  obtain ⟨h, -⟩ := @compose_unreadable 0 [⟨.streamStart, none, none⟩] ⟨.documentStart, none, none⟩
    (by simp) rfl
  exact ⟨hfirst, fun post => (h _ _ hfirst).1 _ ⟨structural post, rfl⟩⟩

end YamlAudit
