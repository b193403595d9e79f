import YamlAudit.Audit.Loader
import YamlAudit.Proofs.Basic

/-!
# Audit — limits

The three limits of a loader only cut off.  Each is asked for at one point, the depth while the tree
of a text is read, and what is asked for changes nothing but the answer there: under a smaller limit
a step, a run, a tree and a load come to what they come to under a larger one, or to a refusal that
says the limit was passed (`LoadError.isSafety`).

* `Progress.run_of_le`: a run of events that is refused for its depth is refused there, whatever
  comes later in it.
* `Loader.load_of_le`: lower limits leave the outcome of a load as it is or refuse the text as
  unsafe.

That a refusal comes at one event, whatever is read later, is what makes two readings comparable:
they take the same steps up to the event that only one of them accepts.  The bound on calls inside
one another is none of the three limits.  It does not depend on the settings, so running out of it
is an outcome like any other here.
-/

namespace YamlAudit

/-! ### Depth -/

namespace Progress

variable {a b : Int}

/-- A node begins under a smaller limit as it does under a larger one, or is too deep. -/
theorem begin_of_le (h : a ≤ b) (outer : List OpenCollection) (event : Event) :
    begin a outer event = .error (.tooDeep a) ∨ begin a outer event = begin b outer event := by
  by_cases hdeep : (outer.length : Int) > a
  · exact .inl (by rw [begin, if_pos hdeep])
  · have hdeep' : ¬ (outer.length : Int) > b := by omega
    exact .inr (by rw [begin, begin, if_neg hdeep, if_neg hdeep'])

theorem step_of_le (h : a ≤ b) (p : Progress) (event : Event) :
    step a p event = .error (.tooDeep a) ∨ step a p event = step b p event := by
  cases p with
  | before => exact .inr rfl
  | opened => exact begin_of_le h [] event
  | inside top outer =>
      by_cases hend : event.kind = top.endEvent
      · exact .inr (by rw [step, step, if_pos hend, if_pos hend])
      · rw [step, step, if_neg hend, if_neg hend]
        exact begin_of_le h (top :: outer) event
  | complete root => exact .inr rfl

/-- Events are read under a smaller limit as under a larger one, unless one of them is too deep. -/
theorem run_of_le (h : a ≤ b) (p : Progress) (events : List Event) :
    run a p events = .error (.tooDeep a) ∨ run a p events = run b p events := by
  induction events generalizing p with
  | nil => exact .inr rfl
  | cons event rest ih =>
      rcases step_of_le h p event with hstep | hstep
      · exact .inl (by rw [run, hstep])
      · rw [run, run, hstep]
        cases step b p event with
        | error e => exact .inr rfl
        | ok q => exact ih q

end Progress

/-- The parts of a text compose under a smaller limit as under a larger one, or are too deep. -/
theorem Yaml.MarkupRun.tree_of_le (run : MarkupRun) {a b : Int} (h : a ≤ b) :
    (run.tree a).tree = .error (.composition (.tooDeep a)) ∨ (run.tree a).tree = (run.tree b).tree := by
  unfold MarkupRun.tree
  dsimp only
  rcases Progress.run_of_le h .before
      ((run.parts.filter fun m => !m.kind.event.isStream).map Markup.event) with hrun | hrun
  · exact .inl (by rw [hrun])
  · rw [hrun]
    refine .inr ?_
    split
    · rfl
    · split <;> rfl

/-! ### Size -/

/-- What is within a budget is within a larger one. -/
theorem fitsWithin_of_le {s : Store} {a b : Nat} (h : a ≤ b) {waiting : List Visit}
    (hfits : fitsWithin s a waiting = true) : fitsWithin s b waiting = true := by
  induction a generalizing b waiting with
  | zero =>
      cases waiting with
      | nil => exact fitsWithin.eq_1 s b
      | cons v waiting => cases hfits
  | succ a ih =>
      cases waiting with
      | nil => exact fitsWithin.eq_1 s b
      | cons v waiting =>
          obtain ⟨b, rfl⟩ := Nat.exists_eq_add_of_le' (Nat.lt_of_lt_of_le a.succ_pos h)
          exact ih (Nat.le_of_succ_le_succ h) hfits

theorem Datum.fits_of_le {d : Datum} {a b : Int} (h : a ≤ b) (hfits : d.fits a = true) :
    d.fits b = true :=
  fitsWithin_of_le (Int.toNat_le_toNat h) hfits

/-! ### Loading -/

/-- Whether a text is refused because it passes a limit: for its size, its depth or the number of its
values. -/
def LoadError.isSafety : LoadError → Bool
  | tooLarge _ _ | tooManyNodes _ | tooNested | tree (.composition (.tooDeep _)) => true
  | _ => false

namespace Loader

variable {s t : Settings}

/-- Reading a tree changes nothing of a loader but the version that is in force. -/
theorem readTree_next (l : Loader) (source : List Char) : (l.readTree source).2 =
    { l with treeVersion :=
      (Yaml.Tree.read (min l.settings.maxDepth l.calls) l.treeVersion source).version } := by
  unfold readTree
  dsimp only
  split
  · rfl
  · split <;> rfl
  · rfl

/-- The tree of a text is the same under a smaller limit, or the text is refused as unsafe. -/
theorem readTree_of_le {l k : Loader} (hdepth : l.settings.maxDepth ≤ k.settings.maxDepth)
    (hversion : l.treeVersion = k.treeVersion) (hcalls : l.calls = k.calls) (source : List Char) :
    (∃ e, (l.readTree source).1 = .error e ∧ e.isSafety) ∨
      (l.readTree source).1 = (k.readTree source).1 := by
  -- whichever limit is asked for, what is too deep is refused as unsafe
  have hdeep : ∀ {limit : Int}, (Yaml.Tree.read (min l.settings.maxDepth l.calls) l.treeVersion
      source).tree = .error (.composition (.tooDeep limit)) →
      ∃ e, (l.readTree source).1 = .error e ∧ e.isSafety := by
    intro limit h
    by_cases hreach : (l.calls : Int) < l.settings.maxDepth
    · exact ⟨.tooNested, by simp [readTree, h, hreach], rfl⟩
    · exact ⟨_, by simp [readTree, h, hreach]; rfl, rfl⟩
  have hle : min l.settings.maxDepth l.calls ≤ min k.settings.maxDepth k.calls := by omega
  rcases Yaml.MarkupRun.tree_of_le (Yaml.Markup.run l.treeVersion source) hle with h | h
  · exact .inl (hdeep h)
  · change (Yaml.Tree.read _ l.treeVersion source).tree =
      (Yaml.Tree.read _ l.treeVersion source).tree at h
    cases hs : (Yaml.Tree.read (min k.settings.maxDepth k.calls) k.treeVersion source).tree with
    | ok root =>
        rw [hversion, hs, ← hversion] at h
        exact .inr (by simp [readTree, h, hs])
    | error e =>
        rw [hversion, hs, ← hversion] at h
        cases e with
        | text fault => exact .inr (by simp [readTree, h, hs])
        | composition e =>
            cases e with
            | tooDeep limit => exact .inl (hdeep h)
            | _ => exact .inr (by simp [readTree, h, hs])

/-- A value and a tree that are within a limit come to the same under a larger one. -/
theorem finish_of_le {l k : Loader} (hcount : l.settings.maxNodeCount ≤ k.settings.maxNodeCount)
    (hcalls : l.calls = k.calls) (text : String) (root : Option Node) (data : Datum) :
    (∃ e, l.finish text root data = .error e ∧ e.isSafety) ∨
      l.finish text root data = k.finish text root data := by
  cases hfits : data.fits l.settings.maxNodeCount with
  | false => exact .inl ⟨.tooManyNodes l.settings.maxNodeCount, by simp [finish, hfits], rfl⟩
  | true =>
      have hfits' := Datum.fits_of_le hcount hfits
      exact .inr (by simp [finish, copyOf, mapOf.eq_def, hfits, hfits', hcalls])

/-- What comes of a text, stage by stage: its size, its tree, its value, and what is done with
both. -/
theorem load_fst (l : Loader) (text : String) :
    (l.load text).1 =
      if l.settings.maxDocumentSize < (text.toList.length : Int) then
        .error (.tooLarge text.toList.length l.settings.maxDocumentSize)
      else (l.readTree text.toList).1 >>= fun root =>
        (l.reader.read true text.toList).1.mapError .ofRead >>= fun data => l.finish text root data := by
  have hnext := l.readTree_next text.toList
  cases htree : l.readTree text.toList with
  | mk result next =>
      rw [htree] at hnext
      obtain rfl := hnext
      cases hread : l.reader.read true text.toList with
      | mk value reader =>
          unfold load
          simp only [htree]
          split
          · rfl
          · cases result with
            | error e => rfl
            | ok root =>
                simp only [hread]
                cases value <;> rfl

/-- Lower limits leave what comes of a text as it is, value, ranges and errors alike, or the text is
refused because it passes one of them. -/
theorem load_of_le (hsize : s.maxDocumentSize ≤ t.maxDocumentSize)
    (hcount : s.maxNodeCount ≤ t.maxNodeCount) (hdepth : s.maxDepth ≤ t.maxDepth) (text : String) :
    (∃ e, ((start s).load text).1 = .error e ∧ e.isSafety) ∨
      ((start s).load text).1 = ((start t).load text).1 := by
  rw [load_fst, load_fst]
  change (∃ e, (if s.maxDocumentSize < _ then _ else _) = _ ∧ _) ∨
    (if s.maxDocumentSize < _ then _ else _) = if t.maxDocumentSize < _ then _ else _
  by_cases hlarge : s.maxDocumentSize < (text.toList.length : Int)
  · exact .inl ⟨_, if_pos hlarge, rfl⟩
  have hlarge' : ¬ t.maxDocumentSize < (text.toList.length : Int) := by omega
  rw [if_neg hlarge, if_neg hlarge']
  rcases readTree_of_le (l := start s) (k := start t) hdepth rfl rfl text.toList with
    ⟨e, htree, hsafe⟩ | htree
  · exact .inl ⟨e, by rw [htree]; rfl, hsafe⟩
  rw [htree]
  -- the value is read by the same reader, whatever the limits are
  cases ((start t).readTree text.toList).1 with
  | error e => exact .inr rfl
  | ok root =>
      cases hvalue : (Yaml.ValueReader.start.read true text.toList).1 with
      | error e => exact .inr (by simp only [start, hvalue]; rfl)
      | ok data =>
          simp only [start, hvalue]
          exact finish_of_le (l := start s) (k := start t) hcount rfl text root data

theorem load_of_le_nestedSequences :
    ∃ e, ((start { maxDepth := 1 }).load "[[[a]]]\n").1 = .error e ∧ e.isSafety ∧
      ∃ doc, ((start { maxDepth := 3 }).load "[[[a]]]\n").1 = .ok doc := by
  have hloads :
      ((start { maxDepth := 3 }).load "[[[a]]]\n").1.toOption.any (fun _ => true) = true := by
    decide +kernel
  have hrefused : ((start { maxDepth := 1 }).load "[[[a]]]\n").1.toOption.isNone = true := by
    decide +kernel
  obtain ⟨doc, hdoc, -⟩ := Except.exists_ok_of_any hloads
  rcases load_of_le (s := { maxDepth := 1 }) (t := { maxDepth := 3 }) (Int.le_refl _)
    (Int.le_refl _) (by decide) "[[[a]]]\n" with ⟨e, he, hsafe⟩ | heq
  · exact ⟨e, he, hsafe, doc, hdoc⟩
  · rw [heq, hdoc] at hrefused
    cases hrefused

end Loader

end YamlAudit
