import YamlAudit.Audit.Auditor
import YamlAudit.Proofs.Audit.Limits
import YamlAudit.Proofs.Audit.Loading
import YamlAudit.Proofs.Value.Operands

/-!
# Audit — documents loaded in turn

What a loader passes on from one document to the next is the version in force and what was left when
a value was refused while it was being built.  A text that is of the default version from beginning
to end (`Yaml.Unversioned`) and whose value is not refused half-built (`Loader.LeavesNoTrace`) leaves
the loader as it was at the beginning, whether it is accepted or rejected, and at whatever stage.

* `Loader.independent`: texts before which only such texts were loaded have the outcomes that they
  have by themselves, and so have the files of a batch.
* `Loader.exists_loadAll_ne_map`: other texts need not.

That other texts need not is shown by a text that declares an older version: the next one is read as
that version as well, and so has another value than by itself.  Where a value is refused half built,
what is left of it is in the next one's way.
-/

namespace YamlAudit

namespace Yaml

/-- A text of the default version: all its parts are read as such, and so is what comes last. -/
def Unversioned (source : List Char) : Prop :=
  (∀ m ∈ (Markup.run .default source).parts, m.version = .default) ∧
    (Markup.run .default source).version = .default

instance (source : List Char) : Decidable (Unversioned source) :=
  inferInstanceAs (Decidable (_ ∧ _))

/-- The version in force when a tree was refused or complete is that of a part or of the end. -/
theorem MarkupRun.tree_version (run : MarkupRun) (limit : Int) :
    (run.tree limit).version = run.version ∨
      ∃ m ∈ run.parts, (run.tree limit).version = m.version := by
  unfold MarkupRun.tree
  dsimp only
  split
  · cases hlast : (run.parts.filter fun m => !m.kind.event.isStream)[Progress.reach limit .before
        ((run.parts.filter fun m => !m.kind.event.isStream).map Markup.event) - 1]? with
    | none => exact .inl rfl
    | some m => exact .inr ⟨m, List.mem_of_mem_filter (List.mem_of_getElem? hlast), rfl⟩
  · split
    · exact .inl rfl
    · exact .inl rfl

theorem Assembly.version_of_run {a : Assembly} {parts : List Markup} {f : Fault} {version : Version}
    (h : a.run parts = .error (f, version)) : ∃ m ∈ parts, version = m.version := by
  induction parts generalizing a with
  | nil => cases h
  | cons m rest ih =>
      rw [run] at h
      split at h
      · obtain ⟨m', hm', hversion⟩ := ih h
        exact ⟨m', List.mem_cons_of_mem _ hm', hversion⟩
      · cases h
        exact ⟨m, List.mem_cons_self, rfl⟩

/-- A reader goes on as the version of the text.  Its builder is as it was or as new, unless a value
was refused that had been begun. -/
theorem ValueReader.read_next (r : ValueReader) (literalKeys : Bool) (source : List Char) :
    (r.read literalKeys source).2.version = (r.builder.graph.read r.version source).version ∧
    (r.read literalKeys source).2.calls = r.calls ∧
    ((r.read literalKeys source).2.builder = r.builder ∨
      (r.read literalKeys source).2.builder = .empty ∨
      ∃ a e, (r.builder.graph.read r.version source).result = .ok a ∧
        (r.read literalKeys source).1 = .error (.value e)) := by
  unfold ValueReader.read
  dsimp only
  split
  · exact ⟨rfl, rfl, .inl rfl⟩
  split
  · exact ⟨rfl, rfl, .inl rfl⟩
  · next a hresult =>
    split
    · exact ⟨rfl, rfl, .inl rfl⟩
    · split
      · exact ⟨rfl, rfl, .inr (.inl rfl)⟩
      · next e b _ => exact ⟨rfl, rfl, .inr (.inr ⟨a, e, hresult, rfl⟩)⟩

namespace Unversioned

variable {source : List Char}

theorem tree (h : Unversioned source) (limit : Int) :
    (Tree.read limit .default source).version = .default := by
  rcases (Markup.run .default source).tree_version limit with hend | ⟨m, hm, hpart⟩
  · exact hend.trans h.2
  · exact hpart.trans (h.1 m hm)

theorem graph (h : Unversioned source) (g : Graph) :
    (g.read .default source).version = .default := by
  unfold Graph.read
  dsimp only
  split
  · next f version hrun =>
    obtain ⟨m, hm, rfl⟩ := Assembly.version_of_run hrun
    exact h.1 m hm
  · split
    · exact h.2
    · exact h.2

/-- A reader is as at the beginning after a text whose value was accepted, or refused before anything
of it was built. -/
theorem read_start (h : Unversioned source) {literalKeys : Bool}
    (hbuilt : ∀ e, (ValueReader.start.read literalKeys source).1 = .error (.value e) →
      ∃ f, (Graph.empty.read .default source).result = .error f) :
    (ValueReader.start.read literalKeys source).2 = .start := by
  obtain ⟨hversion, hcalls, hbuilder⟩ := ValueReader.start.read_next literalKeys source
  have hbuilder : (ValueReader.start.read literalKeys source).2.builder = .empty := by
    rcases hbuilder with h | h | ⟨a, e, hok, herror⟩
    · exact h
    · exact h
    · obtain ⟨f, hf⟩ := hbuilt e herror
      cases hok.symm.trans hf
  cases hr : (ValueReader.start.read literalKeys source).2 with
  | mk version builder calls =>
      rw [hr] at hversion hcalls hbuilder
      rw [ValueReader.start, ← show builder = .empty from hbuilder,
        ← show version = .default from hversion.trans (h.graph _), ← show calls = callRoom from hcalls]

end Unversioned

end Yaml

namespace Loader

/-- A text that does not change what comes after it: it is of the default version, and if its value
is refused, then before anything of it was built. -/
structure LeavesNoTrace (settings : Settings) (text : String) : Prop where
  unversioned : Yaml.Unversioned text.toList
  built : ∀ e, ((start settings).load text).1 = .error (.value e) →
    ∃ f, (Yaml.Graph.empty.read .default text.toList).result = .error f

/-- After such a text a new loader is as it was. -/
theorem LeavesNoTrace.load_next {settings : Settings} {text : String}
    (h : LeavesNoTrace settings text) : ((start settings).load text).2 = start settings := by
  have hnext : ((start settings).readTree text.toList).2 = start settings := by
    rw [readTree_next]
    unfold start
    rw [h.unversioned.tree]
  have hbuilt := h.built
  unfold load at hbuilt ⊢
  dsimp only at hbuilt ⊢
  -- a text that is too large, or whose tree is refused, is not read any further
  split
  · rfl
  · next hsize =>
    rw [if_neg hsize] at hbuilt
    split
    · next e l hl =>
      rw [hl] at hnext
      exact hnext
    · next root l hl =>
      rw [hl] at hnext hbuilt
      obtain rfl : l = start settings := hnext
      cases hread : (start settings).reader.read true text.toList with
      | mk outcome reader =>
        simp only [hread] at hbuilt
        have hreader : (Yaml.ValueReader.start.read true text.toList).2 = .start :=
          h.unversioned.read_start fun e he => hbuilt e (by
            rw [show outcome = .error (.value e) from (congrArg Prod.fst hread).symm.trans he]
            rfl)
        obtain rfl : reader = .start := (congrArg Prod.snd hread).symm.trans hreader
        cases outcome <;> rfl

/-! ### Runs -/

/-- A run over texts before which only such texts were loaded gives each of them the outcome that it
has by itself. -/
theorem loadAll_start {settings : Settings} {texts : List String}
    (h : ∀ text ∈ texts.dropLast, LeavesNoTrace settings text) :
    (start settings).loadAll texts = texts.map fun text => ((start settings).load text).1 := by
  induction texts with
  | nil => rfl
  | cons text rest ih =>
      cases rest with
      | nil => rfl
      | cons next rest =>
          have hload := (h text List.mem_cons_self).load_next
          have ih := ih fun t ht => h t (List.mem_cons_of_mem _ ht)
          rw [loadAll, List.map_cons, ← ih]
          generalize hl : (start settings).load text = result at hload
          obtain ⟨outcome, l⟩ := result
          obtain rfl : l = start settings := hload
          rfl

/-- The text of the file at a path, if there is one and it can be decoded. -/
def textAt? (files : FileTree) (path : PathName) : Option String :=
  match files.find? path with
  | some (.file bytes) => (fileText bytes).toOption
  | _ => none

theorem auditFile_start {ε : Type} {settings : Settings} {files : FileTree}
    {expected : Option (Expectation ε)} {path : PathName}
    (h : ∀ text, textAt? files path = some text → LeavesNoTrace settings text) :
    ((start settings).auditFile files expected path).2 = start settings := by
  unfold auditFile
  split
  · rfl
  · rfl
  · next bytes hfile =>
    split
    · rfl
    · next text htext =>
      refine (h text ?_).load_next
      rw [textAt?, hfile]
      simp [htext, Except.toOption]

/-- The same for a batch of files, up to the first that ends it. -/
theorem auditFiles_start {ε : Type} {settings : Settings} {files : FileTree}
    {expected : Option (Expectation ε)} {paths : List PathName}
    (h : ∀ path ∈ paths.dropLast, ∀ text, textAt? files path = some text →
      LeavesNoTrace settings text) :
    (start settings).auditFiles files expected paths =
      (paths.mapM fun path => ((start settings).auditFile files expected path).1).map Batch.mk := by
  induction paths with
  | nil => rfl
  | cons path rest ih =>
      rw [auditFiles, List.mapM_cons]
      cases hfile : (start settings).auditFile files expected path with
      | mk outcome l =>
          cases outcome with
          | error fault => rfl
          | ok outcome =>
              cases rest with
              | nil => rfl
              | cons next rest =>
                  have hstart : ((start settings).auditFile files expected path).2 =
                      start settings := auditFile_start (h path List.mem_cons_self)
                  rw [hfile] at hstart
                  obtain rfl : l = start settings := hstart
                  dsimp only
                  rw [ih fun p hp => h p (List.mem_cons_of_mem _ hp)]
                  cases (next :: rest).mapM fun path =>
                    ((start settings).auditFile files expected path).1 <;> rfl

/-- Texts before which one loader has loaded only texts that leave no trace have the outcomes that a
new loader gives them, and so do the files of a batch, up to the first that ends it. -/
theorem independent (settings : Settings) :
    (∀ texts : List String, (∀ text ∈ texts.dropLast, LeavesNoTrace settings text) →
      (start settings).loadAll texts = texts.map fun text => ((start settings).load text).1) ∧
    ∀ {ε : Type} (files : FileTree) (expected : Option (Expectation ε)) (paths : List PathName),
      (∀ path ∈ paths.dropLast, ∀ text, textAt? files path = some text →
        LeavesNoTrace settings text) →
      (start settings).auditFiles files expected paths =
        (paths.mapM fun path => ((start settings).auditFile files expected path).1).map Batch.mk :=
  ⟨fun _ => loadAll_start, fun _ _ _ => auditFiles_start⟩

theorem independent_ofRejected :
    let texts := ["a: &x 1\nb: *x\n", "[1, 2\n", "*y\n", "!foo x\n"]
    (∀ text ∈ texts.dropLast, LeavesNoTrace {} text) ∧
      (start {}).loadAll texts = texts.map fun text => ((start {}).load text).1 := by
  intro texts
  have hcheck : (texts.dropLast.all fun text => decide (Yaml.Unversioned text.toList) &&
      match ((start {}).load text).1 with
      | .error (.value _) =>
        (Yaml.Graph.empty.read .default text.toList).result.toOption.isNone
      | _ => true) = true := by decide +kernel
  have htexts : ∀ text ∈ texts.dropLast, LeavesNoTrace {} text := by
    intro text htext
    obtain ⟨hversion, hvalue⟩ := Bool.and_eq_true_iff.mp (List.all_eq_true.mp hcheck text htext)
    refine ⟨of_decide_eq_true hversion, fun e he => ?_⟩
    rw [he] at hvalue
    cases hresult : (Yaml.Graph.empty.read .default text.toList).result with
    | error f => exact ⟨f, rfl⟩
    | ok a => simp [hresult, Except.toOption] at hvalue
  exact ⟨htexts, (independent {}).1 texts htexts⟩

theorem loadAll_pair (l : Loader) (first second : String) :
    l.loadAll [first, second] = [(l.load first).1, ((l.load first).2.load second).1] := rfl

/-- One loader does not always give texts the outcomes that new loaders give them: what is left of a
value refused half-built keeps the next text from being loaded, and a version directive decides what
is read in the next text. -/
theorem exists_loadAll_ne_map :
    ((∃ e f, (start {}).loadAll ["[[[!foo x]], [!bar y]]\n", "a\n"] = [.error e, .error f]) ∧
      ∃ document, ((start {}).load "a\n").1 = .ok document) ∧
    (∃ first second, (start {}).loadAll ["%YAML 1.1\n---\nyes\n", "yes\n"] =
      [.ok first, .ok second] ∧ second.data.value = .bool true) ∧
    ∃ document, ((start {}).load "yes\n").1 = .ok document ∧ document.data.value = .text "yes" := by
  have hboth : (Except.failsWith ((start {}).load "[[[!foo x]], [!bar y]]\n").1 (fun _ => true) &&
      Except.failsWith (((start {}).load "[[[!foo x]], [!bar y]]\n").2.load "a\n").1
        fun _ => true) = true := by decide +kernel
  have halone : ((start {}).load "a\n").1.toOption.any (fun _ => true) = true := by decide +kernel
  have hversions : (((start {}).load "%YAML 1.1\n---\nyes\n").1.toOption.any (fun _ => true) &&
      (((start {}).load "%YAML 1.1\n---\nyes\n").2.load "yes\n").1.toOption.any
        fun d => d.data.value.sameAtom (.bool true)) = true := by decide +kernel
  have hplain : ((start {}).load "yes\n").1.toOption.any
      (fun d => d.data.value.sameAtom (.text "yes")) = true := by decide +kernel
  obtain ⟨hrefused, hnext⟩ := Bool.and_eq_true_iff.mp hboth
  obtain ⟨hversioned, hbehind⟩ := Bool.and_eq_true_iff.mp hversions
  obtain ⟨e, he, -⟩ := Except.exists_error_of_failsWith hrefused
  obtain ⟨f, hf, -⟩ := Except.exists_error_of_failsWith hnext
  obtain ⟨document, hdocument, -⟩ := Except.exists_ok_of_any halone
  obtain ⟨first, hfirst, -⟩ := Except.exists_ok_of_any hversioned
  obtain ⟨second, hsecond, htrue⟩ := Except.exists_ok_of_any hbehind
  obtain ⟨plain, hload, hyes⟩ := Except.exists_ok_of_any hplain
  refine ⟨⟨⟨e, f, ?_⟩, document, hdocument⟩, ⟨first, second, ?_, Value.eq_of_sameAtom htrue⟩,
    plain, hload, Value.eq_of_sameAtom hyes⟩
  · rw [loadAll_pair, he, hf]
  · rw [loadAll_pair, hfirst, hsecond]

end Loader

end YamlAudit
