import YamlAudit.RangeMap.Index

/-!
# Source — offsets and locations in the same order

A later offset has a location that is no earlier (`LineTable.location_mono`), so a span that does
not run backwards has a range (`LineTable.nodeRange_of_span`).

Only the order counts here and not the locations themselves.  It holds behind the end of the text
too, where every offset is one column further in the last line.
-/

namespace YamlAudit

namespace LineTable

theorem line_mono (t : LineTable) {a b : Int} (h : a ≤ b) : t.line a ≤ t.line b :=
  List.countP_mono_left fun s _ hs => by
    simp only [decide_eq_true_eq] at hs ⊢
    exact Int.le_trans hs h

/-- A later offset is on a later line, or further right on the same one. -/
theorem location_mono (t : LineTable) {a b : Int} (h : a ≤ b) : t.location a ≤ t.location b := by
  rcases Nat.lt_or_eq_of_le (t.line_mono h) with hlt | heq
  · exact .inl (by simpa [location] using hlt)
  · exact .inr ⟨by simp [location, heq], by simp only [location, heq]; omega⟩

/-- The range of a node whose span does not run backwards. -/
theorem nodeRange_of_span (t : LineTable) {node : Node} {span : Span} (hs : node.span = some span)
    (h : span.start ≤ span.stop) :
    ∃ r, t.nodeRange node = .ok (some r) ∧ r.start = t.location span.start ∧
      r.stop = t.location span.stop := by
  refine ⟨⟨t.location span.start, t.location span.stop, t.location_mono h⟩, ?_, rfl, rfl⟩
  simp [nodeRange, hs, range, Range.of?, t.location_mono h, Except.map]

/-- A range that was found is that of the span. -/
theorem nodeRange_eq_some {t : LineTable} {node : Node} {r : Range}
    (h : t.nodeRange node = .ok (some r)) :
    ∃ span, node.span = some span ∧ r.start = t.location span.start ∧
      r.stop = t.location span.stop := by
  unfold nodeRange at h
  split at h
  · cases h
  · next span hs =>
    refine ⟨span, hs, ?_⟩
    cases e : t.range span.start span.stop with
    | error _ => simp [e, Except.map] at h
    | ok r' =>
        simp only [e, Except.map, Except.ok.injEq, Option.some.injEq] at h
        subst h
        exact (Range.of?_eq_ok_iff.mp e).2

end LineTable

end YamlAudit
