import Mathlib.Data.List.DropRight
import Mathlib.Data.List.GetD
import Mathlib.Data.List.Induction
import YamlAudit.Proofs.Source.Order

/-!
# Source — lines and columns told from the text

The table of a text is cut in two by an offset: the starts up to it come from the characters before
the offset, and all others lie behind it (`startsAfter_append`).  So the line of an offset counts the
line ends before it, wherever a search splits the table (`LineTable.line_of_split`), and its column
counts the characters after the last of these (`Location.after`).

* `LineTable.location_lt`: different offsets are at different locations, in the same order.
* `LineTable.location_eq`: the location of an offset, in the text or behind its end.
* `LineTable.location_exact`: locations, the way back to offsets, and when two offsets bound a range.
-/

namespace YamlAudit

/-- The characters of a text that are on its last line. -/
def lastLine (text : List Char) : List Char := text.rtakeWhile (· ≠ '\n')

/-- Where one stands after some text. -/
def Location.after (text : List Char) : Location :=
  ⟨1 + text.count '\n', 1 + (lastLine text).length⟩

/-- Line `n` of a text starts at offset `start`: at the beginning of the text or right after a line
end, with the line ends of all earlier lines before it. -/
def StartsLine (text : List Char) (n : Int) (start : Nat) : Prop :=
  ∃ before, before <+: text ∧ before.length = start ∧ n = 1 + before.count '\n' ∧
    lastLine before = []

/-! ### Last lines -/

theorem lastLine_concat (text : List Char) (c : Char) :
    lastLine (text ++ [c]) = if c = '\n' then [] else lastLine text ++ [c] := by
  by_cases h : c = '\n' <;> simp [lastLine, h]

/-- A text is what comes before its last line, and the last line, on which no line ends. -/
theorem exists_append_lastLine (text : List Char) :
    ∃ before, text = before ++ lastLine text ∧ lastLine before = [] ∧
      before.count '\n' = text.count '\n' := by
  induction text using List.reverseRecOn with
  | nil => exact ⟨[], rfl, rfl, rfl⟩
  | append_singleton text c ih =>
      rw [lastLine_concat]
      split
      · next h => exact ⟨text ++ [c], by simp, by rw [lastLine_concat, if_pos h], rfl⟩
      · next h =>
        obtain ⟨before, htext, hlast, hcount⟩ := ih
        refine ⟨before, ?_, hlast, ?_⟩
        · rw [← List.append_assoc, ← htext]
        · rw [hcount, List.count_append, List.count_singleton, if_neg (by simpa using h)]
          rfl

/-- Text that is added without a line end starts no line. -/
theorem eq_nil_of_lastLine_append {text more : List Char} (h : lastLine (text ++ more) = [])
    (hmore : '\n' ∉ more) : more = [] := by
  induction more using List.reverseRecOn with
  | nil => rfl
  | append_singleton more c =>
      rw [← List.append_assoc, lastLine_concat, if_neg] at h
      · simp at h
      · rintro rfl
        simp at hmore

/-- A line starts at one offset only. -/
theorem StartsLine.unique {text : List Char} {n : Int} {a b : Nat} (ha : StartsLine text n a)
    (hb : StartsLine text n b) : a = b := by
  wlog hle : a ≤ b generalizing a b
  · exact (this hb ha (Nat.le_of_not_le hle)).symm
  obtain ⟨before, hbefore, rfl, hn, -⟩ := ha
  obtain ⟨_, hbefore', rfl, hn', hlast⟩ := hb
  obtain ⟨more, rfl⟩ := List.prefix_of_prefix_length_le hbefore hbefore' hle
  rw [List.count_append] at hn'
  have hmore : more = [] :=
    eq_nil_of_lastLine_append hlast (List.count_eq_zero.mp (by omega))
  rw [hmore, List.append_nil]

/-! ### The starts of lines -/

theorem startsAfter_append (k : Nat) (a b : List Char) :
    startsAfter k (a ++ b) = startsAfter k a ++ startsAfter (k + a.length) b := by
  induction a generalizing k with
  | nil => rfl
  | cons c rest ih =>
      rw [List.cons_append, startsAfter, startsAfter, ih, List.length_cons,
        show k + 1 + rest.length = k + (rest.length + 1) by omega]
      split <;> rfl

theorem length_startsAfter (k : Nat) (text : List Char) :
    (startsAfter k text).length = text.count '\n' := by
  induction text generalizing k with
  | nil => rfl
  | cons c rest ih =>
      rw [startsAfter, List.count_cons]
      split
      · next h => simp [h, ih]
      · next h => simp [h, ih]

/-- A line starts behind the beginning of a text and no later than its end. -/
theorem lt_of_mem_startsAfter {k s : Nat} {text : List Char} (h : s ∈ startsAfter k text) :
    k < s ∧ s ≤ k + text.length := by
  induction text generalizing k with
  | nil => cases h
  | cons c rest ih =>
      have hrest : s ∈ startsAfter (k + 1) rest → k < s ∧ s ≤ k + (c :: rest).length := fun h => by
        have := ih h
        rw [List.length_cons]
        omega
      rw [startsAfter] at h
      split at h
      · rcases List.mem_cons.mp h with rfl | h
        · rw [List.length_cons]
          omega
        · exact hrest h
      · exact hrest h

/-- From the last of the starts on there is the last line. -/
theorem getLastD_startsAfter (text : List Char) :
    (startsAfter 0 text).getLastD 0 + (lastLine text).length = text.length := by
  induction text using List.reverseRecOn with
  | nil => rfl
  | append_singleton text c ih =>
      rw [startsAfter_append, lastLine_concat, startsAfter, startsAfter]
      split
      · simp
      · rw [List.append_nil, List.length_append, List.length_append, ← Nat.add_assoc, ih]

namespace LineTable

/-- Wherever a search splits the table into the starts up to an offset and those behind it, it comes
out at the line of the offset. -/
theorem line_of_split {t : LineTable} {offset : Int} {upTo behind : List Nat}
    (h : t.starts = upTo ++ behind) (hupTo : ∀ s ∈ upTo, (s : Int) ≤ offset)
    (hbehind : ∀ s ∈ behind, offset < (s : Int)) : t.line offset = upTo.length := by
  rw [line, h, List.countP_append, List.countP_eq_length.mpr fun s hs => by simpa using hupTo s hs,
    List.countP_eq_zero.mpr fun s hs => by simpa using hbehind s hs, Nat.add_zero]

/-! ### Order -/

/-- A later offset is at a later location. -/
theorem location_lt (t : LineTable) {a b : Int} (h : a < b) : t.location a < t.location b := by
  rcases Nat.lt_or_eq_of_le (t.line_mono (Int.le_of_lt h)) with hlt | heq
  · exact .inl (by simpa [location] using hlt)
  · exact .inr ⟨by simp [location, heq], by simp only [location, heq]; omega⟩

/-- Offsets are in the order of their locations. -/
theorem location_le_iff (t : LineTable) {a b : Int} : t.location a ≤ t.location b ↔ a ≤ b := by
  refine ⟨fun h => Int.not_lt.mp fun hlt => ?_, t.location_mono⟩
  exact Location.not_le.mpr (t.location_lt hlt) h

/-- Two offsets bound a range if they are in order. -/
theorem exists_range_iff (t : LineTable) {a b : Int} : (∃ r, t.range a b = .ok r) ↔ a ≤ b := by
  rw [← t.location_le_iff]
  constructor
  · rintro ⟨r, hr⟩
    exact (Range.of?_eq_ok_iff.mp hr).1
  · exact fun h => ⟨⟨_, _, h⟩, Range.of?_eq_ok_iff.mpr ⟨h, rfl, rfl⟩⟩

/-! ### Exactness -/

variable (text : String)

/-- The line of an offset is told by the line ends before it. -/
theorem line_eq (offset : Nat) :
    (ofText text).line offset = 1 + (text.toList.take offset).count '\n' ∧
      (ofText text).lineStart ((ofText text).line offset) + (lastLine (text.toList.take offset)).length =
        (text.toList.take offset).length := by
  generalize hbefore : text.toList.take offset = before
  have hstarts : (ofText text).starts =
      (0 :: startsAfter 0 before) ++ startsAfter before.length (text.toList.drop offset) := by
    rw [ofText, List.cons_append, ← Nat.zero_add before.length, ← startsAfter_append, ← hbefore,
      List.take_append_drop]
  have hlength : before.length ≤ offset := by
    rw [← hbefore, List.length_take]
    exact Nat.min_le_left _ _
  -- the starts up to the offset are those of the text before it, and the search counts them
  have hline : (ofText text).line offset = (0 :: startsAfter 0 before).length := by
    refine line_of_split hstarts (fun s hs => ?_) fun s hs => ?_
    · rcases List.mem_cons.mp hs with rfl | hs
      · omega
      · have := lt_of_mem_startsAfter hs
        omega
    · -- where there is text behind the offset, it is as long as the text before it
      have hlt := lt_of_mem_startsAfter hs
      have : offset < text.toList.length := Nat.lt_of_not_le fun hle => by
        rw [List.drop_eq_nil_of_le hle] at hs
        cases hs
      rw [← hbefore, List.length_take] at hlt
      omega
  refine ⟨?_, ?_⟩
  · rw [hline, List.length_cons, length_startsAfter, Nat.add_comm]
  · rw [hline, List.length_cons, lineStart, hstarts, List.getD_append _ _ _ _ (by simp),
      ← getLastD_startsAfter before]
    congr 1
    cases h : startsAfter 0 before with
    | nil => rfl
    | cons s rest =>
        simp [List.getLastD_eq_getLast?, List.getLast?_eq_getElem?]

/-- An offset is at the location after the characters before it, and as many columns further as it is
behind the end of the text. -/
theorem location_eq (offset : Nat) :
    (ofText text).location offset =
      { Location.after (text.toList.take offset) with
        column := 1 + (lastLine (text.toList.take offset)).length + (offset - text.length : Nat) } := by
  obtain ⟨hline, hstart⟩ := line_eq text offset
  have hlength : (text.toList.take offset).length + (offset - text.length) = offset := by
    rw [List.length_take, String.length_toList]
    omega
  rw [location, Location.after, Location.mk.injEq]
  constructor
  · rw [hline]
    rfl
  · omega

theorem location_eq_after {offset : Nat} (h : offset ≤ text.length) :
    (ofText text).location offset = .after (text.toList.take offset) := by
  rw [location_eq, Nat.sub_eq_zero_of_le h, Location.after, Int.natCast_zero, Int.add_zero]

/-- The line of an offset starts as many characters before it as its column tells. -/
theorem exists_startsLine (offset : Nat) :
    ∃ start, StartsLine text.toList ((ofText text).location offset).line start ∧
      (offset : Int) = start + ((ofText text).location offset).column - 1 := by
  obtain ⟨before, htake, hlast, hcount⟩ := exists_append_lastLine (text.toList.take offset)
  refine ⟨before.length, ⟨before, ?_, rfl, ?_, hlast⟩, ?_⟩
  · exact .trans ⟨_, htake.symm⟩ (List.take_prefix _ _)
  · rw [location_eq, hcount]
    rfl
  · have hlength : before.length + (lastLine (text.toList.take offset)).length =
        min offset text.length := by
      rw [← List.length_append, ← htake, List.length_take, String.length_toList]
    rw [location_eq]
    dsimp only
    omega

/-- The table of a text is exact and keeps the order.  An offset in the text is on the line after the
line ends before it, at the column after the characters since the last of these; an offset in the text
or behind its end is where its line starts, and its column further.  Different offsets, also those
before the text, are at different locations in the same order, so two of them bound a range if the
second is not the smaller. -/
theorem location_exact :
    (∀ offset : Nat, offset ≤ text.length →
      (ofText text).location offset = .after (text.toList.take offset)) ∧
    (∀ offset : Nat, ∃ start,
      (∀ s, StartsLine text.toList ((ofText text).location offset).line s ↔ s = start) ∧
        (offset : Int) = start + ((ofText text).location offset).column - 1) ∧
    (∀ a b : Int, a < b → (ofText text).location a < (ofText text).location b) ∧
    ∀ a b : Int, (∃ r, (ofText text).range a b = .ok r) ↔ a ≤ b := by
  refine ⟨fun _ => location_eq_after text, fun offset => ?_, fun _ _ => (ofText text).location_lt,
    fun _ _ => (ofText text).exists_range_iff⟩
  obtain ⟨start, hstart, hoffset⟩ := exists_startsLine text offset
  exact ⟨start, fun s => ⟨fun hs => hs.unique hstart, fun hs => hs ▸ hstart⟩, hoffset⟩

/-- A text of two lines: on the line end between them, before the text, behind its end. -/
theorem location_exact_twoLines :
    2 ≤ "ab\ncd".length ∧ (ofText "ab\ncd").location (2 : Nat) = .after ['a', 'b'] ∧
      (ofText "ab\ncd").location (-1) < (ofText "ab\ncd").location (2 : Nat) ∧
      ∃ r, (ofText "ab\ncd").range (2 : Nat) 9 = .ok r := by
  obtain ⟨hafter, -, hlt, hrange⟩ := location_exact "ab\ncd"
  exact ⟨by decide, hafter 2 (by decide), hlt _ _ (by decide), (hrange _ _).mpr (by decide)⟩

end LineTable

end YamlAudit
