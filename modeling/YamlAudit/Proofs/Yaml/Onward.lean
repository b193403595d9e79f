import YamlAudit.Proofs.Basic
import YamlAudit.Yaml.Token.Lexer

/-!
# Yaml — reading goes onward

No step of a cursor goes back, and so no function that reads a token or skips what lies between
tokens does.  What it leaves behind is a cursor at or behind the place where it began, and a scalar
ends no earlier than it begins.

* `scanDirective_onward`, `scanTag_onward`, `scanQuoted_onward`, `scanBlockScalar_onward` and
  `scanPlain_onward`: the scanners, each from those it calls.

A function that gives up has nothing to show, and one that runs out of the steps it was given leaves
the cursor where it is, so bounds on steps play no part.
-/

namespace YamlAudit

namespace Except

variable {ε α β : Type}

/-- Whatever a computation comes to has a property, if it comes to anything. -/
def Gives (x : Except ε α) (P : α → Prop) : Prop := ∀ a, x = .ok a → P a

namespace Gives

variable {P Q : α → Prop}

theorem ok {a : α} (h : P a) : Gives (.ok a : Except ε α) P := by
  rintro _ ⟨⟩
  exact h

theorem error {e : ε} : Gives (.error e : Except ε α) P := by
  rintro _ ⟨⟩

theorem imp {x : Except ε α} (h : Gives x P) (hPQ : ∀ a, P a → Q a) : Gives x Q :=
  fun a hx => hPQ a (h a hx)

/-- A statement on the second of two computations that holds for all the first may give. -/
theorem bind {x : Except ε α} {f : α → Except ε β} {R : β → Prop}
    (h : Gives x fun a => Gives (f a) R) : Gives (x >>= f) R := by
  intro b hb
  obtain ⟨a, ha, hf⟩ := Except.bind_eq_ok.mp hb
  exact h a ha b hf

theorem map {x : Except ε α} {f : α → β} {R : β → Prop} (h : Gives x fun a => R (f a)) :
    Gives (x.map f) R := by
  cases x with
  | error e => exact error
  | ok a => exact ok (h a rfl)

theorem ite {c : Prop} [Decidable c] {x y : Except ε α} (hx : c → Gives x P)
    (hy : ¬ c → Gives y P) : Gives (if c then x else y) P := by
  split
  · next h => exact hx h
  · next h => exact hy h

end Gives

end Except

namespace Yaml

/-! ### Cursors -/

/-- Behind a character the offset is one more. -/
theorem Mark.index_past (m : Mark) (c : Char) (following : Option Char) :
    (m.past c following).index = m.index + 1 := by
  unfold past
  split
  · rfl
  · split <;> rfl

namespace Cursor

variable (c : Cursor)

/-- The offset of a cursor. -/
abbrev index : Nat := c.mark.index

/-- A step goes past one character, or stays at the end. -/
theorem step_onward : c.index ≤ c.step.index := by
  unfold step
  split
  · exact Nat.le_refl _
  · exact Nat.le_of_lt (by simp [index, Mark.index_past])

/-- Several steps do not go back. -/
theorem skip_onward (n : Nat) : c.index ≤ (c.skip n).index := by
  induction n generalizing c with
  | zero => exact Nat.le_refl _
  | succ n ih => exact Nat.le_trans c.step_onward (ih c.step)

theorem skipFrom_onward (p : Char → Bool) (m : Mark) (cs : List Char) :
    m.index ≤ (skipFrom p m cs).index := by
  induction cs generalizing m with
  | nil => exact Nat.le_refl _
  | cons ch rest ih =>
      rw [skipFrom]
      split
      · exact Nat.le_trans (by simp [Mark.index_past]) (ih _)
      · exact Nat.le_refl _

/-- Nor does going past characters of one kind. -/
theorem skipWhile_onward (p : Char → Bool) : c.index ≤ (c.skipWhile p).index :=
  skipFrom_onward p c.mark c.rest

theorem skipIndent_onward (limit : Nat) (m : Mark) (cs : List Char) :
    m.index ≤ (skipIndent limit m cs).index := by
  induction cs generalizing m with
  | nil => exact Nat.le_refl _
  | cons ch rest ih =>
      rw [skipIndent]
      split
      · exact Nat.le_trans (by simp [Mark.index_past]) (ih _)
      · exact Nat.le_refl _

/-- Nor does going past a line break, be it one character or two. -/
theorem lineBreak_onward : c.index ≤ c.lineBreak.2.index := by
  unfold lineBreak
  split
  · exact c.skip_onward 2
  · split
    · exact c.step_onward
    · split
      · exact c.step_onward
      · exact Nat.le_refl _
  · exact Nat.le_refl _

variable {c} in
theorem lineBreak_onward_of_eq {b : Option Char} {after : Cursor} (h : c.lineBreak = (b, after)) :
    c.index ≤ after.index := by
  have hbreak := c.lineBreak_onward
  rwa [h] at hbreak

end Cursor

/-- A scanner leaves a cursor behind the place where it began. -/
abbrev Onward {α : Type} (c : Cursor) (x : Except Fault (α × Cursor)) : Prop :=
  Except.Gives x fun r => c.index ≤ r.2.index

namespace Onward

variable {α : Type} {c c' : Cursor} {x : Except Fault (α × Cursor)}

/-- A scanner may begin further on. -/
theorem trans (h : c.index ≤ c'.index) (hx : Onward c' x) : Onward c x :=
  hx.imp fun _ => Nat.le_trans h

end Onward

/-! ### Names -/

/-- The name of an anchor, from its characters. -/
theorem scanAnchorName_onward {activity : Activity} {c : Cursor} :
    Onward c (scanAnchorName activity c) :=
  .ite (fun _ => .error) fun _ =>
    .ok (Nat.le_trans c.step_onward (c.step.skipWhile_onward isAnchorChar))

/-- Escaped bytes, one after the other. -/
theorem scanUriEscapes_onward {place : TagPlace} {began first : Mark} {fuel : Nat}
    {bytes : List UInt8} {c : Cursor} :
    Onward c (scanUriEscapes place began first fuel bytes c) := by
  induction fuel generalizing bytes c with
  | zero => exact .ok (Nat.le_refl _)
  | succ fuel ih =>
      refine .ite (fun _ => ?_) fun _ => ?_
      · split
        · exact ih.trans (c.skip_onward 3)
        · exact .error
      · split
        · exact .ok (Nat.le_refl _)
        · exact .error

theorem scanUriFrom_onward {place : TagPlace} {numberSign : Bool} {began : Mark} {fuel : Nat}
    {acc : List Char} {c : Cursor} : Onward c (scanUriFrom place numberSign began fuel acc c) := by
  induction fuel generalizing acc c with
  | zero => exact .ok (Nat.le_refl _)
  | succ fuel ih =>
      refine .ite (fun _ => .ok (Nat.le_refl _)) fun _ => .ite (fun _ => ?_) fun _ => ?_
      · exact .bind <| (scanUriEscapes_onward).imp fun _ h => ih.trans h
      · exact ih.trans c.step_onward

/-- The text of a tag, with its escapes. -/
theorem scanUri_onward {place : TagPlace} {numberSign : Bool} {began : Mark} {c : Cursor} :
    Onward c (scanUri place numberSign began c) :=
  .bind <| (scanUriFrom_onward).imp fun _ h => .ite (fun _ => .error) fun _ => .ok h

theorem scanHandle_onward {place : TagPlace} {began : Mark} {c : Cursor} :
    Onward c (scanHandle place began c) := by
  have hname : c.index ≤ (c.step.skipWhile isHandleChar).index :=
    Nat.le_trans c.step_onward (c.step.skipWhile_onward _)
  refine .ite (fun _ => .error) fun _ => .ite (fun _ => .ok c.step_onward) fun _ => ?_
  exact .ite (fun _ => .ok (Nat.le_trans hname (Cursor.step_onward _))) fun _ => .error

theorem scanTagFrom_onward {numberSign : Bool} {began : Mark} {short : String} {c : Cursor} :
    Onward c (scanTagFrom numberSign began short c) := by
  refine .ite (fun _ => ?_) fun _ => .ite (fun _ => .ok c.step_onward) fun _ => ?_
  · refine .bind <| ((scanUri_onward).trans (c.skip_onward 2)).imp fun r h => ?_
    exact .ite (fun _ => .ok (Nat.le_trans h (Cursor.step_onward _))) fun _ => .error
  · extract_lets ahead finish
    have hfinish : ∀ handle after, c.index ≤ after.index → Onward c (finish (handle, after)) :=
      fun _ _ h => .bind <| ((scanUri_onward).trans h).imp fun _ h => .ok h
    refine .ite (fun _ => ?_) fun _ => ?_
    · exact .bind <| (scanHandle_onward).imp fun _ h => hfinish _ _ h
    · exact .bind <| .ok (hfinish _ _ c.step_onward)

theorem scanTagName_onward {numberSign : Bool} {c : Cursor} :
    Onward c (scanTagName numberSign c) :=
  .ite (fun _ => (scanTagFrom_onward).trans c.step_onward) fun _ => scanTagFrom_onward

/-- A tag ends no earlier than it begins. -/
theorem scanTag_onward {numberSign : Bool} {c : Cursor} : Onward c (scanTag numberSign c) :=
  .bind <| (scanTagName_onward).imp fun _ h => .ite (fun _ => .ok h) fun _ => .error

/-! ### Directives -/

theorem scanVersionNumber_onward {began : Mark} {c : Cursor} :
    Onward c (scanVersionNumber began c) :=
  .ite (fun _ => .error) fun _ => .ok (c.skipWhile_onward _)

theorem scanVersion_onward {began : Mark} {c : Cursor} : Onward c (scanVersion began c) := by
  refine .bind <| ((scanVersionNumber_onward).trans (c.skipWhile_onward _)).imp fun major h => ?_
  refine .ite (fun _ => .error) fun _ => ?_
  refine .bind <| ((scanVersionNumber_onward).trans
    (Nat.le_trans h (Cursor.step_onward _))).imp fun minor h => ?_
  exact .ite (fun _ => .ok h) fun _ => .error

theorem scanTagPrefix_onward {numberSign : Bool} {began : Mark} {c : Cursor} :
    Onward c (scanTagPrefix numberSign began c) := by
  refine .bind <| ((scanHandle_onward).trans (c.skipWhile_onward _)).imp fun handle h => ?_
  refine .ite (fun _ => .error) fun _ => ?_
  refine .bind <| ((scanUri_onward).trans
    (Nat.le_trans h (Cursor.skipWhile_onward _ _))).imp fun replacement h => ?_
  exact .ite (fun _ => .ok h) fun _ => .error

/-- A directive, whatever it says. -/
theorem scanDirective_onward {numberSign : Bool} {c : Cursor} :
    Onward c (scanDirective numberSign c) := by
  have hname : c.index ≤ (c.step.skipWhile isDirectiveChar).index :=
    Nat.le_trans c.step_onward (c.step.skipWhile_onward _)
  refine .ite (fun _ => .error) fun _ => .ite (fun _ => ?_) fun _ => .ite (fun _ => ?_) fun _ => ?_
  · exact .map <| (scanVersion_onward).trans hname
  · exact (scanTagPrefix_onward).trans hname
  · exact .ok hname

/-- What is left of a line is a comment. -/
theorem finishLine_onward {activity : Activity} {began : Mark} {c : Cursor} :
    Except.Gives (finishLine activity began c) fun after => c.index ≤ after.index := by
  have hspaces := c.skipWhile_onward (· == ' ')
  refine .ite (fun _ => .ok (Nat.le_trans ?_ (Cursor.lineBreak_onward _))) fun _ => .error
  split
  · exact Nat.le_trans hspaces (Cursor.skipWhile_onward _ _)
  · exact hspaces

theorem finishDirective_onward {began : Mark} {content : DirectiveContent} {c : Cursor} :
    Except.Gives (finishDirective began content c) fun after => c.index ≤ after.index := by
  unfold finishDirective
  split
  · exact (finishLine_onward).imp fun _ => Nat.le_trans (c.skipWhile_onward _)
  · exact finishLine_onward

/-! ### Scalars between quotes -/

theorem scanNumericEscape_onward {began : Mark} {width : Nat} {c : Cursor} :
    Onward c (scanNumericEscape began width c) := by
  unfold scanNumericEscape
  split
  · exact .error
  · exact .ite (fun _ => .error) fun _ => .ite (fun _ => .error) fun _ => .ok (c.skip_onward width)

theorem scanQuotedBreaks_onward {began : Mark} {fuel : Nat} {breaks : List Char} {c : Cursor} :
    Onward c (scanQuotedBreaks began fuel breaks c) := by
  induction fuel generalizing breaks c with
  | zero => exact .ok (Nat.le_refl _)
  | succ fuel ih =>
      refine .ite (fun _ => .error) fun _ => ?_
      have hspaces := c.skipWhile_onward isSpaceOrTab
      split
      · next h => exact ih.trans (Nat.le_trans hspaces (Cursor.lineBreak_onward_of_eq h))
      · next h => exact .ok (Nat.le_trans hspaces (Cursor.lineBreak_onward_of_eq h))

theorem scanQuotedSpace_onward {began : Mark} {c : Cursor} :
    Onward c (scanQuotedSpace began c) := by
  have hspaces := c.skipWhile_onward isSpaceOrTab
  refine .ite (fun _ => .error) fun _ => ?_
  split
  · exact .ok hspaces
  · next h =>
    have hnext := Nat.le_trans hspaces (Cursor.lineBreak_onward_of_eq h)
    exact .bind <| (scanQuotedBreaks_onward.trans hnext).imp fun _ h => .ok h

/-- An escape stands for one character, for several or for none. -/
theorem scanEscape_onward {began : Mark} {c : Cursor} : Onward c (scanEscape began c) := by
  unfold scanEscape
  split
  · exact .ok c.step_onward
  · exact .map <| scanNumericEscape_onward.trans c.step_onward
  · exact .ite (fun _ => scanQuotedBreaks_onward.trans c.lineBreak_onward) fun _ => .error

theorem scanQuotedFrom_onward {double : Bool} {began : Mark} {fuel : Nat} {rev : List Char}
    {c : Cursor} : Onward c (scanQuotedFrom double began fuel rev c) := by
  induction fuel generalizing rev c with
  | zero => exact .ok (Nat.le_refl _)
  | succ fuel ih =>
      have hstep : ∀ rev, Onward c (scanQuotedFrom double began fuel rev c.step) := fun _ =>
        ih.trans c.step_onward
      refine .ite (fun _ => ih.trans (c.skipWhile_onward _)) fun _ => .ite (fun _ => ?_) fun _ =>
        .ite (fun _ => ?_) fun _ => .ite (fun _ => ?_) fun _ => ?_
      · refine .ite (fun _ => hstep _) fun _ => .ite (fun _ => ?_) fun _ => .ok c.step_onward
        exact ih.trans (c.skip_onward 2)
      · exact .ite (fun _ => .ok c.step_onward) fun _ => hstep _
      · refine .ite (fun _ => ?_) fun _ => hstep _
        exact .bind <| (scanEscape_onward.trans c.step_onward).imp fun _ h => ih.trans h
      · exact .bind <| scanQuotedSpace_onward.imp fun _ h => ih.trans h

/-- A scalar between quotes ends no earlier than it begins. -/
theorem scanQuoted_onward {double : Bool} {c : Cursor} : Onward c (scanQuoted double c) :=
  .map <| scanQuotedFrom_onward.trans c.step_onward

/-! ### Block scalars -/

theorem scanIncrement_onward {began : Mark} {c : Cursor} : Onward c (scanIncrement began c) :=
  .ite (fun _ => .ok (Nat.le_refl _)) fun _ => .ite (fun _ => .error) fun _ => .ok c.step_onward

/-- The indentation and the treatment of the last line breaks, in either order. -/
theorem scanBlockIndicators_onward {began : Mark} {c : Cursor} :
    Onward c (scanBlockIndicators began c) := by
  unfold scanBlockIndicators
  extract_lets finish
  have hfinish : ∀ header after, c.index ≤ after.index → Onward c (finish (header, after)) :=
    fun _ _ h => .ite (fun _ => .ok h) fun _ => .error
  split
  · exact .bind <| .map <| (scanIncrement_onward.trans c.step_onward).imp fun _ h => hfinish _ _ h
  · refine .bind <| scanIncrement_onward.imp fun r h => ?_
    dsimp only
    split
    · exact .bind (.ok (hfinish _ _ (Nat.le_trans h (Cursor.step_onward _))))
    · exact .bind (.ok (hfinish _ _ h))

section Lines

variable {start : Nat}

/-- Behind blank lines the cursor and the end of the last of them are behind any place that they
were behind before. -/
theorem scanBlockBreaks_onward {indent fuel : Nat} {breaks : List Char} {stop : Mark} {c : Cursor}
    (hstop : start ≤ stop.index) (hc : start ≤ c.index) :
    start ≤ (scanBlockBreaks indent fuel breaks stop c).2.1.index ∧
      start ≤ (scanBlockBreaks indent fuel breaks stop c).2.2.index := by
  induction fuel generalizing breaks stop c with
  | zero => exact ⟨hstop, hc⟩
  | succ fuel ih =>
      rw [scanBlockBreaks]
      split
      · next h =>
        have hafter := Nat.le_trans hc (Cursor.lineBreak_onward_of_eq h)
        exact ih hafter (Nat.le_trans hafter (Cursor.skipIndent_onward ..))
      · exact ⟨hstop, hc⟩

/-- Both the last line break and what comes behind it lie behind the beginning. -/
theorem scanBreaks_onward (indent : Nat) {c : Cursor} (hc : start ≤ c.index) :
    start ≤ (scanBreaks indent c).2.1.index ∧ start ≤ (scanBreaks indent c).2.2.index :=
  scanBlockBreaks_onward hc (Nat.le_trans hc (Cursor.skipIndent_onward ..))

/-- The indentation of a block scalar is looked for in the lines in front of its first text. -/
theorem searchIndent_onward (fuel : Nat) {s : IndentSearch} {c : Cursor}
    (hstop : start ≤ s.stop.index) (hc : start ≤ c.index) :
    start ≤ (searchIndent fuel s c).1.stop.index ∧ start ≤ (searchIndent fuel s c).2.index := by
  induction fuel generalizing s c with
  | zero => exact ⟨hstop, hc⟩
  | succ fuel ih =>
      rw [searchIndent]
      split
      · exact ih hstop (Nat.le_trans hc c.step_onward)
      · split
        · next h =>
          have hafter := Nat.le_trans hc (Cursor.lineBreak_onward_of_eq h)
          exact ih hafter hafter
        · exact ⟨hstop, hc⟩

/-- The lines of a block scalar, and where the last of them ends. -/
theorem scanBlockLines_onward (folded topLevel : Bool) (indent fuel : Nat) {b : BlockLines}
    {c : Cursor} (hstop : start ≤ b.stop.index) (hc : start ≤ c.index) :
    start ≤ (scanBlockLines folded topLevel indent fuel b c).1.stop.index ∧
      start ≤ (scanBlockLines folded topLevel indent fuel b c).2.index := by
  induction fuel generalizing b c with
  | zero => exact ⟨hstop, hc⟩
  | succ fuel ih =>
      rw [scanBlockLines]
      split
      · exact ⟨hstop, hc⟩
      · have hline := Nat.le_trans hc <| Nat.le_trans
          (c.skipWhile_onward fun ch => !isLineEnd ch) (Cursor.lineBreak_onward _)
        obtain ⟨hbreaks, hafter⟩ := scanBreaks_onward indent hline
        dsimp only
        split
        · exact ⟨hbreaks, hafter⟩
        · exact ih hbreaks hafter

end Lines

/-- A block scalar ends behind the place where it begins, and so does the reading of it. -/
theorem scanBlockScalar_onward {folded : Bool} {outer : Int} {c : Cursor} :
    Except.Gives (scanBlockScalar folded outer c) fun r =>
      c.index ≤ r.2.1.index ∧ c.index ≤ r.2.2.index := by
  unfold scanBlockScalar
  refine .bind <| (scanBlockIndicators_onward.trans c.step_onward).imp fun header h => ?_
  refine .bind <| finishLine_onward.imp fun after hline => ?_
  have hafter := Nat.le_trans h hline
  extract_lets least topLevel finish
  have hfinish : ∀ indent breaks stop after, c.index ≤ stop.index → c.index ≤ after.index →
      Except.Gives (finish (indent, breaks, stop, after)) fun r =>
        c.index ≤ r.2.1.index ∧ c.index ≤ r.2.2.index := by
    intro indent breaks stop after hstop hafter
    have hlines := scanBlockLines_onward folded topLevel indent (after.rest.length + 1)
      (b := ⟨[], none, breaks, stop⟩) hstop hafter
    exact .ok hlines
  split
  · next increment _ =>
    have hbreaks := scanBreaks_onward (max least 1 + increment - 1) hafter
    exact .bind (.ok (hfinish _ _ _ _ hbreaks.1 hbreaks.2))
  · have hsearch := searchIndent_onward (after.rest.length + 1)
      (s := ⟨[], after.mark, none, 0⟩) hafter hafter
    exact .ite (fun _ => .bind .error) fun _ => .bind (.ok (hfinish _ _ _ _ hsearch.1 hsearch.2))

/-! ### Plain scalars -/

theorem scanPlainBreaks_onward (fuel : Nat) (breaks : List Char) {c : Cursor} :
    c.index ≤ (scanPlainBreaks fuel breaks c).2.index := by
  induction fuel generalizing breaks c with
  | zero => exact Nat.le_refl _
  | succ fuel ih =>
      rw [scanPlainBreaks]
      have hspaces := c.skipWhile_onward (· == ' ')
      split
      · exact Nat.le_refl _
      · split
        · next h => exact Nat.le_trans hspaces (Nat.le_trans (Cursor.lineBreak_onward_of_eq h) (ih _))
        · next h => exact Nat.le_trans hspaces (Cursor.lineBreak_onward_of_eq h)

/-- What lies between two pieces of a plain scalar. -/
theorem scanPlainGap_onward {c : Cursor} : c.index ≤ (scanPlainGap c).after.index := by
  have hspaces := c.skipWhile_onward (· == ' ')
  unfold scanPlainGap
  dsimp only
  split
  · exact hspaces
  · next after _ hbreak =>
    have hafter := Nat.le_trans hspaces (Cursor.lineBreak_onward_of_eq hbreak)
    have hbreaks := Nat.le_trans hafter
      (scanPlainBreaks_onward (after.rest.length + 1) [])
    split
    · next h => rwa [h] at hbreaks
    · next h => rwa [h] at hbreaks

/-- The pieces of a plain scalar, and where the last of them ends. -/
theorem scanPlainFrom_onward {flow old : Bool} {least : Int} {fuel start : Nat} {gap : List Char}
    {s : PlainScalar} (hstop : start ≤ s.stop.index) (hafter : start ≤ s.after.index) :
    start ≤ (scanPlainFrom flow old least fuel gap s).stop.index ∧
      start ≤ (scanPlainFrom flow old least fuel gap s).after.index := by
  induction fuel generalizing gap s with
  | zero => exact ⟨hstop, hafter⟩
  | succ fuel ih =>
      rw [scanPlainFrom]
      dsimp only
      split
      · exact ⟨hstop, hafter⟩
      · have hchars := Nat.le_trans hafter
          (s.after.skip_onward (plainChars flow old s.after.rest).length)
        have hgap := Nat.le_trans hchars scanPlainGap_onward
        split
        · exact ⟨hchars, hgap⟩
        · exact ih hchars hgap

/-- A plain scalar ends behind the place where it begins, and so does the reading of it. -/
theorem scanPlain_onward {flow old : Bool} {least : Int} {c : Cursor} :
    c.index ≤ (scanPlain flow old least c).stop.index ∧
      c.index ≤ (scanPlain flow old least c).after.index :=
  scanPlainFrom_onward (Nat.le_refl _) (Nat.le_refl _)

/-! ### Between tokens -/

/-- Blanks and comments between tokens. -/
theorem Lexer.skipBlanksFrom_onward {flow : Bool} {fuel : Nat} {allowed : Bool} {c : Cursor} :
    c.index ≤ (skipBlanksFrom flow fuel allowed c).2.index := by
  induction fuel generalizing allowed c with
  | zero => exact Nat.le_refl _
  | succ fuel ih =>
      have hcomment : ∀ d : Cursor, c.index ≤ d.index → c.index ≤
          (if d.peek == '#' then d.skipWhile fun ch => !isLineEnd ch else d).index := by
        intro d hd
        split
        · exact Nat.le_trans hd (d.skipWhile_onward _)
        · exact hd
      have hblank := hcomment _ (c.skipWhile_onward fun ch => ch == ' ' || (flow && ch == '\t'))
      rw [skipBlanksFrom]
      split
      · next hbreak =>
        exact Nat.le_trans hblank (Nat.le_trans (Cursor.lineBreak_onward_of_eq hbreak) ih)
      · exact hblank

end Yaml

end YamlAudit
