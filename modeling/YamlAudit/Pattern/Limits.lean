import YamlAudit.Pattern.Read

/-!
# Pattern — Limits

What can be wrong with a pattern although its text can be read: a look behind at stretches of different
lengths or too far back, and a repetition in a pattern that may have none.  The flaw that comes first in
the text counts, that of a look behind before those of what is in it.
-/

namespace YamlAudit

/-- The greatest number of characters a look behind can be told to go back. -/
def lookLimit : Nat := 0xFFFFFFFF

/-- The least number of characters for which a look behind cannot be carried out. -/
def longLookSize : Nat := 0x80000000

/-- What is wrong with a look behind at stretches of a width. -/
def PatternWidth.lookFlaw? (w : PatternWidth) : Option FlawCause :=
  if lookLimit < w.least then some .looksTooFar
  else if w.fixed?.isNone then some .variableWidth
  else none

namespace Pattern

/-- What is wrong with a pattern that has been read; a `plain` one has no repetitions. -/
def flaw? (plain : Bool) : Pattern → Option FlawCause
  | loop _ _ appetite p => if plain then some (.barredLoop appetite) else p.flaw? plain
  | behind _ width p => width.lookFlaw?.or (p.flaw? plain)
  | seq p q | either p q | ifGroup _ p q => (p.flaw? plain).or (q.flaw? plain)
  | group _ p | withOptions p | atomic p | ahead _ p => p.flaw? plain
  | empty | one _ | place _ | again _ _ => none

/-- Whether a look behind goes back too far to be carried out. -/
def looksLong : Pattern → Bool
  | behind _ width p => longLookSize ≤ width.least || p.looksLong
  | seq p q | either p q | ifGroup _ p q => p.looksLong || q.looksLong
  | loop _ _ _ p | group _ p | withOptions p | atomic p | ahead _ p => p.looksLong
  | empty | one _ | place _ | again _ _ => false

end Pattern

end YamlAudit
