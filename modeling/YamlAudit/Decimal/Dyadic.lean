/-!
# Decimal — Dyadic

The exact value of a floating point number: `significand · 2 ^ exponent` with its sign.  Two numbers
are compared, added up and divided exactly on these values, whatever their size.
-/

namespace YamlAudit

-- powers are those of the core library, whatever else is in scope
attribute [local instance (2000)] instPowNat

/-- The number `(-1)^negative · significand · 2 ^ exponent`. -/
structure Dyadic where
  negative : Bool
  significand : Nat
  exponent : Int
  deriving DecidableEq, Repr

/-- What a floating point number stands for. -/
inductive FloatValue where
  | finite (d : Dyadic)
  | infinite (negative : Bool)
  | notANumber
  deriving DecidableEq, Repr

/-- The value of a double from its sign bit, its eleven exponent bits and its fraction bits. -/
def FloatValue.ofBits (bits : Nat) : FloatValue :=
  let negative : Bool := 2 ^ (63 : Nat) ≤ bits
  let biased : Nat := bits / 2 ^ (52 : Nat) % 2 ^ (11 : Nat)
  let fraction : Nat := bits % 2 ^ (52 : Nat)
  if biased = 2047 then (if fraction = 0 then .infinite negative else .notANumber)
  else if biased = 0 then .finite ⟨negative, fraction, -1074⟩
  else .finite ⟨negative, 2 ^ (52 : Nat) + fraction, (biased : Int) - 1075⟩

/-- The value of a floating point number. -/
def floatValue (x : Float) : FloatValue := FloatValue.ofBits x.toBits.toNat

/-- A fraction of integers, its denominator at least one. -/
structure Ratio where
  num : Int
  den : Nat
  deriving DecidableEq, Repr

namespace Ratio

/-- A whole number. -/
def ofInt (n : Int) : Ratio := ⟨n, 1⟩

/-- Comparison by value. -/
def lt (a b : Ratio) : Bool := a.num * b.den < b.num * a.den

/-- Equality by value. -/
def eq (a b : Ratio) : Bool := a.num * b.den == b.num * a.den

/-- Whether `a` is a whole multiple of `b`; of zero, only zero is. -/
def isMultipleOf (a b : Ratio) : Bool :=
  (a.num * b.den) % (b.num * a.den) == 0

end Ratio

/-- A dyadic number as a fraction. -/
def Dyadic.ratio (d : Dyadic) : Ratio :=
  let s : Int := if d.negative then -(d.significand : Int) else d.significand
  if 0 ≤ d.exponent then ⟨s * 2 ^ d.exponent.toNat, 1⟩ else ⟨s, 2 ^ (-d.exponent).toNat⟩

end YamlAudit
