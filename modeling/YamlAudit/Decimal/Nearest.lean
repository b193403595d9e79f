import YamlAudit.Decimal.Dyadic

/-!
# Decimal — Nearest

The floating point number nearest to a fraction.  The fraction is scaled by a power of two so that its
whole part has fifty-three binary digits, or fewer next to zero; the whole part is rounded by what is
left, a half to the even neighbour (`roundedQuotient`).
-/

namespace YamlAudit

-- powers are those of the core library, whatever else is in scope
attribute [local instance (2000)] instPowNat

/-- A quotient rounded to the nearest whole number, a half to the even one. -/
def roundedQuotient (num den : Nat) : Nat :=
  let whole := num / den
  let twice := 2 * (num % den)
  if den < twice || (twice == den && whole % 2 == 1) then whole + 1 else whole

/-- The greatest `e` with `2 ^ e ≤ num / den`. -/
def binaryMagnitude (num den : Nat) : Int :=
  let e : Int := (num.log2 : Int) - den.log2
  let reached : Bool :=
    if 0 ≤ e then den * 2 ^ e.toNat ≤ num else den ≤ num * 2 ^ (-e).toNat
  if reached then e else e - 1

/-- The floating point number `m · 2 ^ q` for an `m` up to `2 ^ 53`, where `q` is the least exponent or
`m` has fifty-three digits; what is too large is infinite. -/
def encodeFloat (m : Nat) (q : Int) : Float :=
  let (m, q) := if 2 ^ (53 : Nat) ≤ m then (m / 2, q + 1) else (m, q)
  let bits :=
    if m < 2 ^ (52 : Nat) then m
    else if 971 < q then 2047 * 2 ^ (52 : Nat)
    else (q + 1075).toNat * 2 ^ (52 : Nat) + (m - 2 ^ (52 : Nat))
  Float.ofBits (UInt64.ofNat bits)

/-- The floating point number nearest to `num / den`. -/
def nearestFloat (num den : Nat) : Float :=
  if num = 0 then 0.0
  else
    let q := max (binaryMagnitude num den - 52) (-1074)
    let m := if 0 ≤ q then roundedQuotient num (den * 2 ^ q.toNat)
      else roundedQuotient (num * 2 ^ (-q).toNat) den
    encodeFloat m q

/-- The floating point number nearest to an integer, unless that is infinite. -/
def floatOfInt? (n : Int) : Option Float :=
  let x := nearestFloat n.natAbs 1
  match floatValue x with
  | .infinite _ => none
  | _ => some (if n < 0 then -x else x)

end YamlAudit
