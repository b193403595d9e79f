import YamlAudit.Decimal.Dyadic

/-!
# Decimal — Shortest

The shortest decimal that reads back as a given double, and the text made of it.  The reals that
round to `m · 2 ^ q` form an interval around it, whose ends belong to it when `m` is even.  For one,
two, … seventeen digits the two neighbours of the number on the decimal grid with that many digits
are held against the interval; the first grid with a hit gives the digits, of two hits the nearer
one counts, and of two equally near the even one (`shortestDigits`).

How the digits are laid out is the business of a `NumeralStyle`.
-/

namespace YamlAudit

-- powers are those of the core library, whatever else is in scope
attribute [local instance (2000)] instPowNat

/-- A positive decimal: `digits · 10 ^ exponent`, no trailing zero among the digits. -/
structure DecimalForm where
  digits : Nat
  exponent : Int
  deriving DecidableEq, Repr

/-- Removes trailing zeros, at most `fuel` of them. -/
def DecimalForm.trim : Nat → DecimalForm → DecimalForm
  | 0, d => d
  | fuel + 1, d =>
    if d.digits % 10 = 0 ∧ d.digits ≠ 0 then trim fuel ⟨d.digits / 10, d.exponent + 1⟩ else d

/-- `n · 10 ^ e` as numerator over denominator. -/
def tenfold (n : Nat) (e : Int) : Nat × Nat :=
  if 0 ≤ e then (n * 10 ^ e.toNat, 1) else (n, 10 ^ (-e).toNat)

/-- `n · 2 ^ e` as numerator over denominator. -/
def twofold (n : Nat) (e : Int) : Nat × Nat :=
  if 0 ≤ e then (n * 2 ^ e.toNat, 1) else (n, 2 ^ (-e).toNat)

/-- The least `k` from `k₀` on with `num / den < 10 ^ k`, looking `fuel` steps ahead. -/
def magnitudeFrom (num den : Nat) : Nat → Int → Int
  | 0, k => k
  | fuel + 1, k =>
    let (p, q) := tenfold 1 k
    if num * q < p * den then k else magnitudeFrom num den fuel (k + 1)

/-- The interval of the reals that round to a double. -/
structure RoundingInterval where
  low : Nat × Nat
  high : Nat × Nat
  closed : Bool

/-- Whether `num / den` lies in the interval. -/
def RoundingInterval.has (i : RoundingInterval) (x : Nat × Nat) : Bool :=
  let l := i.low.1 * x.2
  let m := x.1 * i.low.2
  let n := x.1 * i.high.2
  let h := i.high.1 * x.2
  if i.closed then l ≤ m && n ≤ h else l < m && n < h

/-- The reals that round to `m · 2 ^ q`: halfway to either neighbour, where the lower neighbour of a
power of two is only half as far. -/
def roundingInterval (m : Nat) (q : Int) : RoundingInterval where
  low := twofold (4 * m - (if m = 2 ^ (52 : Nat) ∧ q ≠ -1074 then 1 else 2)) (q - 2)
  high := twofold (4 * m + 2) (q - 2)
  closed := m % 2 = 0

/-- Twice the distance of a grid point below to a number, against the grid width: which of the two
neighbours is nearer, the even one in a tie. -/
def nearerNeighbour (num den : Nat) (low : Nat) (e : Int) : Nat :=
  let (p, q) := tenfold (2 * low + 1) e
  let mid := p * den
  let x := 2 * num * q
  if x < mid then low else if mid < x then low + 1 else if low % 2 = 0 then low else low + 1

/-- Tries the grids with `count`, `count + 1`, … digits, `fuel` of them. -/
def shortestFrom (interval : RoundingInterval) (num den : Nat) (k : Int) :
    Nat → Nat → DecimalForm
  | 0, count =>
    let e := k - count
    let (p, q) := tenfold 1 e
    ⟨num * q / (den * p), e⟩
  | fuel + 1, count =>
    let e := k - count
    let (p, q) := tenfold 1 e
    let low := num * q / (den * p)
    let lowIn := interval.has (tenfold low e)
    let highIn := interval.has (tenfold (low + 1) e)
    if lowIn && highIn then ⟨nearerNeighbour num den low e, e⟩
    else if lowIn then ⟨low, e⟩
    else if highIn then ⟨low + 1, e⟩
    else shortestFrom interval num den k fuel (count + 1)

/-- The shortest decimal that rounds to `m · 2 ^ q`, for a positive `m`. -/
def shortestDigits (m : Nat) (q : Int) : DecimalForm :=
  let (num, den) := twofold m q
  let k := magnitudeFrom num den 700 (-330)
  (shortestFrom (roundingInterval m q) num den k 17 1).trim 20

/-- How a decimal is written out. -/
structure NumeralStyle where
  /-- The least exponent of the leading digit that is written without an exponent. -/
  positionalFrom : Int
  /-- The first exponent of the leading digit that is written with an exponent again. -/
  positionalBelow : Int
  /-- The least number of digits of an exponent. -/
  exponentWidth : Nat
  infinity : String
  notANumber : String

/-- Digits of a number, padded with zeros on the left. -/
def paddedDigits (width n : Nat) : String :=
  let ds := Nat.repr n
  String.ofList (List.replicate (width - ds.length) '0') ++ ds

/-- A positive decimal in a style. -/
def NumeralStyle.decimal (style : NumeralStyle) (d : DecimalForm) : String :=
  let ds := (Nat.repr d.digits).toList
  let lead := d.exponent + (ds.length : Int) - 1
  if style.positionalFrom ≤ lead ∧ lead < style.positionalBelow then
    if 0 ≤ d.exponent then
      String.ofList (ds ++ List.replicate d.exponent.toNat '0') ++ ".0"
    else if 0 ≤ lead then
      let whole := (lead + 1).toNat
      String.ofList (ds.take whole) ++ "." ++ String.ofList (ds.drop whole)
    else "0." ++ String.ofList (List.replicate (-lead - 1).toNat '0' ++ ds)
  else
    let fraction := if ds.length ≤ 1 then "" else "." ++ String.ofList (ds.drop 1)
    let sign := if lead < 0 then "-" else "+"
    String.ofList (ds.take 1) ++ fraction ++ "e" ++ sign
      ++ paddedDigits style.exponentWidth lead.natAbs

/-- A floating point value in a style. -/
def NumeralStyle.write (style : NumeralStyle) : FloatValue → String
  | .notANumber => style.notANumber
  | .infinite negative => (if negative then "-" else "") ++ style.infinity
  | .finite d =>
    let body := if d.significand = 0 then "0.0"
      else style.decimal (shortestDigits d.significand d.exponent)
    (if d.negative then "-" else "") ++ body

end YamlAudit
