import YamlAudit.Value.Basic
import YamlAudit.Decimal.Numeral

/-!
# Value — Compare

Numbers by size, values by what they are made of, and lists by whether an item comes twice.  Two
values are *equal* when booleans count as numbers, *alike* when they do not and when lists, tuples
and bytes with alike items are; keys are always compared as keys.
-/

namespace YamlAudit

/-! ### Numbers -/

/-- Whether a value is a number; booleans count as zero and one. -/
def Value.isNumber : Value → Bool
  | .bool _ | .int _ | .float _ | .nan _ => true
  | _ => false

/-- Where a number lies: below all, at a fraction, or above all. -/
inductive NumberPlace where
  | below
  | at (r : Ratio)
  | above

/-- The place of a number; the float that is not a number has none. -/
def Value.numberPlace? (v : Value) : Option NumberPlace :=
  match v.ratio? with
  | some r => some (.at r)
  | none => match v with
    | .float x => match floatValue x with
      | .infinite negative => some (if negative then .below else .above)
      | _ => none
    | _ => none

/-- The order of two numbers, booleans among them, if they have one. -/
def Value.order? (a b : Value) : Option Ordering := do
  match ← a.numberPlace?, ← b.numberPlace? with
  | .at r, .at t => return if r.lt t then .lt else if r.eq t then .eq else .gt
  | .below, .below | .above, .above => return .eq
  | .below, _ | _, .above => return .lt
  | _, .below | .above, _ => return .gt

/-- Whether a number is less than another. -/
def Value.less (a b : Value) : Bool := a.order? b == some .lt

/-- Whether a number equals another. -/
def Value.sameNumber (a b : Value) : Bool := a.order? b == some .eq

/-- Why it cannot be told whether a number is a multiple of another. -/
inductive QuotientFault where
  /-- The quotient is not a number. -/
  | notANumber
  | infinite
  /-- An integer with no floating point number near. -/
  | tooLarge
  /-- The quotient of an integer, of a floating point number, or of something by one, is by zero. -/
  | integerByZero
  | floatByZero
  | byFloatZero
  deriving DecidableEq, Repr

/-- The wording of a fault. -/
def QuotientFault.message : QuotientFault → String
  | notANumber => "cannot convert float NaN to integer"
  | infinite => "cannot convert Infinity to integer ratio"
  | tooLarge => "int too large to convert to float"
  | integerByZero => "integer modulo by zero"
  | floatByZero => "float modulo"
  | byFloatZero => "float division by zero"

/-- A number as a floating point number. -/
def Value.toFloat : Value → Except QuotientFault Float
  | .bool b => .ok (if b then 1.0 else 0.0)
  | .int n => match floatOfInt? n with
    | some x => .ok x
    | none => .error .tooLarge
  | .float x => .ok x
  | _ => .ok (0.0 / 0.0)

/-- Whether a number is a multiple of a floating point number.  It is divided as such, and exactly
only when the quotient is too large. -/
def Value.isMultipleOfFloat (a step : Value) : Except QuotientFault Bool := do
  let x ← a.toFloat
  let d ← step.toFloat
  if d == 0.0 then throw .byFloatZero
  match floatValue (x / d) with
  | .notANumber => throw .notANumber
  | .finite q => return q.ratio.isMultipleOf (.ofInt 1)
  | .infinite _ =>
    match a.ratio?, step.ratio? with
    | some r, some t => return r.isMultipleOf t
    | _, _ => throw .infinite

/-- Whether a number is a multiple of an integer; a floating point number that is none is none. -/
def Value.isMultipleOfInt (a : Value) (n : Int) : Except QuotientFault Bool := do
  match a with
  | .int m => if n = 0 then throw .integerByZero else return m % n == 0
  | _ =>
    let t ← (Value.int n).toFloat
    if n = 0 then throw .floatByZero
    match a.ratio?, (Value.float t).ratio? with
    | some r, some t => return r.isMultipleOf t
    | _, _ => return false

/-! ### Values -/

/-- The items of a value that is a sequence. -/
def Store.sequence? (s : Store) : Value → Option (List Value)
  | .tuple items => some items
  | .bytes bs => some (bs.map fun b => .int b.toNat)
  | .ref n => match s.get n with
    | .list items => some items
    | _ => none
  | _ => none

/-- The entries of a value that is a mapping. -/
def Store.entries? (s : Store) (v : Value) : Option (List (Value × Value)) := Datum.entries? ⟨s, v⟩

/-- Whether two lists have the same length and agreeing items. -/
def agreeing (agree : Value → Value → Bool) : List Value → List Value → Bool
  | [], [] => true
  | a :: as, b :: bs => agree a b && agreeing agree as bs
  | _, _ => false

/-- Whether two lists of entries have the same keys and agreeing values. -/
def agreeingEntries (agree : Value → Value → Bool) (as bs : List (Value × Value)) : Bool :=
  as.length == bs.length && as.all fun e =>
    match lookupKey e.1 bs with
    | some v => agree e.2 v
    | none => false

/-- Whether two sets have the same members. -/
def sameMembers (as bs : List Value) : Bool :=
  as.length == bs.length && as.all fun a => bs.any fun b => b.sameKey a

/-- Whether two values of two stores are equal.  Within one store a container equals itself. -/
def equalFrom (s t : Store) (oneStore : Bool) : Nat → Value → Value → Bool
  | 0, _, _ => false
  | fuel + 1, .ref m, .ref n =>
    (oneStore && m == n) || match s.get m, t.get n with
      | .list as, .list bs => agreeing (equalFrom s t oneStore fuel) as bs
      | .set as, .set bs => sameMembers as bs
      | .mapping as, .mapping bs | .mapping as, .ordered bs
      | .ordered as, .mapping bs | .ordered as, .ordered bs =>
        agreeingEntries (equalFrom s t oneStore fuel) as bs
      | _, _ => false
  | fuel + 1, .tuple as, .tuple bs => agreeing (equalFrom s t oneStore fuel) as bs
  | _ + 1, .float x, .float y => (Value.float x).sameNumber (.float y)
  | _ + 1, a, b => a.sameKey b

/-- Whether two values of two stores are alike. -/
def alikeFrom (s t : Store) (oneStore : Bool) : Nat → Value → Value → Bool
  | 0, _, _ => false
  | fuel + 1, a, b =>
    match a, b with
    | .bool x, .bool y => x == y
    | .bool _, _ | _, .bool _ => false
    | _, _ =>
      match s.sequence? a, t.sequence? b with
      | some as, some bs =>
        (oneStore && a.sameKey b) || agreeing (alikeFrom s t oneStore fuel) as bs
      | _, _ =>
        match s.entries? a, t.entries? b with
        | some as, some bs =>
          (oneStore && a.sameKey b) || agreeingEntries (alikeFrom s t oneStore fuel) as bs
        | _, _ => equalFrom s t oneStore (fuel + 1) a b

/-- Values nested more deeply than this are not compared. -/
def comparisonDepth : Nat := 2000

/-- Whether two values of one store are alike. -/
def Store.alike (s : Store) (a b : Value) : Bool := alikeFrom s s true comparisonDepth a b

/-- Whether two values of different stores are alike. -/
def alikeAcross (s t : Store) (a b : Value) : Bool := alikeFrom s t false comparisonDepth a b

/-! ### Order and repetition -/

/-- Whether a sequence comes before another: by the first items that are not equal, or else by the
lengths. -/
def sequenceLess? (equal : Value → Value → Bool) (less? : Value → Value → Option Bool) :
    List Value → List Value → Option Bool
  | [], [] => some false
  | [], _ => some true
  | _, [] => some false
  | a :: as, b :: bs => if equal a b then sequenceLess? equal less? as bs else less? a b

/-- Whether a set is part of another and not all of it. -/
def properlyWithin (xs ys : List Value) : Bool :=
  xs.length < ys.length && xs.all fun x => ys.any fun y => y.sameKey x

/-- Whether a value of a store comes before another, if they have an order at all. -/
def lessFrom (s : Store) : Nat → Value → Value → Option Bool
  | 0, _, _ => none
  | fuel + 1, a, b =>
    let sequenceLess := sequenceLess? (equalFrom s s true comparisonDepth) (lessFrom s fuel)
    match a, b with
    | .text x, .text y => some (textBefore x y)
    | .bytes x, .bytes y => some (decide (x.map UInt8.toNat < y.map UInt8.toNat))
    | .date x, .date y => some (decide (x.dayNumber < y.dayNumber))
    | .moment x, .moment y =>
      if x.zone.isSome == y.zone.isSome then some (decide (x.instant < y.instant)) else none
    | .tuple xs, .tuple ys => sequenceLess xs ys
    | .ref m, .ref n => match s.get m, s.get n with
      | .list xs, .list ys => sequenceLess xs ys
      | .set xs, .set ys => some (properlyWithin xs ys)
      | _, _ => none
    | _, _ => if a.isNumber && b.isNumber then some (a.less b) else none

/-- The length of the run that a list begins with, behind an item that belongs to it already; a step
belongs to it if it goes down exactly when `down` says so. -/
def runFrom? {α : Type} (less? : α → α → Option Bool) (down : Bool) : α → List α → Option Nat
  | _, [] => some 0
  | a, b :: rest => do
    if (← less? b a) == down then return (← runFrom? less? down b rest) + 1 else return 0

/-- The length of the run at the beginning of a list, and whether it goes down. -/
def leadingRun? {α : Type} (less? : α → α → Option Bool) : List α → Option (Nat × Bool)
  | a :: b :: rest => do
    let down ← less? b a
    return ((← runFrom? less? down b rest) + 2, down)
  | short => some (short.length, false)

/-- Where an item belongs among sorted ones, between the positions `low` and `high`. -/
def placeFor? {α : Type} (less? : α → α → Option Bool) (sorted : Array α) (item : α) :
    Nat → Nat → Nat → Option Nat
  | 0, low, _ => some low
  | fuel + 1, low, high =>
    if high ≤ low then some low
    else
      let middle := low + (high - low) / 2
      match sorted[middle]? with
      | none => some low
      | some other => do
        if ← less? item other then placeFor? less? sorted item fuel low middle
        else placeFor? less? sorted item fuel (middle + 1) high

/-- Puts items where they belong among sorted ones. -/
def insertAll? {α : Type} (less? : α → α → Option Bool) : Array α → List α → Option (Array α)
  | sorted, [] => some sorted
  | sorted, item :: rest => do
    let place ← placeFor? less? sorted item (sorted.size + 1) 0 sorted.size
    insertAll? less? (sorted.take place ++ #[item] ++ sorted.drop place) rest

/-- A list in order, if all comparisons on the way have an answer: a run at its beginning is kept or
turned round, and the items behind it are put in one by one. -/
def sortedByInsertion? {α : Type} (less? : α → α → Option Bool) (items : List α) :
    Option (List α) := do
  let (n, down) ← leadingRun? less? items
  let run := if down then (items.take n).reverse else items.take n
  return (← insertAll? less? run.toArray (items.drop n)).toList

/-- Two lists in order as one. -/
def merge? {α : Type} (less? : α → α → Option Bool) : Nat → List α → List α → Option (List α)
  | 0, as, bs => some (as ++ bs)
  | _, [], bs => some bs
  | _, as, [] => some as
  | fuel + 1, a :: as, b :: bs => do
    if ← less? b a then return b :: (← merge? less? fuel (a :: as) bs)
    else return a :: (← merge? less? fuel as (b :: bs))

/-- Up to this length lists are sorted by insertion. -/
def insertionReach : Nat := 63

/-- A list in order, if all comparisons on the way have an answer; long lists are sorted in halves. -/
def sorted? {α : Type} (less? : α → α → Option Bool) : Nat → List α → Option (List α)
  | 0, items => sortedByInsertion? less? items
  | fuel + 1, items =>
    if items.length ≤ insertionReach then sortedByInsertion? less? items
    else do
      let half := items.length / 2
      let front ← sorted? less? fuel (items.take half)
      merge? less? items.length front (← sorted? less? fuel (items.drop half))

/-- Whether any two neighbours in a list agree. -/
def neighbours (agree : Value → Value → Bool) : List Value → Bool
  | a :: b :: rest => agree a b || neighbours agree (b :: rest)
  | _ => false

/-- Whether any two items of a list agree. -/
def anyTwo (agree : Value → Value → Bool) : List Value → Bool
  | [] => false
  | a :: rest => rest.any (agree a) || anyTwo agree rest

/-- Whether a list has an item twice.  Where the items can be put in order only neighbours are
compared; booleans have no order. -/
def Store.repeats (s : Store) (items : List Value) : Bool :=
  let less? (a b : Value) : Option Bool :=
    match a, b with
    | .bool _, _ | _, .bool _ => none
    | _, _ => lessFrom s comparisonDepth a b
  match sorted? less? items.length items with
  | some sorted => neighbours s.alike sorted
  | none => anyTwo s.alike items

end YamlAudit
