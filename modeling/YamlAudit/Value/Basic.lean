import YamlAudit.Value.Calendar
import YamlAudit.Decimal.Dyadic

/-!
# Value — Basic

What documents and structures stand for.  Lists, mappings and sets may be shared and may contain
themselves, so they are kept in a `Store` and values refer to them by number; everything else is a
value of its own.  A `Datum` is a value together with the store it refers to.
-/

namespace YamlAudit

/-- The floating point results that are no numbers.  Each equals itself and nothing else. -/
inductive NanMark where
  /-- The one that texts call by its name. -/
  | named
  /-- The one in exchanged data. -/
  | exchanged
  /-- The one that a node of a document or of a structure comes to. -/
  | ofNode (n : Nat)
  | ofSchemaNode (n : Nat)
  deriving DecidableEq, Repr, Inhabited

/-- A value; `ref n` is the container with number `n`, and a `float` is a number or infinite. -/
inductive Value where
  | null
  | bool (b : Bool)
  | int (n : Int)
  | float (x : Float)
  | nan (mark : NanMark)
  | text (s : String)
  | bytes (bs : List UInt8)
  | date (d : Date)
  | moment (m : Moment)
  | tuple (items : List Value)
  | ref (n : Nat)
  deriving Inhabited

/-- A floating point number as a value; a result that is no number has the mark `mark`. -/
def Value.ofFloat (mark : NanMark) (x : Float) : Value :=
  match floatValue x with
  | .notANumber => .nan mark
  | _ => .float x

/-- A container. -/
inductive Container where
  | list (items : List Value)
  | mapping (entries : List (Value × Value))
  /-- A mapping that says of itself that its order matters. -/
  | ordered (entries : List (Value × Value))
  | set (items : List Value)
  deriving Inhabited

/-- The containers that values refer to. -/
structure Store where
  containers : Array Container
  deriving Inhabited

namespace Store

/-- No containers. -/
def empty : Store := ⟨#[]⟩

/-- The container with a number; one that does not exist is an empty list. -/
def get (s : Store) (n : Nat) : Container := s.containers.getD n (.list [])

/-- Adds a container. -/
def add (s : Store) (c : Container) : Value × Store :=
  (.ref s.containers.size, ⟨s.containers.push c⟩)

/-- Replaces the content of a container. -/
def put (s : Store) (n : Nat) (c : Container) : Store := ⟨s.containers.setIfInBounds n c⟩

end Store

/-- A value and the store it refers to. -/
structure Datum where
  store : Store
  value : Value
  deriving Inhabited

namespace Datum

/-- Another value of the same store. -/
def sibling (d : Datum) (v : Value) : Datum := { d with value := v }

/-- The container a datum refers to. -/
def container? (d : Datum) : Option Container :=
  match d.value with
  | .ref n => some (d.store.get n)
  | _ => none

/-- The items of a list. -/
def items? (d : Datum) : Option (List Value) :=
  match d.container? with
  | some (.list items) => some items
  | _ => none

/-- The entries of a mapping. -/
def entries? (d : Datum) : Option (List (Value × Value)) :=
  match d.container? with
  | some (.mapping entries) | some (.ordered entries) => some entries
  | _ => none

end Datum

/-! ### Keys -/

/-- The exact number that a boolean, an integer or a finite floating point number equals. -/
def Value.ratio? : Value → Option Ratio
  | .bool b => some (.ofInt (if b then 1 else 0))
  | .int n => some (.ofInt n)
  | .float x => match floatValue x with
    | .finite d => some d.ratio
    | _ => none
  | _ => none

/-- Whether two floating point numbers without an exact value are the same. -/
def sameSpecial : FloatValue → FloatValue → Bool
  | .infinite a, .infinite b => a == b
  | _, _ => false

mutual

/-- Whether two values are the same key: numbers by what they equal, booleans counting as zero and
one, all else by content. -/
def Value.sameKey : Value → Value → Bool
  | .null, .null => true
  | .text a, .text b => a == b
  | .bytes a, .bytes b => a == b
  | .date a, .date b => a == b
  | .moment a, .moment b => a.same b
  | .tuple as, .tuple bs => sameKeys as bs
  | .ref a, .ref b => a == b
  | .bool a, b => sameNumber (.bool a) b
  | .int a, b => sameNumber (.int a) b
  | .float a, b => sameNumber (.float a) b
  | .nan a, .nan b => a == b
  | _, _ => false
where
  /-- Comparison of numbers. -/
  sameNumber (a b : Value) : Bool :=
    match a.ratio?, b.ratio? with
    | some x, some y => x.eq y
    | _, _ => match a, b with
      | .float x, .float y => sameSpecial (floatValue x) (floatValue y)
      | _, _ => false

/-- Item by item. -/
def sameKeys : List Value → List Value → Bool
  | [], [] => true
  | a :: as, b :: bs => a.sameKey b && sameKeys as bs
  | _, _ => false

end

/-- The value under a key. -/
def lookupKey (key : Value) : List (Value × Value) → Option Value
  | [] => none
  | (k, v) :: rest => if k.sameKey key then some v else lookupKey key rest

/-- Puts a value under a key: in the place of an earlier one, whose key stays, or at the end. -/
def putKey (key value : Value) : List (Value × Value) → List (Value × Value)
  | [] => [(key, value)]
  | (k, v) :: rest => if k.sameKey key then (k, value) :: rest else (k, v) :: putKey key value rest

/-- The value under a name. -/
def Datum.member? (d : Datum) (name : String) : Option Datum :=
  (d.entries?.bind (lookupKey (.text name))).map d.sibling

/-- What kind of container a value has in it that no key may have. -/
inductive Unhashable where
  | list
  | mapping
  | ordered
  | set
  deriving DecidableEq, Repr

/-- Its name. -/
def Unhashable.name : Unhashable → String
  | list => "list"
  | mapping => "dict"
  | ordered => "ordereddict"
  | set => "set"

/-- The kind of a container. -/
def Container.kind : Container → Unhashable
  | .list _ => .list
  | .mapping _ => .mapping
  | .ordered _ => .ordered
  | .set _ => .set

mutual

/-- The first container inside a value that keeps it from being a key. -/
def Value.unhashable? (s : Store) : Value → Option Unhashable
  | .ref n => some (s.get n).kind
  | .tuple items => unhashableAmong? s items
  | _ => none

/-- The first such container among several values. -/
def unhashableAmong? (s : Store) : List Value → Option Unhashable
  | [] => none
  | v :: rest => (v.unhashable? s).orElse fun _ => unhashableAmong? s rest

end

end YamlAudit
