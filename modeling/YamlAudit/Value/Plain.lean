import YamlAudit.Value.Literal

/-!
# Value — Plain

What is done with a value after it has been built.  `Datum.fits` holds its size against a limit; the
size is that of the value written out, where a container inside itself is not written out again.
`Datum.plain` copies its lists and mappings, one copy for each, with texts for keys.
-/

namespace YamlAudit

/-- The values directly inside a value, as far as lists and mappings go. -/
def Store.inside (s : Store) : Value → List Value
  | .ref n => match s.get n with
    | .list items => items
    | .mapping es | .ordered es => es.map Prod.snd
    | .set _ => []
  | _ => []

/-- A value to be counted, and the containers around it. -/
structure Visit where
  value : Value
  around : List Nat

/-- The visits of what lies inside a value; inside itself a container is not entered. -/
def Visit.next (s : Store) (v : Visit) : List Visit :=
  match v.value with
  | .ref n =>
    if v.around.contains n then []
    else (s.inside v.value).map fun w => ⟨w, n :: v.around⟩
  | _ => []

/-- Whether no more than `budget` visits come of those waiting. -/
def fitsWithin (s : Store) : Nat → List Visit → Bool
  | _, [] => true
  | 0, _ :: _ => false
  | budget + 1, v :: waiting => fitsWithin s budget (v.next s ++ waiting)

/-- Whether a datum written out has at most `limit` values. -/
def Datum.fits (d : Datum) (limit : Int) : Bool :=
  fitsWithin d.store limit.toNat [⟨d.value, []⟩]

/-- Where the copy of a list or mapping is found; other values are their own copies. -/
def Store.copyOf (s : Store) (v : Value) : Value :=
  match v with
  | .ref n => match s.get n with
    | .set _ => v
    | _ => if n < s.containers.size then .ref (s.containers.size + n) else v
  | _ => v

/-- The entries of the copy of a mapping: the keys are texts, and of entries whose keys become the
same text the last one counts. -/
def Store.plainEntries (s : Store) (es : List (Value × Value)) : List (Value × Value) :=
  es.foldl (fun acc e => putKey (.text (Datum.text ⟨s, e.1⟩)) (s.copyOf e.2) acc) []

/-- The copy of a container. -/
def Store.plainContainer (s : Store) : Container → Container
  | .list items => .list (items.map s.copyOf)
  | .mapping es | .ordered es => .mapping (s.plainEntries es)
  | .set items => .set items

/-- The store with a copy of every container behind the originals. -/
def Store.withCopies (s : Store) : Store := ⟨s.containers ++ s.containers.map s.plainContainer⟩

/-- A datum with its lists and mappings copied, keys turned into texts. -/
def Datum.plain (d : Datum) : Datum := ⟨d.store.withCopies, d.store.copyOf d.value⟩

end YamlAudit
