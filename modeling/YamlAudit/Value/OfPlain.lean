import YamlAudit.Value.Basic
import YamlAudit.Record.Plain

/-!
# Value — OfPlain

Exchanged data as values: every list and every object becomes a container of its own.
-/

namespace YamlAudit

mutual

/-- Adds a piece of data to a store. -/
def Store.addPlain (s : Store) : Plain → Value × Store
  | .null => (.null, s)
  | .bool b => (.bool b, s)
  | .int n => (.int n, s)
  | .float x => (.ofFloat .exchanged x, s)
  | .text t => (.text t, s)
  | .list items =>
    let (values, s) := addPlainItems s items
    s.add (.list values)
  | .object members =>
    let (entries, s) := addPlainMembers s members
    s.add (.mapping (entries.foldl (fun acc e => putKey e.1 e.2 acc) []))

/-- Adds the items of a list. -/
def addPlainItems (s : Store) : List Plain → List Value × Store
  | [] => ([], s)
  | item :: rest =>
    let (v, s) := s.addPlain item
    let (vs, s) := addPlainItems s rest
    (v :: vs, s)

/-- Adds the members of an object. -/
def addPlainMembers (s : Store) : List (String × Plain) → List (Value × Value) × Store
  | [] => ([], s)
  | (name, member) :: rest =>
    let (v, s) := s.addPlain member
    let (es, s) := addPlainMembers s rest
    ((.text name, v) :: es, s)

end

/-- A piece of data as a datum. -/
def Datum.ofPlain (p : Plain) : Datum :=
  let (v, s) := Store.empty.addPlain p
  ⟨s, v⟩

end YamlAudit
