import YamlAudit.Value.Plain

/-!
# Value — Copy

Lists and mappings are copied one inside the other.  The copy of a container is begun empty, and a
note is made of it before anything is put into it: what lies inside may refer to the container, and
the reference in the copy is to the copy as far as it has got.  A second reference finds the note.

What lies inside a container is copied by calls inside the call for the container, one for what is in a
mapping and two for what is in a list, where the items are drawn one by one.  Calls may be inside one
another to some depth only.

`Datum.plain` has the same copies all at once, for the containers that are not reached as well.
-/

namespace YamlAudit

/-- Why a value has no copy. -/
inductive CopyError where
  /-- A key that cannot become a text. -/
  | key (e : TooManyDigits)
  /-- Containers inside one another, deeper than calls may be. -/
  | tooNested

/-- A copier between two values: the containers, originals and copies, and the notes of which
container has which copy. -/
structure Copier where
  store : Store
  memo : List (Nat × Nat)

namespace Copier

/-- Begins the copy of a container. -/
def enter (c : Copier) (n : Nat) (content : Container) : Copier :=
  ⟨(c.store.add content).2, (n, c.store.containers.size) :: c.memo⟩

/-- Puts content into a copy. -/
def write (c : Copier) (m : Nat) (content : Container) : Copier :=
  { c with store := c.store.put m content }

/-- Copies parts of a container one after the other and adds each to what the copy `m` has got. -/
def fill {α : Type} (copy : Value → Copier → Except CopyError (Value × Copier)) (value : α → Value)
    (add : α → Value → Container → Except CopyError Container) (m : Nat) :
    List α → Copier → Except CopyError Copier
  | [], c => .ok c
  | part :: rest, c => do
    let (w, c) ← copy (value part) c
    let content ← add part w (c.store.get m)
    fill copy value add m rest (c.write m content)

/-- Adds an item to a list. -/
def addItem (_ : Value) (w : Value) : Container → Except CopyError Container
  | .list items => .ok (.list (items ++ [w]))
  | content => .ok content

/-- Adds a value to a mapping, under the text of the key of an entry. -/
def addEntry (s : Store) (e : Value × Value) (w : Value) : Container → Except CopyError Container
  | .mapping es =>
    match Datum.text? ⟨s, e.1⟩ with
    | .ok name => .ok (.mapping (putKey (.text name) w es))
    | .error e => .error (.key e)
  | content => .ok content

/-- The copy of a value, with some number of calls inside one another; keys refer to the containers in
`s`. -/
def copyValue (s : Store) : Nat → Value → Copier → Except CopyError (Value × Copier)
  | 0, _, _ => .error .tooNested
  | calls + 1, v, c =>
    match v with
    | .ref n =>
      match c.memo.lookup n with
      | some m => .ok (.ref m, c)
      | none =>
        let m := c.store.containers.size
        match c.store.get n with
        | .list items =>
          match calls with
          | 0 => .error .tooNested
          | calls + 1 => do
            let c ← fill (copyValue s calls) id addItem m items (c.enter n (.list []))
            return (.ref m, c)
        | .mapping es | .ordered es => do
          let c ← fill (copyValue s calls) Prod.snd (addEntry s) m es (c.enter n (.mapping []))
          return (.ref m, c)
        | .set _ => .ok (v, c)
    | _ => .ok (v, c)

end Copier

/-- A datum whose lists and mappings have been copied with some number of calls inside one another. -/
def Datum.copiedWithin (d : Datum) (calls : Nat) : Except CopyError Datum := do
  let (v, c) ← Copier.copyValue d.store calls d.value ⟨d.store, []⟩
  return ⟨c.store, v⟩

/-- A datum whose lists and mappings have been copied, one inside the other to some depth: two calls are
enough for each. -/
def Datum.copied (d : Datum) (depth : Nat) : Except CopyError Datum := d.copiedWithin (2 * depth)

end YamlAudit
