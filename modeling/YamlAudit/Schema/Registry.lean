import YamlAudit.Decimal.Numeral
import YamlAudit.Schema.Draft

/-!
# Schema — Registry

Schema documents under their names, and the places in them that references lead to.  A document that
is added is known by its own name only; it is searched for schemas that give themselves names or
anchors as soon as a reference leads to nothing that is known (`Registry.search`).  A `Scope` is where
a schema is applied: its draft, the name that references are resolved against, the names of the
documents on the way there, and whether the search has been made; `Scope.lookup` follows a reference.
-/

namespace YamlAudit

/-- A schema that references can lead to. -/
structure SchemaResource where
  content : Value
  draft : Draft
  deriving Inhabited

/-- Schemas under their names, and by document and anchor; an anchor may be dynamic. -/
structure SchemaTables where
  resources : List (String × SchemaResource)
  anchors : List ((String × String) × (SchemaResource × Bool))
  deriving Inhabited

/-- The schemas that references can lead to; the containers of all are in one store. -/
structure Registry where
  store : Store
  known : SchemaTables
  /-- What is known after the search. -/
  searched : Except SchemaFault SchemaTables
  deriving Inhabited

namespace Registry

/-- No schemas. -/
def empty : Registry := ⟨.empty, ⟨[], []⟩, .ok ⟨[], []⟩⟩

/-- A value of the registry as a datum. -/
def datum (r : Registry) (v : Value) : Datum := ⟨r.store, v⟩

/-- A schema still to be searched, and the name of its document. -/
structure Pending where
  name : String
  resource : SchemaResource

/-- Whether a schema has been searched under a name. -/
def seen (done : List (String × Value)) (p : Pending) : Bool :=
  done.any fun d => d.1 == p.name && d.2.sameKey p.resource.content

/-- Searches schemas for names and anchors; what is found later counts. -/
def search (s : Store) : Nat → List (String × Value) → List Pending → SchemaTables →
    Except SchemaFault SchemaTables
  | 0, _, _, t => .ok t
  | _ + 1, _, [], t => .ok t
  | fuel + 1, done, p :: waiting, t =>
    if seen done p then search s fuel done waiting t
    else do
      let schema : Datum := ⟨s, p.resource.content⟩
      let draft := p.resource.draft
      let own ← draft.nameOf schema
      let name ← match own with
        | some own => (Uri.join p.name own).mapError .name
        | none => pure p.name
      let resources := if own.isSome then (name, p.resource) :: t.resources else t.resources
      let anchors := (← draft.anchorsOf schema).map fun a => ((name, a.1), (p.resource, a.2))
      let within ← if draft.isPlain schema then pure [] else draft.subschemas schema
      let inner ← within.mapM fun v => do
        return (⟨name, ⟨v, ← draft.searchedWithin ⟨s, v⟩⟩⟩ : Pending)
      search s fuel ((p.name, p.resource.content) :: done) (inner.reverse ++ waiting)
        { resources, anchors := anchors.reverse ++ t.anchors }

/-- What is known when a document is added to what was known. -/
def addedTo (t : SchemaTables) (p : Pending) : SchemaTables :=
  { t with resources := (p.name, p.resource) :: t.resources }

/-- Adds a document, whose containers are in the store already, under a name. -/
def add (r : Registry) (name : String) (draft : Draft) (content : Value) : Registry :=
  let p : Pending := ⟨name, ⟨content, draft⟩⟩
  let size := r.store.containers.size + 1
  let known := addedTo r.known p
  { r with known, searched := search r.store (size * size) [] [p] known }

/-- The registry after the search, if nothing keeps it from being made. -/
def afterSearch (r : Registry) : Registry :=
  match r.searched with
  | .ok known => { r with known }
  | .error _ => r

mutual

/-- A value whose containers have moved up by `n` places. -/
def shifted (n : Nat) : Value → Value
  | .ref m => .ref (n + m)
  | .tuple items => .tuple (shiftedAll n items)
  | .nan (.ofNode k) => .nan (.ofSchemaNode k)
  | v => v

/-- The same for several values. -/
def shiftedAll (n : Nat) : List Value → List Value
  | [] => []
  | v :: rest => shifted n v :: shiftedAll n rest

end

/-- A container whose members' containers have moved. -/
def shiftedContainer (n : Nat) : Container → Container
  | .list items => .list (shiftedAll n items)
  | .mapping es => .mapping (es.map fun e => (shifted n e.1, shifted n e.2))
  | .ordered es => .ordered (es.map fun e => (shifted n e.1, shifted n e.2))
  | .set items => .set (shiftedAll n items)

/-- Takes the containers of a datum into the store. -/
def absorb (r : Registry) (d : Datum) : Value × Registry :=
  let n := r.store.containers.size
  (shifted n d.value,
    { r with store := ⟨r.store.containers ++ d.store.containers.map (shiftedContainer n)⟩ })

end Registry

/-- Where a schema is applied. -/
structure Scope where
  draft : Draft
  /-- The name that references are resolved against. -/
  base : String
  /-- The names of the documents on the way, the nearest first. -/
  trail : List String
  /-- Whether the registry has been searched. -/
  searched : Bool
  deriving Inhabited

namespace Scope

/-- A name that a reference leads to, resolved against another. -/
def resolve (base reference : String) : Except SchemaFault String :=
  (Uri.join base reference).mapError .name

/-- Goes into a schema that may give itself a name; then the scope is a new one. -/
def enter? (sc : Scope) (draft : Draft) (schema : Datum) : Except SchemaFault (Option Scope) := do
  match ← draft.nameOf schema with
  | some name => return some { sc with base := ← resolve sc.base name }
  | none => return none

/-- Goes into a schema. -/
def enter (sc : Scope) (draft : Draft) (schema : Datum) : Except SchemaFault Scope :=
  (sc.enter? draft schema).map fun entered => entered.getD sc

/-- Goes to another document. -/
def goto (sc : Scope) (name : String) (searched : Bool) : Scope :=
  let trail :=
    if sc.base ≠ "" && (sc.trail.isEmpty || name ≠ sc.base) then sc.base :: sc.trail else sc.trail
  { sc with base := name, trail, searched }

/-- What a registry knows, before or after the search. -/
def tables (r : Registry) (searched : Bool) : Except SchemaFault SchemaTables :=
  if searched then r.searched else .ok r.known

/-- Looks something up; it may take the search to find it. -/
def findIn? {α : Type} (r : Registry) (searched : Bool) (find : SchemaTables → Option α) :
    Except SchemaFault (Option (α × Bool)) := do
  match find (← tables r searched) with
  | some a => return some (a, searched)
  | none => return (find (← r.searched)).map (·, true)

/-! ### Pointers -/

/-- The position that a step stands for. -/
def positionOf (step : String) : Except SchemaFault Int :=
  (readNumeral 10 step.toList).mapError (.position step)

/-- The item at a position, which may be counted from the end. -/
def nth {α : Type} (items : List α) (n : Int) : Option α :=
  let i := if n < 0 then n + items.length else n
  if i < 0 then none else items[i.toNat]?

/-- One step of a pointer into a value: by position into a list, by name into a mapping. -/
def step (missing : Unit → SchemaFault) (v : Datum) (text : String) :
    Except SchemaFault (Value × Value) := do
  let sequence? := match v.value with
    | .text s => some (s.toList.map fun c => Value.text (String.singleton c))
    | _ => v.sequence?
  match sequence?, v.entries? with
  | some items, _ =>
    let n ← positionOf text
    match nth items n with
    | some item => return (.int n, item)
    | none => throw (missing ())
  | none, some es =>
    let name := (text.replace "~1" "/").replace "~0" "~"
    match lookupKey (.text name) es with
    | some item => return (.text name, item)
    | none => throw (missing ())
  | none, none => throw (.noParts v.kindName)

/-- Follows the steps of a pointer; `behind` are those since the last schema with a name. -/
def walk (r : Registry) (draft : Draft) (missing : Unit → SchemaFault) :
    List String → List Value → Value → Scope → Except SchemaFault (Value × Scope)
  | [], _, v, sc => .ok (v, sc)
  | text :: rest, behind, v, sc => do
    let (segment, v) ← step missing (r.datum v) text
    let steps := behind ++ [segment]
    let here := r.datum v
    let entered ← if draft.leadsToSchema here.isMapping steps then sc.enter? draft here else pure none
    match entered with
    | some sc => walk r draft missing rest [] v sc
    | none => walk r draft missing rest steps v sc

/-! ### Anchors -/

/-- The schema under an anchor of a document and whether the anchor is dynamic, if there is such an
anchor, and whether the registry has been searched then. -/
def anchor? (r : Registry) (searched : Bool) (name anchor : String) :
    Except SchemaFault (Option ((SchemaResource × Bool) × Bool)) := do
  match ← findIn? r searched fun t => t.anchors.lookup (name, anchor) with
  | some found => return some found
  | none =>
    match (← tables r searched).resources.lookup (Uri.trimmed name) with
    | none => throw (.reference (.lostDocument name) false)
    | some resource =>
      match ← resource.draft.nameOf (r.datum resource.content) with
      | none => return none
      | some own => return ((← r.searched).anchors.lookup (own, anchor)).map (·, true)

/-- The outermost schema on the way that has a dynamic anchor. -/
def outermost (r : Registry) (searched : Bool) (anchor : String) (found : SchemaResource) :
    List String → Except SchemaFault SchemaResource
  | [] => .ok found
  | name :: rest => do
    match ← anchor? r searched name anchor with
    | some ((resource, true), _) => outermost r searched anchor resource rest
    | _ => outermost r searched anchor found rest

/-! ### References -/

/-- Follows a reference to a schema and the scope it is to be applied in. -/
def lookup (r : Registry) (sc : Scope) (applied : Bool) (ref : String) :
    Except SchemaFault (Value × Scope) := do
  let (name, fragment) ← match ref.toList with
    | '#' :: rest => pure (sc.base, String.ofList rest)
    | _ => (Uri.withoutFragment (← resolve sc.base ref)).mapError .name
  let unresolved (u : Unresolved) : SchemaFault := .reference u applied
  match ← findIn? r sc.searched fun t => t.resources.lookup name with
  | none => throw (unresolved (.noDocument ref))
  | some (resource, searched) =>
    let document (_ : Unit) : String := (r.datum resource.content).literal
    match fragment.toList with
    | [] => return (resource.content, sc.goto name searched)
    | '/' :: rest =>
      let steps := (percentDecoded (String.ofList rest)).splitOn "/"
      let missing (u : Unit) : SchemaFault := unresolved (.nowhere fragment (document u))
      walk r resource.draft missing steps [] resource.content (sc.goto name searched)
    | _ =>
      match ← anchor? r searched name fragment with
      | some ((found, false), searched) => return (found.content, sc.goto name searched)
      | some ((found, true), searched) =>
        let there := sc.goto name searched
        let last ← outermost r searched fragment found there.trail
        return (last.content, ← there.enter last.draft (r.datum last.content))
      | none =>
        throw (unresolved (if fragment.toList.contains '/' then .badAnchor fragment
          else .noAnchor fragment (document ())))

/-- Follows what is given as a reference. -/
def follow (r : Registry) (sc : Scope) (applied : Bool) (ref : Value) :
    Except SchemaFault (Value × Scope) :=
  match ref with
  | .text ref => lookup r sc applied ref
  | .bytes _ => .error .needsBytesInFront
  | _ => .error (.lacks (r.datum ref).kindName "startswith")

/-- Whether a schema may be replaced by one that is further out. -/
def isRecursive (r : Registry) (v : Value) : Bool :=
  (((r.datum v).member? "$recursiveAnchor").map Datum.isTruthy).getD false

/-- Goes outwards as long as the schemas on the way may be replaced. -/
def outwards (r : Registry) (sc : Scope) (applied : Bool) (found : Value × Scope) :
    List String → Except SchemaFault (Value × Scope)
  | [] => .ok found
  | name :: rest => do
    let next ← lookup r sc applied name
    if isRecursive r next.1 then outwards r sc applied next rest else return found

/-- Follows the reference to the whole document, or to the one furthest out that may take its
place. -/
def lookupRecursive (r : Registry) (sc : Scope) (applied : Bool) :
    Except SchemaFault (Value × Scope) := do
  let found ← lookup r sc applied "#"
  if isRecursive r found.1 then outwards r sc applied found sc.trail else return found

end Scope

end YamlAudit
