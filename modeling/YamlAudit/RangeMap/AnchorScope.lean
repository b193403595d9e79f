import YamlAudit.Document.Node

/-!
# RangeMap — AnchorScope

What is known of anchors at a point of a walk through a document.  `anchors` binds each name to the
node that carried it last, in the order in which the names first came up; `expanding` holds the
names whose maps are being built at the moment, and an alias to one of those stays unresolved.
-/

namespace YamlAudit

/-- The anchors met so far, and those being expanded. -/
structure AnchorScope where
  anchors : List (String × Node)
  expanding : List String
  deriving Inhabited

namespace AnchorScope

/-- Nothing has been met. -/
def empty : AnchorScope := ⟨[], []⟩

/-- Binds a name, in the place of an earlier binding or at the end. -/
def bind (name : String) (node : Node) : List (String × Node) → List (String × Node)
  | [] => [(name, node)]
  | (n, old) :: rest => if n = name then (n, node) :: rest else (n, old) :: bind name node rest

/-- The node a name is bound to. -/
def find? (name : String) : List (String × Node) → Option Node
  | [] => none
  | (n, node) :: rest => if n = name then some node else find? name rest

/-- What `bind` writes, `find?` finds; other names are not touched. -/
theorem find?_bind (a b : String) (node : Node) (anchors : List (String × Node)) :
    find? b (bind a node anchors) = if a = b then some node else find? b anchors := by
  induction anchors with
  | nil => by_cases h : a = b <;> simp [bind, find?, h]
  | cons e rest ih =>
    obtain ⟨n, old⟩ := e
    by_cases hn : n = a
    · subst hn
      by_cases h : n = b <;> simp [bind, find?, h]
    · by_cases hb : n = b
      · subst hb
        have : ¬ a = n := fun h => hn h.symm
        simp [bind, find?, hn, this]
      · simp [bind, find?, hn, hb, ih]

/-- A node with an anchor takes its name over; one without changes nothing. -/
def register (s : AnchorScope) (node : Node) : AnchorScope :=
  match node.anchor with
  | none => s
  | some name => { s with anchors := bind name node s.anchors }

/-- Marks a name as being expanded. -/
def entering (s : AnchorScope) (name : String) : AnchorScope :=
  if name ∈ s.expanding then s else { s with expanding := s.expanding ++ [name] }

/-- The node an alias stands for: none for a name being expanded and for one not yet met. -/
def referent (s : AnchorScope) (name : String) : Option Node :=
  if name ∈ s.expanding then none else find? name s.anchors

mutual

/-- Registers a node and all below it in document order. -/
def registerAll : Node → AnchorScope → AnchorScope
  | .sequence sp a items, s => registerItems items (s.register (.sequence sp a items))
  | .mapping sp a pairs, s => registerPairs pairs (s.register (.mapping sp a pairs))
  | node, s => s.register node

/-- Registers the items of a sequence in order. -/
def registerItems : List Node → AnchorScope → AnchorScope
  | [], s => s
  | item :: rest, s => registerItems rest (registerAll item s)

/-- Registers the pairs of a mapping in order, each key before its value. -/
def registerPairs : List (Node × Node) → AnchorScope → AnchorScope
  | [], s => s
  | (key, value) :: rest, s => registerPairs rest (registerAll value (registerAll key s))

end

/-- What a walk does to its scope. -/
inductive Step where
  | register (node : Node)
  | enter (name : String)

/-- The scope after a step. -/
def apply (s : AnchorScope) : Step → AnchorScope
  | .register node => s.register node
  | .enter name => s.entering name

/-- Only a node without an anchor leaves the scope as it is. -/
def Step.isIdle : Step → Bool
  | .register node => node.anchor.isNone
  | .enter _ => false

/-- The scopes after each of the steps in turn. -/
def trace : AnchorScope → List Step → List AnchorScope
  | _, [] => []
  | s, step :: rest => s.apply step :: trace (s.apply step) rest

end AnchorScope

end YamlAudit
