/-!
# Record — Plain

Data in the form in which it is exchanged: null, booleans, integers of any size, floating point
numbers, texts, lists, and objects whose members keep their order.
-/

namespace YamlAudit

/-- A piece of exchanged data. -/
inductive Plain where
  | null
  | bool (b : Bool)
  | int (n : Int)
  | float (x : Float)
  | text (s : String)
  | list (items : List Plain)
  | object (members : List (String × Plain))
  deriving Inhabited

namespace Plain

/-- The first member of that name in an object. -/
def member? (name : String) : Plain → Option Plain
  | object members => members.lookup name
  | _ => none

end Plain

end YamlAudit
