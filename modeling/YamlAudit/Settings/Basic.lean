import YamlAudit.Record.Reader

/-!
# Settings — Basic

The limits a document has to keep and the level of the log.  Each setting is taken from the first
source that has it: values given outright, the environment, an environment file, its default.
Names are matched without regard to case; within one source the last entry of a name counts.
-/

namespace YamlAudit

/-- The limits of the loader and the level of the log. -/
structure Settings where
  logLevel : String := "INFO"
  /-- The greatest number of characters of a document. -/
  maxDocumentSize : Int := 5000000
  /-- The greatest number of values in a document. -/
  maxNodeCount : Int := 50000
  /-- The greatest depth of a node, the root lying at depth zero. -/
  maxDepth : Int := 64
  deriving DecidableEq, Repr, Inhabited

/-- Where settings come from. -/
structure SettingSources where
  values : List (String × Plain) := []
  environment : List (String × String) := []
  /-- Names of an environment file; one without a value is as good as absent. -/
  envFile : List (String × Option String) := []

/-- The last entry whose name is the given one, which is in lower case. -/
def lastEntry? {α : Type} (name : String) (entries : List (String × α)) : Option α :=
  (entries.reverse.find? fun e => e.1.toLower == name).map Prod.snd

namespace SettingSources

/-- What the first source that has a setting says. -/
def find? (s : SettingSources) (name : String) : Option Plain :=
  match lastEntry? name s.values with
  | some v => some v
  | none => match lastEntry? name s.environment with
    | some v => some (.text v)
    | none => match lastEntry? name s.envFile with
      | some (some v) => some (.text v)
      | _ => none

/-- Reads one setting. -/
def setting {α : Type} (s : SettingSources) (name : String) (default : α)
    (read : Plain → Checked α) : Checked α :=
  Checked.under (.key name) <| match s.find? name with
    | some v => read v
    | none => .ok default

/-- Reads all settings; the issues come in the order of the settings. -/
def read (s : SettingSources) : Checked Settings :=
  let base : Settings := {}
  let all := Checked.both (s.setting "log_level" base.logLevel readText) <|
    Checked.both (s.setting "max_document_size" base.maxDocumentSize readInteger) <|
    Checked.both (s.setting "max_node_count" base.maxNodeCount readInteger)
      (s.setting "max_depth" base.maxDepth readInteger)
  all.map fun (level, size, count, depth) => ⟨level, size, count, depth⟩

end SettingSources

end YamlAudit
