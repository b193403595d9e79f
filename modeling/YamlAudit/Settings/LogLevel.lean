import YamlAudit.Text.LetterCase
import YamlAudit.Text.Quoted

/-!
# Settings — LogLevel

The levels of a log and their names.  Two levels have a second name.  A name is looked up in upper
case.
-/

namespace YamlAudit

/-- How grave a log record has to be. -/
inductive LogLevel where
  | notSet
  | debug
  | info
  | warning
  | error
  | critical
  deriving DecidableEq, Repr, Inhabited

namespace LogLevel

/-- The rank of a level. -/
def rank : LogLevel → Nat
  | notSet => 0
  | debug => 10
  | info => 20
  | warning => 30
  | error => 40
  | critical => 50

/-- The first name of a level. -/
def name : LogLevel → String
  | notSet => "NOTSET"
  | debug => "DEBUG"
  | info => "INFO"
  | warning => "WARNING"
  | error => "ERROR"
  | critical => "CRITICAL"

/-- The level with a name in upper case. -/
def ofUpperName? : String → Option LogLevel
  | "NOTSET" => some notSet
  | "DEBUG" => some debug
  | "INFO" => some info
  | "WARNING" | "WARN" => some warning
  | "ERROR" => some error
  | "CRITICAL" | "FATAL" => some critical
  | _ => none

end LogLevel

/-- A name that no level has, in upper case. -/
structure UnknownLevel where
  name : String
  deriving DecidableEq, Repr

/-- What is said of such a name. -/
def UnknownLevel.message (u : UnknownLevel) : String :=
  "Unknown level: " ++ quoted u.name

/-- The level with a name in any case. -/
def LogLevel.ofName (name : String) : Except UnknownLevel LogLevel :=
  let upper := upperCaseText name
  match ofUpperName? upper with
  | some level => .ok level
  | none => .error ⟨upper⟩

end YamlAudit
