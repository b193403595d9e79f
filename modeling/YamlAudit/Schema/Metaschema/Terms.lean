import YamlAudit.Record.Plain

/-!
# Schema.Metaschema — Terms

The schemas that occur most often in schemas about schemas.
-/

namespace YamlAudit.Metaschema

/-- A schema that asks for a type. -/
def typed (name : String) : Plain := .object [("type", .text name)]

/-- A schema that refers to another. -/
def reference (target : String) : Plain := .object [("$ref", .text target)]

/-- A schema that refers to the outermost schema it is part of, as of 2019-09. -/
def recursion : Plain := .object [("$recursiveRef", .text "#")]

/-- A schema that refers to the outermost schema it is part of, as of 2020-12. -/
def dynamic : Plain := .object [("$dynamicRef", .text "#meta")]

end YamlAudit.Metaschema
