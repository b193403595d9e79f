import YamlAudit.Schema.Metaschema.Terms

/-!
# Schema.Metaschema — Draft4

What a schema of draft 4 looks like.
-/

namespace YamlAudit.Metaschema

/-- The schema of schemas of draft 4. -/
def draft4 : Plain :=
  .object [
    ("id", .text "http://json-schema.org/draft-04/schema#"),
    ("$schema", .text "http://json-schema.org/draft-04/schema#"),
    ("description", .text "Core schema meta-schema"),
    ("definitions", .object [
      ("schemaArray", .object [
        ("type", .text "array"), ("minItems", .int 1), ("items", reference "#")]),
      ("positiveInteger", .object [("type", .text "integer"), ("minimum", .int 0)]),
      ("positiveIntegerDefault0", .object [
        ("allOf", .list [
          reference "#/definitions/positiveInteger", .object [("default", .int 0)]])]),
      ("simpleTypes", .object [
        ("enum", .list [
          .text "array", .text "boolean", .text "integer", .text "null", .text "number",
          .text "object", .text "string"])]),
      ("stringArray", .object [
        ("type", .text "array"), ("items", typed "string"), ("minItems", .int 1),
        ("uniqueItems", .bool true)])]),
    ("type", .text "object"),
    ("properties", .object [
      ("id", typed "string"), ("$schema", typed "string"), ("title", typed "string"),
      ("description", typed "string"), ("default", .object []),
      ("multipleOf", .object [
        ("type", .text "number"), ("minimum", .int 0), ("exclusiveMinimum", .bool true)]),
      ("maximum", typed "number"), ("exclusiveMaximum", typed "boolean"),
      ("minimum", typed "number"), ("exclusiveMinimum", typed "boolean"),
      ("maxLength", reference "#/definitions/positiveInteger"),
      ("minLength", reference "#/definitions/positiveIntegerDefault0"),
      ("pattern", .object [("type", .text "string"), ("format", .text "regex")]),
      ("additionalItems", .object [
        ("anyOf", .list [typed "boolean", reference "#"]), ("default", .object [])]),
      ("items", .object [
        ("anyOf", .list [reference "#", reference "#/definitions/schemaArray"]),
        ("default", .object [])]),
      ("maxItems", reference "#/definitions/positiveInteger"),
      ("minItems", reference "#/definitions/positiveIntegerDefault0"),
      ("uniqueItems", .object [("type", .text "boolean"), ("default", .bool false)]),
      ("maxProperties", reference "#/definitions/positiveInteger"),
      ("minProperties", reference "#/definitions/positiveIntegerDefault0"),
      ("required", reference "#/definitions/stringArray"),
      ("additionalProperties", .object [
        ("anyOf", .list [typed "boolean", reference "#"]), ("default", .object [])]),
      ("definitions", .object [
        ("type", .text "object"), ("additionalProperties", reference "#"),
        ("default", .object [])]),
      ("properties", .object [
        ("type", .text "object"), ("additionalProperties", reference "#"),
        ("default", .object [])]),
      ("patternProperties", .object [
        ("type", .text "object"), ("additionalProperties", reference "#"),
        ("default", .object [])]),
      ("dependencies", .object [
        ("type", .text "object"),
        ("additionalProperties", .object [
          ("anyOf", .list [reference "#", reference "#/definitions/stringArray"])])]),
      ("enum", .object [
        ("type", .text "array"), ("minItems", .int 1), ("uniqueItems", .bool true)]),
      ("type", .object [
        ("anyOf", .list [
          reference "#/definitions/simpleTypes",
          .object [
            ("type", .text "array"), ("items", reference "#/definitions/simpleTypes"),
            ("minItems", .int 1), ("uniqueItems", .bool true)]])]),
      ("format", typed "string"), ("allOf", reference "#/definitions/schemaArray"),
      ("anyOf", reference "#/definitions/schemaArray"),
      ("oneOf", reference "#/definitions/schemaArray"), ("not", reference "#")]),
    ("dependencies", .object [
      ("exclusiveMaximum", .list [.text "maximum"]),
      ("exclusiveMinimum", .list [.text "minimum"])]),
    ("default", .object [])]

end YamlAudit.Metaschema
