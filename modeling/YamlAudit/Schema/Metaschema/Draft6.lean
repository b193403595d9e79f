import YamlAudit.Schema.Metaschema.Terms

/-!
# Schema.Metaschema — Draft6

What a schema of draft 6 looks like.
-/

namespace YamlAudit.Metaschema

/-- The schema of schemas of draft 6. -/
def draft6 : Plain :=
  .object [
    ("$schema", .text "http://json-schema.org/draft-06/schema#"),
    ("$id", .text "http://json-schema.org/draft-06/schema#"),
    ("title", .text "Core schema meta-schema"),
    ("definitions", .object [
      ("schemaArray", .object [
        ("type", .text "array"), ("minItems", .int 1), ("items", reference "#")]),
      ("nonNegativeInteger", .object [("type", .text "integer"), ("minimum", .int 0)]),
      ("nonNegativeIntegerDefault0", .object [
        ("allOf", .list [
          reference "#/definitions/nonNegativeInteger", .object [("default", .int 0)]])]),
      ("simpleTypes", .object [
        ("enum", .list [
          .text "array", .text "boolean", .text "integer", .text "null", .text "number",
          .text "object", .text "string"])]),
      ("stringArray", .object [
        ("type", .text "array"), ("items", typed "string"), ("uniqueItems", .bool true),
        ("default", .list [])])]),
    ("type", .list [.text "object", .text "boolean"]),
    ("properties", .object [
      ("$id", .object [("type", .text "string"), ("format", .text "uri-reference")]),
      ("$schema", .object [("type", .text "string"), ("format", .text "uri")]),
      ("$ref", .object [("type", .text "string"), ("format", .text "uri-reference")]),
      ("title", typed "string"), ("description", typed "string"), ("default", .object []),
      ("examples", .object [("type", .text "array"), ("items", .object [])]),
      ("multipleOf", .object [("type", .text "number"), ("exclusiveMinimum", .int 0)]),
      ("maximum", typed "number"), ("exclusiveMaximum", typed "number"),
      ("minimum", typed "number"), ("exclusiveMinimum", typed "number"),
      ("maxLength", reference "#/definitions/nonNegativeInteger"),
      ("minLength", reference "#/definitions/nonNegativeIntegerDefault0"),
      ("pattern", .object [("type", .text "string"), ("format", .text "regex")]),
      ("additionalItems", reference "#"),
      ("items", .object [
        ("anyOf", .list [reference "#", reference "#/definitions/schemaArray"]),
        ("default", .object [])]),
      ("maxItems", reference "#/definitions/nonNegativeInteger"),
      ("minItems", reference "#/definitions/nonNegativeIntegerDefault0"),
      ("uniqueItems", .object [("type", .text "boolean"), ("default", .bool false)]),
      ("contains", reference "#"),
      ("maxProperties", reference "#/definitions/nonNegativeInteger"),
      ("minProperties", reference "#/definitions/nonNegativeIntegerDefault0"),
      ("required", reference "#/definitions/stringArray"),
      ("additionalProperties", reference "#"),
      ("definitions", .object [
        ("type", .text "object"), ("additionalProperties", reference "#"),
        ("default", .object [])]),
      ("properties", .object [
        ("type", .text "object"), ("additionalProperties", reference "#"),
        ("default", .object [])]),
      ("patternProperties", .object [
        ("type", .text "object"), ("additionalProperties", reference "#"),
        ("default", .object [])]),
      ("dependencies", .object [
        ("type", .text "object"),
        ("additionalProperties", .object [
          ("anyOf", .list [reference "#", reference "#/definitions/stringArray"])])]),
      ("propertyNames", reference "#"), ("const", .object []), ("enum", typed "array"),
      ("type", .object [
        ("anyOf", .list [
          reference "#/definitions/simpleTypes",
          .object [
            ("type", .text "array"), ("items", reference "#/definitions/simpleTypes"),
            ("minItems", .int 1), ("uniqueItems", .bool true)]])]),
      ("format", typed "string"), ("allOf", reference "#/definitions/schemaArray"),
      ("anyOf", reference "#/definitions/schemaArray"),
      ("oneOf", reference "#/definitions/schemaArray"), ("not", reference "#")]),
    ("default", .object [])]

end YamlAudit.Metaschema
