import YamlAudit.Schema.Metaschema.Terms

/-!
# Schema.Metaschema — Draft201909

What a schema of draft 2019-09 looks like, vocabulary by vocabulary.
-/

namespace YamlAudit.Metaschema

/-- The schema of schemas of draft 2019-09. -/
def draft201909Schema : Plain :=
  .object [
    ("$schema", .text "https://json-schema.org/draft/2019-09/schema"),
    ("$id", .text "https://json-schema.org/draft/2019-09/schema"),
    ("$vocabulary", .object [
      ("https://json-schema.org/draft/2019-09/vocab/core", .bool true),
      ("https://json-schema.org/draft/2019-09/vocab/applicator", .bool true),
      ("https://json-schema.org/draft/2019-09/vocab/validation", .bool true),
      ("https://json-schema.org/draft/2019-09/vocab/meta-data", .bool true),
      ("https://json-schema.org/draft/2019-09/vocab/format", .bool false),
      ("https://json-schema.org/draft/2019-09/vocab/content", .bool true)]),
    ("$recursiveAnchor", .bool true),
    ("title", .text "Core and Validation specifications meta-schema"),
    ("allOf", .list [
      reference "meta/core", reference "meta/applicator", reference "meta/validation",
      reference "meta/meta-data", reference "meta/format", reference "meta/content"]),
    ("type", .list [.text "object", .text "boolean"]),
    ("properties", .object [
      ("definitions", .object [
        ("$comment",
          .text ("While no longer an official keyword as it is replaced by $defs, this keyword "
            ++ "is retained in the meta-schema to prevent incompatible extensions as it "
            ++ "remains in common use.")),
        ("type", .text "object"), ("additionalProperties", recursion), ("default", .object [])]),
      ("dependencies", .object [
        ("$comment",
          .text ("\"dependencies\" is no longer a keyword, but schema authors should avoid "
            ++ "redefining it to facilitate a smooth transition to \"dependentSchemas\" and "
            ++ "\"dependentRequired\"")),
        ("type", .text "object"),
        ("additionalProperties", .object [
          ("anyOf", .list [recursion, reference "meta/validation#/$defs/stringArray"])])])])]

/-- The core vocabulary of draft 2019-09. -/
def draft201909Core : Plain :=
  .object [
    ("$schema", .text "https://json-schema.org/draft/2019-09/schema"),
    ("$id", .text "https://json-schema.org/draft/2019-09/meta/core"),
    ("$vocabulary", .object [("https://json-schema.org/draft/2019-09/vocab/core", .bool true)]),
    ("$recursiveAnchor", .bool true), ("title", .text "Core vocabulary meta-schema"),
    ("type", .list [.text "object", .text "boolean"]),
    ("properties", .object [
      ("$id", .object [
        ("type", .text "string"), ("format", .text "uri-reference"),
        ("$comment", .text "Non-empty fragments not allowed."), ("pattern", .text "^[^#]*#?$")]),
      ("$schema", .object [("type", .text "string"), ("format", .text "uri")]),
      ("$anchor", .object [
        ("type", .text "string"), ("pattern", .text "^[A-Za-z][-A-Za-z0-9.:_]*$")]),
      ("$ref", .object [("type", .text "string"), ("format", .text "uri-reference")]),
      ("$recursiveRef", .object [("type", .text "string"), ("format", .text "uri-reference")]),
      ("$recursiveAnchor", .object [("type", .text "boolean"), ("default", .bool false)]),
      ("$vocabulary", .object [
        ("type", .text "object"),
        ("propertyNames", .object [("type", .text "string"), ("format", .text "uri")]),
        ("additionalProperties", typed "boolean")]),
      ("$comment", typed "string"),
      ("$defs", .object [
        ("type", .text "object"), ("additionalProperties", recursion), ("default", .object [])])])]

/-- The vocabulary of schemas within schemas of draft 2019-09. -/
def draft201909Applicator : Plain :=
  .object [
    ("$schema", .text "https://json-schema.org/draft/2019-09/schema"),
    ("$id", .text "https://json-schema.org/draft/2019-09/meta/applicator"),
    ("$vocabulary", .object [
      ("https://json-schema.org/draft/2019-09/vocab/applicator", .bool true)]),
    ("$recursiveAnchor", .bool true), ("title", .text "Applicator vocabulary meta-schema"),
    ("type", .list [.text "object", .text "boolean"]),
    ("properties", .object [
      ("additionalItems", recursion), ("unevaluatedItems", recursion),
      ("items", .object [("anyOf", .list [recursion, reference "#/$defs/schemaArray"])]),
      ("contains", recursion), ("additionalProperties", recursion),
      ("unevaluatedProperties", recursion),
      ("properties", .object [
        ("type", .text "object"), ("additionalProperties", recursion), ("default", .object [])]),
      ("patternProperties", .object [
        ("type", .text "object"), ("additionalProperties", recursion),
        ("propertyNames", .object [("format", .text "regex")]), ("default", .object [])]),
      ("dependentSchemas", .object [
        ("type", .text "object"), ("additionalProperties", recursion)]),
      ("propertyNames", recursion), ("if", recursion), ("then", recursion), ("else", recursion),
      ("allOf", reference "#/$defs/schemaArray"), ("anyOf", reference "#/$defs/schemaArray"),
      ("oneOf", reference "#/$defs/schemaArray"), ("not", recursion)]),
    ("$defs", .object [
      ("schemaArray", .object [
        ("type", .text "array"), ("minItems", .int 1), ("items", recursion)])])]

/-- The vocabulary of conditions of draft 2019-09. -/
def draft201909Validation : Plain :=
  .object [
    ("$schema", .text "https://json-schema.org/draft/2019-09/schema"),
    ("$id", .text "https://json-schema.org/draft/2019-09/meta/validation"),
    ("$vocabulary", .object [
      ("https://json-schema.org/draft/2019-09/vocab/validation", .bool true)]),
    ("$recursiveAnchor", .bool true), ("title", .text "Validation vocabulary meta-schema"),
    ("type", .list [.text "object", .text "boolean"]),
    ("properties", .object [
      ("multipleOf", .object [("type", .text "number"), ("exclusiveMinimum", .int 0)]),
      ("maximum", typed "number"), ("exclusiveMaximum", typed "number"),
      ("minimum", typed "number"), ("exclusiveMinimum", typed "number"),
      ("maxLength", reference "#/$defs/nonNegativeInteger"),
      ("minLength", reference "#/$defs/nonNegativeIntegerDefault0"),
      ("pattern", .object [("type", .text "string"), ("format", .text "regex")]),
      ("maxItems", reference "#/$defs/nonNegativeInteger"),
      ("minItems", reference "#/$defs/nonNegativeIntegerDefault0"),
      ("uniqueItems", .object [("type", .text "boolean"), ("default", .bool false)]),
      ("maxContains", reference "#/$defs/nonNegativeInteger"),
      ("minContains", .object [
        ("$ref", .text "#/$defs/nonNegativeInteger"), ("default", .int 1)]),
      ("maxProperties", reference "#/$defs/nonNegativeInteger"),
      ("minProperties", reference "#/$defs/nonNegativeIntegerDefault0"),
      ("required", reference "#/$defs/stringArray"),
      ("dependentRequired", .object [
        ("type", .text "object"), ("additionalProperties", reference "#/$defs/stringArray")]),
      ("const", .bool true), ("enum", .object [("type", .text "array"), ("items", .bool true)]),
      ("type", .object [
        ("anyOf", .list [
          reference "#/$defs/simpleTypes",
          .object [
            ("type", .text "array"), ("items", reference "#/$defs/simpleTypes"),
            ("minItems", .int 1), ("uniqueItems", .bool true)]])])]),
    ("$defs", .object [
      ("nonNegativeInteger", .object [("type", .text "integer"), ("minimum", .int 0)]),
      ("nonNegativeIntegerDefault0", .object [
        ("$ref", .text "#/$defs/nonNegativeInteger"), ("default", .int 0)]),
      ("simpleTypes", .object [
        ("enum", .list [
          .text "array", .text "boolean", .text "integer", .text "null", .text "number",
          .text "object", .text "string"])]),
      ("stringArray", .object [
        ("type", .text "array"), ("items", typed "string"), ("uniqueItems", .bool true),
        ("default", .list [])])])]

/-- The vocabulary of descriptions of draft 2019-09. -/
def draft201909MetaData : Plain :=
  .object [
    ("$schema", .text "https://json-schema.org/draft/2019-09/schema"),
    ("$id", .text "https://json-schema.org/draft/2019-09/meta/meta-data"),
    ("$vocabulary", .object [
      ("https://json-schema.org/draft/2019-09/vocab/meta-data", .bool true)]),
    ("$recursiveAnchor", .bool true), ("title", .text "Meta-data vocabulary meta-schema"),
    ("type", .list [.text "object", .text "boolean"]),
    ("properties", .object [
      ("title", typed "string"), ("description", typed "string"), ("default", .bool true),
      ("deprecated", .object [("type", .text "boolean"), ("default", .bool false)]),
      ("readOnly", .object [("type", .text "boolean"), ("default", .bool false)]),
      ("writeOnly", .object [("type", .text "boolean"), ("default", .bool false)]),
      ("examples", .object [("type", .text "array"), ("items", .bool true)])])]

/-- The vocabulary of formats of draft 2019-09. -/
def draft201909Format : Plain :=
  .object [
    ("$schema", .text "https://json-schema.org/draft/2019-09/schema"),
    ("$id", .text "https://json-schema.org/draft/2019-09/meta/format"),
    ("$vocabulary", .object [
      ("https://json-schema.org/draft/2019-09/vocab/format", .bool true)]),
    ("$recursiveAnchor", .bool true), ("title", .text "Format vocabulary meta-schema"),
    ("type", .list [.text "object", .text "boolean"]),
    ("properties", .object [("format", typed "string")])]

/-- The vocabulary of embedded content of draft 2019-09. -/
def draft201909Content : Plain :=
  .object [
    ("$schema", .text "https://json-schema.org/draft/2019-09/schema"),
    ("$id", .text "https://json-schema.org/draft/2019-09/meta/content"),
    ("$vocabulary", .object [
      ("https://json-schema.org/draft/2019-09/vocab/content", .bool true)]),
    ("$recursiveAnchor", .bool true), ("title", .text "Content vocabulary meta-schema"),
    ("type", .list [.text "object", .text "boolean"]),
    ("properties", .object [
      ("contentMediaType", typed "string"), ("contentEncoding", typed "string"),
      ("contentSchema", recursion)])]

end YamlAudit.Metaschema
