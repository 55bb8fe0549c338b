import TaskGraph.Schema.Draft
import TaskGraph.Schema.Notation.Words

/-!
# The notation up to the seventh draft

Each of these drafts is described by one schema.
-/

set_option autoImplicit false

namespace TaskGraph.Notation

/-- The keywords that the early drafts describe alike, by what a schema is and what counts are. -/
def earlyKeywords (schema count countOrZero : Json) : Entries :=
  each ["maximum", "minimum"] number ++
  each ["maxLength", "maxItems", "maxProperties"] count ++
  each ["minLength", "minItems", "minProperties"] countOrZero ++
  each ["allOf", "anyOf", "oneOf"] (early "schemaArray") ++
  each ["definitions", "properties"] (tableOf schema) ++
  each ["title", "description", "format"] text ++ [
    ("dependencies", tableOf (oneKind [schema, early "stringArray"])),
    ("items", oneKind [schema, early "schemaArray"]),
    ("not", schema),
    ("pattern", textLike "regex"),
    ("required", early "stringArray"),
    ("type", typeOrTypes (early "simpleTypes")),
    ("uniqueItems", flag)]

/-- The description of the fourth draft. -/
def four : Json := .object [
  (Draft.four.addressKey, .str Draft.four.address),
  ("$schema", .str Draft.four.address),
  ("definitions", .object [
    ("schemaArray", someOf (see "#")),
    ("positiveInteger", count),
    ("positiveIntegerDefault0",
      .object [("allOf", .arr [early "positiveInteger", anything])]),
    ("simpleTypes", typeNames),
    ("stringArray", differentTexts [("minItems", .nat 1)])]),
  ("type", .str "object"),
  ("properties", .object (
    earlyKeywords (see "#") (early "positiveInteger") (early "positiveIntegerDefault0") ++
    each ["id", "$schema"] text ++
    each ["exclusiveMaximum", "exclusiveMinimum"] flag ++
    each ["additionalItems", "additionalProperties"] (oneKind [flag, see "#"]) ++ [
      ("default", anything),
      ("enum", .object
        [("type", .str "array"), ("minItems", .nat 1), ("uniqueItems", .bool true)]),
      ("multipleOf", .object
        [("type", .str "number"), ("minimum", .nat 0), ("exclusiveMinimum", .bool true)]),
      ("patternProperties", tableOf (see "#"))])),
  ("dependencies", .object [
    ("exclusiveMaximum", .strings ["maximum"]),
    ("exclusiveMinimum", .strings ["minimum"])])]

/-- The keywords that came with the sixth draft. -/
def laterKeywords : Entries :=
  earlyKeywords (see "#") (early "nonNegativeInteger") (early "nonNegativeIntegerDefault0") ++
  each ["exclusiveMaximum", "exclusiveMinimum"] number ++
  each ["additionalItems", "additionalProperties", "contains", "propertyNames"] (see "#") ++
  each ["$id", "$ref"] (textLike "uri-reference") ++
  [("$schema", textLike "uri"), ("multipleOf", positive)]

/-- The definitions of the sixth draft and the seventh. -/
def laterDefinitions : Json := .object [
  ("schemaArray", someOf (see "#")),
  ("nonNegativeInteger", count),
  ("nonNegativeIntegerDefault0",
    .object [("allOf", .arr [early "nonNegativeInteger", anything])]),
  ("simpleTypes", typeNames),
  ("stringArray", differentTexts [])]

/-- The description of the sixth draft. -/
def six : Json := .object [
  (Draft.six.addressKey, .str Draft.six.address),
  ("$schema", .str Draft.six.address),
  ("definitions", laterDefinitions),
  ("type", schemaTypes),
  ("properties", .object (laterKeywords ++
    each ["const", "default"] anything ++ [
      ("enum", .object
        [("type", .str "array"), ("minItems", .nat 1), ("uniqueItems", .bool true)]),
      ("examples", arrayOf anything []),
      ("patternProperties", tableOf (see "#"))]))]

/-- The description of the seventh draft. -/
def seven : Json := .object [
  (Draft.seven.addressKey, .str Draft.seven.address),
  ("$schema", .str Draft.seven.address),
  ("definitions", laterDefinitions),
  ("type", schemaTypes),
  ("properties", .object (laterKeywords ++
    each ["const", "default"] (.bool true) ++
    each ["if", "then", "else"] (see "#") ++
    each ["$comment", "contentEncoding", "contentMediaType"] text ++
    each ["enum", "examples"] (arrayOf (.bool true) []) ++
    each ["readOnly", "writeOnly"] flag ++
    [("patternProperties", tableByPattern (see "#"))]))]

end TaskGraph.Notation
