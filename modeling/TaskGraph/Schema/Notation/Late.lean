import TaskGraph.Schema.Draft
import TaskGraph.Schema.Notation.Words

/-!
# The notation from 2019 on

These drafts are described by one schema for each vocabulary and one that joins them. A vocabulary
refers to the whole notation by the outermost description that it is read from.
-/

set_option autoImplicit false

namespace TaskGraph.Notation

/-- A draft with vocabularies: what it writes for a schema of any kind, and how its descriptions are
marked. -/
structure Vocabularies where
  draft : Draft
  schema : Json
  mark : String × Json

/-- The draft of 2019. -/
def nineteen : Vocabularies where
  draft := .nineteen
  schema := .object [("$recursiveRef", .str "#")]
  mark := ("$recursiveAnchor", .bool true)

/-- The draft of 2020. -/
def twenty : Vocabularies where
  draft := .twenty
  schema := .object [("$dynamicRef", .str "#meta")]
  mark := ("$dynamicAnchor", .str "meta")

namespace Vocabularies

/-- A description at a place of the draft. -/
def describe (n : Vocabularies) (place : String) (properties more : Entries) : Json :=
  .object ([
    ("$id", .str (n.draft.directory ++ place)),
    ("$schema", .str n.draft.address),
    n.mark,
    ("type", schemaTypes),
    ("properties", .object properties)] ++ more)

/-- The whole notation. -/
def whole (n : Vocabularies) (parts : List String) (properties : Entries) : Json :=
  n.describe "schema" ([
    ("definitions", tableOf n.schema),
    ("dependencies",
      tableOf (oneKind [n.schema, see "meta/validation#/$defs/stringArray"]))] ++ properties)
    [("allOf", .arr (parts.map fun p => see ("meta/" ++ p)))]

/-- How schemas are named and referred to, with keywords of the draft. -/
def core (n : Vocabularies) (properties more : Entries) : Json :=
  n.describe "meta/core" ([("$comment", text), ("$defs", tableOf n.schema)] ++ properties) more

/-- How schemas are put together, with keywords of the draft. -/
def applicator (n : Vocabularies) (properties : Entries) : Json :=
  n.describe "meta/applicator" (
    each ["additionalProperties", "contains", "else", "if", "not", "propertyNames", "then"] n.schema ++
    each ["allOf", "anyOf", "oneOf"] (late "schemaArray") ++
    each ["dependentSchemas", "properties"] (tableOf n.schema) ++
    [("patternProperties", tableByPattern n.schema)] ++ properties)
    [("$defs", .object [("schemaArray", someOf n.schema)])]

/-- What values are asked for. -/
def validation (n : Vocabularies) : Json :=
  n.describe "meta/validation" (
    each ["exclusiveMaximum", "exclusiveMinimum", "maximum", "minimum"] number ++
    each ["maxContains", "maxItems", "maxLength", "maxProperties", "minContains"]
      (late "nonNegativeInteger") ++
    each ["minItems", "minLength", "minProperties"] (late "nonNegativeIntegerDefault0") ++ [
      ("const", .bool true),
      ("dependentRequired", tableOf (late "stringArray")),
      ("enum", arrayOf (.bool true) []),
      ("multipleOf", positive),
      ("pattern", textLike "regex"),
      ("required", late "stringArray"),
      ("type", typeOrTypes (late "simpleTypes")),
      ("uniqueItems", flag)])
    [("$defs", .object [
      ("nonNegativeInteger", count),
      ("nonNegativeIntegerDefault0", late "nonNegativeInteger"),
      ("simpleTypes", typeNames),
      ("stringArray", differentTexts [])])]

/-- What is said about values without asking for it. -/
def remarks (n : Vocabularies) : Json :=
  n.describe "meta/meta-data" (
    each ["title", "description"] text ++
    each ["deprecated", "readOnly", "writeOnly"] flag ++
    [("default", .bool true), ("examples", arrayOf (.bool true) [])]) []

/-- How texts are written. -/
def format (n : Vocabularies) (place : String) : Json :=
  n.describe place [("format", text)] []

/-- What texts hold. -/
def content (n : Vocabularies) : Json :=
  n.describe "meta/content"
    (each ["contentEncoding", "contentMediaType"] text ++ [("contentSchema", n.schema)]) []

end Vocabularies

/-- The descriptions of the draft of 2019. -/
def descriptions2019 : List Json := [
  nineteen.whole ["core", "applicator", "validation", "meta-data", "format", "content"] [],
  nineteen.core (
    each ["$recursiveRef", "$ref"] (textLike "uri-reference") ++ [
      ("$anchor", textWith "^[A-Za-z][-A-Za-z0-9.:_]*$"),
      ("$id", .object [("type", .str "string"), ("format", .str "uri-reference"),
        ("pattern", .str "^[^#]*#?$")]),
      ("$recursiveAnchor", flag),
      ("$schema", textLike "uri"),
      ("$vocabulary", .object [("type", .str "object"), ("propertyNames", textLike "uri"),
        ("additionalProperties", flag)])]) [],
  nineteen.applicator (
    each ["additionalItems", "unevaluatedItems", "unevaluatedProperties"] nineteen.schema ++
    [("items", oneKind [nineteen.schema, late "schemaArray"])]),
  nineteen.validation,
  nineteen.remarks,
  nineteen.format "meta/format",
  nineteen.content]

/-- The descriptions of the draft of 2020. -/
def descriptions2020 : List Json := [
  twenty.whole ["core", "applicator", "unevaluated", "validation", "meta-data", "format-annotation",
      "content"] [
    ("$recursiveAnchor", see "meta/core#/$defs/anchorString"),
    ("$recursiveRef", see "meta/core#/$defs/uriReferenceString")],
  twenty.core (
    each ["$anchor", "$dynamicAnchor"] (late "anchorString") ++
    each ["$dynamicRef", "$ref"] (late "uriReferenceString") ++ [
      ("$id", .object [("$ref", .str "#/$defs/uriReferenceString"),
        ("pattern", .str "^[^#]*#?$")]),
      ("$schema", late "uriString"),
      ("$vocabulary", .object [("type", .str "object"), ("propertyNames", late "uriString"),
        ("additionalProperties", flag)])])
    [("$defs", .object [
      ("anchorString", textWith "^[A-Za-z_][-A-Za-z0-9._]*$"),
      ("uriReferenceString", textLike "uri-reference"),
      ("uriString", textLike "uri")])],
  twenty.applicator [("items", twenty.schema), ("prefixItems", late "schemaArray")],
  twenty.describe "meta/unevaluated"
    (each ["unevaluatedItems", "unevaluatedProperties"] twenty.schema) [],
  twenty.validation,
  twenty.remarks,
  twenty.format "meta/format-annotation",
  twenty.format "meta/format-assertion",
  twenty.content]

end TaskGraph.Notation
