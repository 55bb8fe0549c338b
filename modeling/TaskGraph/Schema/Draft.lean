import TaskGraph.Json.Basic

/-!
# Drafts of the notation

Schemas are written in one of five drafts of their notation, which differ in their keywords. A schema
names its draft by the address of the draft's own schema. A draft also says by which key a schema gets an
address of its own, which keys name places inside it, and where other schemas stand inside of it.
-/

set_option autoImplicit false

namespace TaskGraph

/-- A draft of the notation of schemas. -/
inductive Draft where
  | four
  | six
  | seven
  | nineteen
  | twenty
  deriving Repr, DecidableEq

namespace Draft

/-- The drafts from the newest on. -/
def all : List Draft := [twenty, nineteen, seven, six, four]

/-- The place of a draft among all. -/
def rank : Draft → Nat
  | four => 0
  | six => 1
  | seven => 2
  | nineteen => 3
  | twenty => 4

/-- Whether a draft is as new as another one. -/
def since (d first : Draft) : Bool := first.rank ≤ d.rank

/-- Whether keywords beside a reference count. -/
def readsBesideReference (d : Draft) : Bool := d.since nineteen

/-- Whether formats of texts are checked. -/
def checksFormats (d : Draft) : Bool := !d.since nineteen

/-- A directory at the site of the notation. -/
def directoryAt (scheme path : String) : String := scheme ++ "://json-schema.org/" ++ path ++ "/"

/-- The directory of the schemas that describe a draft. -/
def directory : Draft → String
  | four => directoryAt "http" "draft-04"
  | six => directoryAt "http" "draft-06"
  | seven => directoryAt "http" "draft-07"
  | nineteen => directoryAt "https" "draft/2019-09"
  | twenty => directoryAt "https" "draft/2020-12"

/-- The address of the schema that describes a draft. -/
def address (d : Draft) : String := d.directory ++ "schema"

/-- An address without the marks of an empty fragment. -/
def withoutMarks (s : String) : String :=
  String.ofList (s.toList.reverse.dropWhile (· == '#')).reverse

/-- The draft with an address. -/
def ofAddress? (s : String) : Option Draft := all.find? fun d => d.address == withoutMarks s

/-- The draft of a schema: the one that it names, or the one of its surroundings. -/
def ofSchema? (surroundings : Draft) (v : Json) : Option Draft :=
  match v.get? "$schema" with
  | some (.str s) => ofAddress? s
  | _ => some surroundings

/-! ## Names -/

/-- The key for the address of a schema. -/
def addressKey : Draft → String
  | four => "id"
  | _ => "$id"

/-- The address that a schema gives itself. Up to the seventh draft, none stands beside a reference,
and a fragment is a name instead. -/
def address? (d : Draft) (v : Json) : Option String :=
  match v.get? d.addressKey with
  | some (.str s) =>
    if !d.readsBesideReference && ((v.get? "$ref").isSome || s.startsWith "#") then none
    else some (withoutMarks s)
  | _ => none

/-- A name for a schema inside of its document. -/
structure Anchor where
  name : String
  /-- Whether references by the name lead to the outermost document that has it. -/
  dynamic : Bool
  deriving Repr, DecidableEq

/-- The name that a key gives to a schema. -/
def anchorAt (v : Json) (key : String) (dynamic : Bool) : List Anchor :=
  match v.get? key with
  | some (.str s) => [⟨s, dynamic⟩]
  | _ => []

/-- The names of a schema. -/
def anchors (d : Draft) (v : Json) : List Anchor :=
  match d with
  | twenty => anchorAt v "$anchor" false ++ anchorAt v "$dynamicAnchor" true
  | nineteen => anchorAt v "$anchor" false
  | _ => match v.get? d.addressKey with
    | some (.str s) => if s.startsWith "#" then [⟨String.ofList (s.toList.drop 1), false⟩] else []
    | _ => []

/-! ## Schemas inside of schemas -/

/-- How the schemas of a keyword stand in its argument. -/
inductive Holding where
  /-- The argument is a schema. -/
  | one
  /-- The argument is an array of schemas. -/
  | several
  /-- The argument is an object of schemas. -/
  | named
  /-- The argument is a schema or an array of schemas. -/
  | oneOrSeveral
  deriving Repr, DecidableEq

/-- How a keyword holds schemas, if it does. -/
def holding? (d : Draft) (key : String) : Option Holding :=
  match key with
  | "allOf" | "anyOf" | "oneOf" => some .several
  | "properties" | "patternProperties" | "definitions" => some .named
  | "not" | "additionalProperties" => some .one
  | "items" => some (if d.since twenty then .one else .oneOrSeveral)
  | "additionalItems" => if d.since twenty then none else some .one
  | "dependencies" => if d.since nineteen then none else some .named
  | "contains" | "propertyNames" => if d.since six then some .one else none
  | "if" | "then" | "else" => if d.since seven then some .one else none
  | "contentSchema" | "unevaluatedItems" | "unevaluatedProperties" =>
    if d.since nineteen then some .one else none
  | "$defs" | "dependentSchemas" => if d.since nineteen then some .named else none
  | "prefixItems" => if d.since twenty then some .several else none
  | _ => none

/-- The schemas in an argument. -/
def Holding.schemas : Holding → Json → List Json
  | one, v => [v]
  | several, .arr xs => xs
  | named, .obj m => m.map Prod.snd
  | oneOrSeveral, .arr xs => xs
  | oneOrSeveral, v => [v]
  | _, _ => []

/-- The schemas that stand right inside of a schema. -/
def inside (d : Draft) : Json → List Json
  | .obj m => m.flatMap fun (key, v) => match d.holding? key with
    | some h => h.schemas v
    | none => []
  | _ => []

/-- Whether keys and indices lead from a schema to a schema, all the way through schemas. -/
def leadsToSchema (d : Draft) : List String → Bool
  | [] => true
  | key :: rest => match d.holding? key, rest with
    | some .one, rest => leadsToSchema d rest
    | some .oneOrSeveral, part :: rest =>
      if part.toNat?.isSome then leadsToSchema d rest else leadsToSchema d (part :: rest)
    | some .oneOrSeveral, [] => true
    | some _, _ :: rest => leadsToSchema d rest
    | _, _ => false

end Draft

end TaskGraph
