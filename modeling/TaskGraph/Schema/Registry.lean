import TaskGraph.Schema.Reader
import TaskGraph.Uri

/-!
# Registries

A schema can refer to other schemas: by an address, by a name inside a document, or by a pointer into
one. A registry knows the documents by their addresses and the names inside them. Where a reference leads
depends on where it is read: on the address of the document, and, for names that the outermost document
may give a meaning, on the documents that lie on the way.
-/

set_option autoImplicit false

namespace TaskGraph.Schema

/-- A value that is to be read as a schema in a draft. -/
structure Resource where
  draft : Draft
  contents : Json
  /-- The schema, if the value can be read as one. -/
  schema : Option Schema

/-- A value in a draft. -/
def Resource.of (d : Draft) (v : Json) : Resource := ⟨d, v, read d v⟩

/-! ## Standpoints -/

/-- Where references are read: the address of the document, and those on the way, the last one first. -/
structure Standpoint where
  base : Uri
  passed : List Uri
  deriving DecidableEq

namespace Standpoint

/-- The standpoint in a schema that may have an address of its own. -/
def enter? (s : Standpoint) : Option String → Option Standpoint
  | some address => (s.base.resolve? address).map fun u => { s with base := u }
  | none => some s

/-- The standpoint in a document that a reference leads to. -/
def goTo (s : Standpoint) (base : Uri) : Standpoint :=
  if s.passed.isEmpty || base != s.base then ⟨base, s.base :: s.passed⟩ else ⟨base, s.passed⟩

end Standpoint

/-! ## Registries -/

/-- The documents with their addresses, and the schemas with names in them. -/
structure Registry where
  documents : List (Uri × Resource)
  named : List ((Uri × String) × Bool × Resource)

/-- A schema inside of a document. -/
structure Part where
  base : Uri
  draft : Draft
  contents : Json

/-- The address of documents without one. -/
def unnamed : Uri := ⟨some "json-schema", some ⟨none, "", none⟩, "/", none, none⟩

/-- The schemas inside of a schema, itself included; nothing if a draft or an address is malformed. -/
def partsWithin : Nat → Uri → Draft → Json → Option (List Part)
  | 0, _, _, _ => some []
  | depth + 1, base, surroundings, v => do
    let d ← surroundings.ofSchema? v
    let base ← match d.address? v with
      | some address => base.resolve? address
      | none => some base
    let below ← (d.inside v).mapM (partsWithin depth base d)
    some (⟨base, d, v⟩ :: below.flatten)

namespace Registry

/-- Adds a part under its address and its names. -/
def addPart (r : Registry) (p : Part) : Registry :=
  let resource := Resource.of p.draft p.contents
  let documents := match p.draft.address? p.contents with
    | some _ => (p.base, resource) :: r.documents
    | none => r.documents
  let named := (p.draft.anchors p.contents).map fun a => ((p.base, a.name), a.dynamic, resource)
  ⟨documents, named ++ r.named⟩

/-- The directories that documents may refer into without being given what is there. -/
def isKnownPlace (address : String) : Bool := Draft.all.any fun d => address.startsWith d.directory

/-- The documents that a part refers to; nothing if an address is malformed. -/
def documentsNeeded (p : Part) : Option (List Uri) :=
  match p.contents.get? "$ref" with
  | some (.str s) =>
    if s.startsWith "#" || isKnownPlace s || p.base.scheme == some "urn" then some []
    else (p.base.resolve? s).map fun u => [{ u with fragment := none }]
  | _ => some []

/-- Adds a document with all that is in it; nothing if it refers to documents that are not known. The
result has the standpoint in the document. -/
def add? (r : Registry) (d : Draft) (v : Json) : Option (Registry × Standpoint) := do
  let base ← unnamed.resolve? ((d.address? v).getD "")
  let parts ← partsWithin (v.depth + 1) base d v
  let needed ← parts.mapM documentsNeeded
  let r := parts.foldl addPart ⟨(base, Resource.of d v) :: r.documents, r.named⟩
  if needed.flatten.all fun u => (r.documents.lookup u).isSome then some (r, ⟨base, []⟩)
  else none

/-! ## Pointers -/

/-- A part of a pointer as a key. -/
def unescaped : List Char → List Char
  | '~' :: '0' :: cs => '~' :: unescaped cs
  | '~' :: '1' :: cs => '/' :: unescaped cs
  | c :: cs => c :: unescaped cs
  | [] => []

/-- The value inside of a value at a part of a pointer. -/
def member? (v : Json) (part : String) : Option Json :=
  match v with
  | .obj m => Members.get? m (String.ofList (unescaped part.toList))
  | .arr xs => (Decimal.natural? part.toList).bind fun i => xs[i]?
  | _ => none

/-- Goes down a pointer. Addresses on the way count where schemas are, as the first draft says. -/
def descend (first : Draft) (s : Standpoint) (d : Draft) (v : Json) (gone : List String) :
    List String → Option (Standpoint × Resource)
  | [] => some (s, Resource.of d v)
  | part :: parts => do
    let v ← member? v part
    let d := (d.ofSchema? v).getD d
    let gone := gone ++ [part]
    let s ← if first.leadsToSchema gone then s.enter? (d.address? v) else some s
    descend first s d v gone parts

/-! ## References -/

/-- What a name stands for, seen from a standpoint in its document. A dynamic name stands for what the
first document on the way has under it. -/
def named? (r : Registry) (s : Standpoint) (name : String) : Option (Standpoint × Resource) := do
  match ← r.named.lookup (s.base, name) with
  | (false, found) => some (s, found)
  | (true, found) =>
    let outermost := s.passed.foldl (fun found u => match r.named.lookup (u, name) with
      | some (true, further) => further
      | _ => found) found
    let s ← s.enter? (outermost.draft.address? outermost.contents)
    some (s, outermost)

/-- The document and the fragment of a reference. -/
def split? (s : Standpoint) (text : String) : Option (Uri × List Char) :=
  match text.toList with
  | '#' :: cs => some (s.base, cs)
  | cs => match Uri.cutAt '#' cs.reverse with
    | (fragment, some address) =>
      (s.base.resolve? (String.ofList address.reverse)).map fun u => (u, fragment.reverse)
    | (_, none) => (s.base.resolve? text).map fun u => (u, [])

/-- What a reference to an address, a pointer or a name leads to. -/
def at? (r : Registry) (s : Standpoint) (text : String) : Option (Standpoint × Resource) := do
  let (u, fragment) ← split? s text
  let document ← r.documents.lookup u
  let s := s.goTo u
  match fragment with
  | [] => some (s, document)
  | '/' :: pointer =>
    let pointer ← Text.exactText? (Http.percentDecode pointer)
    descend document.draft s document.draft document.contents [] (Uri.segments pointer)
  | name => r.named? s (String.ofList name)

/-- Whether references to the whole go on to the documents on the way. -/
def goesOn (resource : Resource) : Bool :=
  resource.contents.get? "$recursiveAnchor" == some (.bool true)

/-- The last of the documents on the way up to which all go on. -/
def outermost (r : Registry) (s : Standpoint) (found : Standpoint × Resource) :
    List Uri → Option (Standpoint × Resource)
  | [] => some found
  | u :: us => do
    let next ← r.at? s u.render
    if goesOn next.2 then outermost r s next us else some found

/-- What a reference leads to. -/
def target? (r : Registry) (s : Standpoint) : Reference → Option (Standpoint × Resource)
  | .at text => r.at? s text
  | .whole => do
    let found ← r.at? s "#"
    if goesOn found.2 then outermost r s found s.passed else some found

end Registry

end TaskGraph.Schema
