import TaskGraph.Schema.Notation.Early
import TaskGraph.Schema.Notation.Late
import TaskGraph.Schema.Violation

/-!
# Validation

A schema is valid if its draft describes it, if it can be read with the documents that it refers to, and
if every reference that a check of a value could come by leads to a schema. A value is validated by
listing its violations of a valid schema.
-/

set_option autoImplicit false

namespace TaskGraph.Schema

/-! ## The schemas of schemas

A schema is itself a value, and each draft of the notation describes its schemas by a schema. The
registry starts with these descriptions, so that any schema can refer to them.
-/

/-- The descriptions of all drafts. -/
def descriptions : List (Draft × Json) :=
  [(.four, Notation.four), (.six, Notation.six), (.seven, Notation.seven)] ++
    Notation.descriptions2019.map (fun v => (.nineteen, v)) ++
    Notation.descriptions2020.map (fun v => (.twenty, v))

/-- The registry of the descriptions. -/
def Registry.standard : Registry :=
  descriptions.foldl (fun r (d, v) =>
    ((partsWithin (v.depth + 1) unnamed d v).getD []).foldl Registry.addPart r) ⟨[], []⟩

/-- The schema that describes a draft, and the standpoint in it. -/
def description? (d : Draft) : Option (Standpoint × Schema) := do
  let base ← unnamed.resolve? d.address
  let document ← Registry.standard.documents.lookup base
  let s ← document.schema
  some (⟨base, []⟩, s)

/-- The number of values inside the descriptions. -/
def sizeOfDescriptions : Nat := descriptions.foldl (fun n (_, v) => n + v.size) 0

/-- How deep checks are nested at most. A check that came to the same place of a schema and the same
place of a value again would never end. -/
def depthBound (size : Nat) (v : Json) : Nat := (size + sizeOfDescriptions + 1) * (v.depth + 2)

/-- Whether a value is a schema of a draft. -/
def isDescribed (d : Draft) (v : Json) : Bool :=
  match description? d with
  | some (s, schema) =>
    (violationsWithin Registry.standard (depthBound 0 v) s schema "" v).isEmpty
  | none => false

/-! ## References of a schema -/

/-- A reference and where it is read. -/
abbrev Seen := Standpoint × Reference

mutual

/-- The references of a schema, which is read at a standpoint; nothing if an address is malformed. -/
def references? (s : Standpoint) : Schema → Option (List Seen)
  | .always | .never => some []
  | .object address keywords => do keywordsReferences? (← s.enter? address) keywords

/-- The references of keywords. -/
def keywordsReferences? (s : Standpoint) : List Keyword → Option (List Seen)
  | [] => some []
  | k :: ks => do
    let rs ← keywordReferences? s k
    let rest ← keywordsReferences? s ks
    some (rs ++ rest)

/-- The references of a keyword. -/
def keywordReferences? (s : Standpoint) : Keyword → Option (List Seen)
  | .items _ part | .contains part _ _ _ | .unevaluatedItems part | .unevaluatedProperties part
  | .propertyNames part | .not _ part => references? s part
  | .leadingItems parts | .allOf parts | .anyOf parts | .oneOf parts => schemasReferences? s parts
  | .properties named | .dependent named _ => namedReferences? s named
  | .matching schemas => matchingReferences? s schemas
  | .onlyProperties named schemas => do
    let rs ← namedReferences? s named
    let rest ← matchingReferences? s schemas
    some (rs ++ rest)
  | .closed named schemas others => do
    let rs ← namedReferences? s named
    let rest ← matchingReferences? s schemas
    let last ← references? s others
    some (rs ++ rest ++ last)
  | .conditional condition positive negative => do
    let rs ← references? s condition
    let rest ← branchReferences? s positive
    let last ← branchReferences? s negative
    some (rs ++ rest ++ last)
  | .reference r => some [(s, r)]
  | _ => some []

/-- The references of several schemas. -/
def schemasReferences? (s : Standpoint) : List Schema → Option (List Seen)
  | [] => some []
  | part :: parts => do
    let rs ← references? s part
    let rest ← schemasReferences? s parts
    some (rs ++ rest)

/-- The references of schemas by name. -/
def namedReferences? (s : Standpoint) : List (String × Schema) → Option (List Seen)
  | [] => some []
  | (_, part) :: parts => do
    let rs ← references? s part
    let rest ← namedReferences? s parts
    some (rs ++ rest)

/-- The references of schemas by pattern. -/
def matchingReferences? (s : Standpoint) : List (Pattern × Schema) → Option (List Seen)
  | [] => some []
  | (_, part) :: parts => do
    let rs ← references? s part
    let rest ← matchingReferences? s parts
    some (rs ++ rest)

/-- The references of a schema that may be missing. -/
def branchReferences? (s : Standpoint) : Option Schema → Option (List Seen)
  | none => some []
  | some part => references? s part

end

/-- Whether references lead to schemas whose references do so, too, apart from those that are known to. -/
def allLead (r : Registry) : Nat → List (Uri × Reference) → List Seen → Bool
  | _, _, [] => true
  | 0, _, _ => true
  | fuel + 1, known, (s, reference) :: rest =>
    if known.contains (s.base, reference) then allLead r fuel known rest
    else match r.target? s reference with
      | some (s', ⟨_, _, some part⟩) => match keywordsReferences? s' part.keywords with
        | some more => allLead r fuel ((s.base, reference) :: known) (more ++ rest)
        | none => false
      | _ => false

/-! ## Valid schemas -/

/-- A schema with what it refers to. -/
structure Grounded where
  registry : Registry
  standpoint : Standpoint
  schema : Schema
  /-- The number of values inside the schema. -/
  size : Nat

/-- Reads a valid schema. -/
def ground? (v : Json) : Option Grounded := do
  let d ← Draft.ofSchema? .twenty v
  let (r, s) ← Registry.standard.add? d v
  if !isDescribed d v then none
  else
    let schema ← read d v
    let s ← s.enter? schema.address?
    let references ← keywordsReferences? s schema.keywords
    let size := v.size
    let bound := size + sizeOfDescriptions
    if allLead r (bound * bound) [] references then some ⟨r, s, schema, size⟩ else none

/-- The violations of a schema by a value. -/
def violations (schema value : Json) : Except Fault (List Violation) :=
  match ground? schema with
  | some g => .ok
      (violationsWithin g.registry (depthBound g.size value) g.standpoint g.schema "" value)
  | none => .error (.invalidSchema "the schema is malformed")

/-- Refuses a value that violates a schema. -/
def validate (subject : String) (schema value : Json) : Except Fault Unit := do
  match ← violations schema value with
  | [] => pure ()
  | vs => throw (.inputValidation subject vs)

end TaskGraph.Schema
