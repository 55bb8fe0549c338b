import TaskGraph.Document.Workflow
import TaskGraph.Yaml.Value

/-!
# Documents written in YAML

Where a document wants a text, a scalar stands for its own characters, so a version may be written as a
number. A record may hold each of its keys once; keys that it does not know are not looked at.
-/

set_option autoImplicit false

namespace TaskGraph.Workflow

open Yaml (Node)

/-- How the value of a field is read. -/
abbrev FieldReader := Node → Except String Json

/-- A text. -/
def textField : FieldReader := fun n => n.text?.map .str

/-- A text or null. -/
def optionalTextField : FieldReader := fun n => if n.isNull then .ok .null else textField n

/-- Reads the known entries of a record, each at most once. -/
def knownEntries (fields : List (String × FieldReader)) (done : Members) :
    List (Node × Node) → Except String Members
  | [] => .ok done
  | (k, v) :: es => do
    let k ← k.text?
    match fields.lookup k with
    | none => knownEntries fields done es
    | some read =>
      if done.contains k then throw ("duplicate field `" ++ k ++ "`")
      else do
        let v ← read v
        knownEntries fields (done.insert k v) es

/-- Reads a record: by name from a mapping, by position from a sequence. -/
def recordField (fields : List (String × FieldReader)) : FieldReader
  | .mapping es _ => (knownEntries fields [] es).map .obj
  | .sequence xs _ => do
    let readers := fields.map (·.2) ++ List.replicate xs.length Node.toJson
    let vs ← (xs.zip readers).mapM fun (x, read) => read x
    pure (.arr vs)
  | n => n.toJson

/-- The fields of a document's description. -/
def infoReaders : List (String × FieldReader) :=
  [("name", textField), ("version", optionalTextField), ("namespace", optionalTextField),
    ("summary", optionalTextField)]

/-- A duration: a text or an object whose keys come once each. -/
def durationField : FieldReader
  | .mapping es tag => do
    let keys ← es.mapM fun e => e.1.text?
    if keys.eraseDups.length = keys.length then (Node.mapping es tag).toJson
    else throw "data did not match any variant of untagged enum DurationSpec"
  | n => n.toJson

/-- The fields of a document. -/
def documentReaders : List (String × FieldReader) :=
  [("document", recordField infoReaders), ("input", recordField [("schema", Node.toJson)]),
    ("timeout", recordField [("after", durationField)]), ("do", Node.toJson)]

/-- Reads a document from a YAML text and validates it. -/
def ofYaml (text : String) : Except Fault Workflow := do
  let v ← ((Node.parse text).bind (recordField documentReaders)).mapError .unreadableDocument
  ofJson v

end TaskGraph.Workflow
