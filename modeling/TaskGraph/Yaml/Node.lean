import TaskGraph.Yaml.Token

/-!
# The tree of a YAML text

A node is a scalar, a list of nodes or a list of pairs of nodes. An alias stands for a copy of the node
with its anchor. A text holds one document.
-/

set_option autoImplicit false

namespace TaskGraph.Yaml

/-- A node of a YAML tree. -/
inductive Node where
  | scalar (text : String) (plain : Bool) (tag : Option String)
  | sequence (items : List Node) (tag : Option String)
  | mapping (entries : List (Node × Node)) (tag : Option String)
  deriving Repr, Inhabited

namespace Node

/-- The nodes with anchors, latest first. -/
abbrev Anchors := List (String × Node)

/-- A reader of a phrase of tokens; it knows the anchors so far and may add to them. -/
abbrev Phrase (α : Type) := Anchors → List Token → Except String (α × Anchors × List Token)

/-- An empty scalar. -/
def empty : Node := .scalar "" true none

/-- Tags a node. -/
def withTag (tag : Option String) : Node → Node
  | scalar s p _ => .scalar s p tag
  | sequence xs _ => .sequence xs tag
  | mapping es _ => .mapping es tag

/-- Reads a node unless a token comes that cannot start one here; then the node is empty. -/
def orEmpty (ends : List Token) (node : Phrase Node) : Phrase Node := fun anchors ts =>
  match ts with
  | t :: _ => if ends.contains t then .ok (empty, anchors, ts) else node anchors ts
  | [] => .ok (empty, anchors, ts)

/-- The items of a block sequence, up to its end. -/
def blockItems (node : Phrase Node) : Nat → Phrase (List Node)
  | 0, _, _ => .error "nesting too deep"
  | fuel + 1, anchors, .blockEntry :: ts => do
    let (x, anchors, ts) ← orEmpty [.blockEntry, .blockEnd] node anchors ts
    let (xs, anchors, ts) ← blockItems node fuel anchors ts
    pure (x :: xs, anchors, ts)
  | _, anchors, .blockEnd :: ts => .ok ([], anchors, ts)
  | _, _, _ => .error "did not find expected '-' indicator"

/-- The items of a sequence that has the indentation of the mapping around it. -/
def plainItems (node : Phrase Node) : Nat → Phrase (List Node)
  | 0, _, _ => .error "nesting too deep"
  | fuel + 1, anchors, .blockEntry :: ts => do
    let (x, anchors, ts) ← orEmpty [.blockEntry, .key, .value, .blockEnd] node anchors ts
    let (xs, anchors, ts) ← plainItems node fuel anchors ts
    pure (x :: xs, anchors, ts)
  | _, anchors, ts => .ok ([], anchors, ts)

/-- The entries of a block mapping, up to its end. -/
def blockPairs (node : Phrase Node) : Nat → Phrase (List (Node × Node))
  | 0, _, _ => .error "nesting too deep"
  | fuel + 1, anchors, .key :: ts => do
    let (k, anchors, ts) ← orEmpty [.key, .value, .blockEnd] node anchors ts
    let (v, anchors, ts) ← valueOf anchors ts
    let (es, anchors, ts) ← blockPairs node fuel anchors ts
    pure ((k, v) :: es, anchors, ts)
  | _, anchors, .blockEnd :: ts => .ok ([], anchors, ts)
  | _, _, _ => .error "did not find expected key"
where
  /-- The value of an entry. -/
  valueOf : Phrase Node := fun anchors ts =>
    match ts with
    | .value :: ts => orEmpty [.key, .value, .blockEnd] node anchors ts
    | ts => .ok (empty, anchors, ts)

/-- The value of an entry in brackets. -/
def flowValue (close : Token) (node : Phrase Node) : Phrase Node := fun anchors ts =>
  match ts with
  | .value :: ts => orEmpty [.flowEntry, close] node anchors ts
  | ts => .ok (empty, anchors, ts)

/-- An item of a sequence in brackets; a key makes it a mapping of one entry. -/
def flowItem (node : Phrase Node) : Phrase Node := fun anchors ts =>
  match ts with
  | .key :: ts => do
    let (k, anchors, ts) ← orEmpty [.value, .flowEntry, .flowSequenceEnd] node anchors ts
    let (v, anchors, ts) ← flowValue .flowSequenceEnd node anchors ts
    pure (.mapping [(k, v)] none, anchors, ts)
  | ts => node anchors ts

/-- An entry of a mapping in brackets. -/
def flowPair (node : Phrase Node) : Phrase (Node × Node) := fun anchors ts =>
  match ts with
  | .key :: ts => do
    let (k, anchors, ts) ← orEmpty [.value, .flowEntry, .flowMappingEnd] node anchors ts
    let (v, anchors, ts) ← flowValue .flowMappingEnd node anchors ts
    pure ((k, v), anchors, ts)
  | ts => do
    let (k, anchors, ts) ← node anchors ts
    pure ((k, empty), anchors, ts)

/-- Items in brackets, separated by commas; a comma may stand after the last one. -/
def flowItems {α : Type} (close : Token) (item : Phrase α) : Nat → Phrase (List α)
  | 0, _, _ => .error "nesting too deep"
  | fuel + 1, anchors, ts =>
    if ts.head? = some close then .ok ([], anchors, ts.tail)
    else do
      let (x, anchors, ts) ← item anchors ts
      match ts with
      | .flowEntry :: ts => do
        let (xs, anchors, ts) ← flowItems close item fuel anchors ts
        pure (x :: xs, anchors, ts)
      | t :: ts =>
        if t = close then pure ([x], anchors, ts) else throw "did not find expected ',' or bracket"
      | [] => throw "did not find expected ',' or bracket"

/-- The anchor and the tag in front of a node, in either order. -/
def properties : List Token → Option String × Option String × List Token
  | .anchor a :: .tag t :: ts => (some a, some t, ts)
  | .tag t :: .anchor a :: ts => (some a, some t, ts)
  | .anchor a :: ts => (some a, none, ts)
  | .tag t :: ts => (none, some t, ts)
  | ts => (none, none, ts)

/-- Where a node stands: directly in a block, as a key or value of a block mapping, or in brackets. -/
inductive Place where
  | block
  | entry
  | flow
  deriving DecidableEq

/-- The content of a node, given a reader of the nodes inside it. -/
def content (inner : Place → Phrase Node) (place : Place) (described : Bool) : Phrase Node :=
  fun anchors ts =>
    let fuel := ts.length + 1
    let failed : Except String (Node × Anchors × List Token) :=
      if described then .ok (empty, anchors, ts) else .error "did not find expected node content"
    match ts with
    | .scalar s plain :: ts => .ok (.scalar s plain none, anchors, ts)
    | .flowSequenceStart :: ts => do
      let (xs, anchors, ts) ← flowItems .flowSequenceEnd (flowItem (inner .flow)) fuel anchors ts
      pure (.sequence xs none, anchors, ts)
    | .flowMappingStart :: ts => do
      let (es, anchors, ts) ← flowItems .flowMappingEnd (flowPair (inner .flow)) fuel anchors ts
      pure (.mapping es none, anchors, ts)
    | .sequenceStart :: ts' =>
      if place = .flow then failed
      else do
        let (xs, anchors, ts) ← blockItems (inner .block) fuel anchors ts'
        pure (.sequence xs none, anchors, ts)
    | .mappingStart :: ts' =>
      if place = .flow then failed
      else do
        let (es, anchors, ts) ← blockPairs (inner .entry) fuel anchors ts'
        pure (.mapping es none, anchors, ts)
    | .blockEntry :: _ =>
      if place = .entry then do
        let (xs, anchors, ts) ← plainItems (inner .block) fuel anchors ts
        pure (.sequence xs none, anchors, ts)
      else failed
    | _ => failed

/-- A node whose parts are nested less deep than a bound. -/
def within : Nat → Place → Phrase Node
  | 0, _ => fun _ _ => .error "recursion limit exceeded"
  | depth + 1, place => fun anchors ts =>
    match ts with
    | .alias name :: ts => match anchors.lookup name with
      | some n => .ok (n, anchors, ts)
      | none => .error "unknown anchor"
    | ts => do
      let (anchor, tag, ts) := properties ts
      let (n, anchors, ts) ←
        content (within depth) place (anchor.isSome || tag.isSome) anchors ts
      let n := n.withTag tag
      let anchors := match anchor with
        | some a => (a, n) :: anchors
        | none => anchors
      pure (n, anchors, ts)

/-- The only document of a text. -/
def ofTokens (ts : List Token) : Except String Node := do
  let ts := ts.dropWhile (· = .documentEnd)
  let (explicit, ts) := match ts.dropWhile (· = .directive) with
    | .documentStart :: rest => (true, rest)
    | rest => (false, if rest.length = ts.length then rest else .directive :: rest)
  if ts = [.streamEnd] && !explicit then throw "EOF while parsing a value"
  let ends : List Token := [.directive, .documentStart, .documentEnd, .streamEnd]
  let (n, _, ts) ← orEmpty ends (within 130 .block) [] ts
  match ts.dropWhile (· = .documentEnd) with
  | [.streamEnd] => pure n
  | _ => throw "deserializing from YAML containing more than one document is not supported"

mutual

/-- The number of collections around the innermost scalar. -/
def depth : Node → Nat
  | scalar .. => 0
  | sequence xs _ => depthItems xs + 1
  | mapping es _ => depthEntries es + 1

/-- The largest depth of an item. -/
def depthItems : List Node → Nat
  | [] => 0
  | x :: xs => max (depth x) (depthItems xs)

/-- The largest depth of an entry. -/
def depthEntries : List (Node × Node) → Nat
  | [] => 0
  | (k, v) :: es => max (max (depth k) (depth v)) (depthEntries es)

end

/-- The tree of a text. -/
def parse (text : String) : Except String Node := do
  let ts ← tokens text
  let n ← ofTokens ts
  if n.depth ≤ 128 then pure n else throw "recursion limit exceeded"

end Node

end TaskGraph.Yaml
