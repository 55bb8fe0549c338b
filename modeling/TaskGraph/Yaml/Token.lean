import TaskGraph.Yaml.Scalar

/-!
# Tokens of a YAML text

The indentation of blocks is made explicit by start and end tokens. A key that is not marked by a
question mark is recognized by the colon after it: the place where it began is remembered, and the
tokens that open the key are put there once the colon is seen.
-/

set_option autoImplicit false

namespace TaskGraph.Yaml

/-- A token of a YAML text. -/
inductive Token where
  | directive
  | documentStart
  | documentEnd
  | streamEnd
  | sequenceStart
  | mappingStart
  | blockEnd
  | flowSequenceStart
  | flowSequenceEnd
  | flowMappingStart
  | flowMappingEnd
  | blockEntry
  | flowEntry
  | key
  | value
  | anchor (name : String)
  | alias (name : String)
  | tag (text : String)
  | scalar (text : String) (plain : Bool)
  deriving Repr, DecidableEq

/-- A place where a key may have begun. -/
structure KeyPlace where
  /-- The number of tokens in front of it. -/
  position : Nat
  line : Nat
  column : Nat
  index : Nat
  /-- Nothing but a key may stand here. -/
  required : Bool

/-- How far a text has been cut into tokens. -/
structure Lexer where
  cursor : Cursor
  tokens : Array Token
  /-- The number of open brackets. -/
  depth : Nat
  indent : Int
  outerIndents : List Int
  /-- Whether a key may begin here. -/
  keyAllowed : Bool
  /-- The place where a key may have begun, and those outside the open brackets. -/
  place : Option KeyPlace
  outerPlaces : List (Option KeyPlace)

namespace Lexer

/-- A lexer at the start of a text. -/
def start (cs : List Char) : Lexer :=
  ⟨Cursor.start cs, #[], 0, -1, [], true, none, []⟩

/-- Appends a token. -/
def push (l : Lexer) (t : Token) : Lexer := { l with tokens := l.tokens.push t }

/-- Puts a token behind the first ones. -/
def insertAt (l : Lexer) (position : Nat) (t : Token) : Lexer :=
  { l with tokens :=
    (l.tokens.toList.take position ++ t :: l.tokens.toList.drop position).toArray }

/-- Whether the lexer is inside brackets. -/
def inFlow (l : Lexer) : Bool := l.depth != 0

/-- Whether a remembered place still lies on the line and near enough. -/
def isFresh (l : Lexer) (p : KeyPlace) : Bool :=
  p.line == l.cursor.line && l.cursor.index ≤ p.index + 1024

/-- Forgets a place that a key can no longer have begun at; a required key is an error then. -/
def dropStale (l : Lexer) : Except String Lexer :=
  match l.place with
  | none => .ok l
  | some p =>
    if l.isFresh p then .ok l
    else if p.required then .error "could not find expected ':'"
    else .ok { l with place := none }

/-- Forgets the place where a key may have begun. -/
def forget (l : Lexer) : Except String Lexer :=
  match l.place with
  | some p => if p.required then .error "could not find expected ':'" else .ok { l with place := none }
  | none => .ok l

/-- Remembers that a key may begin here. -/
def remember (l : Lexer) : Except String Lexer :=
  if l.keyAllowed then do
    let required := !l.inFlow && l.indent == l.cursor.column
    let l ← l.forget
    let place : KeyPlace :=
      ⟨l.tokens.size, l.cursor.line, l.cursor.column, l.cursor.index, required⟩
    pure { l with place := some place }
  else .ok l

/-- Opens a block at a column, if it lies deeper than the one around it. -/
def openBlock (l : Lexer) (column : Nat) (position : Nat) (t : Token) : Lexer :=
  if l.inFlow || (column : Int) ≤ l.indent then l
  else { l.insertAt position t with outerIndents := l.indent :: l.outerIndents, indent := column }

/-- Closes the blocks that lie deeper than a column. -/
def closeBlocks (l : Lexer) (column : Int) : Lexer :=
  if l.inFlow then l else go l.outerIndents l.indent l.tokens
where
  /-- Closes blocks until the indentation fits. -/
  go : List Int → Int → Array Token → Lexer
    | [], indent, tokens => { l with tokens := tokens, indent := indent, outerIndents := [] }
    | outer :: rest, indent, tokens =>
      if column < indent then go rest outer (tokens.push .blockEnd)
      else { l with tokens := tokens, indent := indent, outerIndents := outer :: rest }

/-- Moves to the next token: over blanks, comments and line ends. -/
def skipGaps : Nat → Lexer → Lexer
  | 0, l => l
  | fuel + 1, l =>
    let (_, c) := l.cursor.takeWhile fun b => b = ' ' || ((l.inFlow || !l.keyAllowed) && b = '\t')
    let c := if c.rest.head? = some '#' then (c.takeWhile (!isBreak ·)).2 else c
    if atBreak c.rest then
      let (_, c) := c.takeBreak
      skipGaps fuel { l with cursor := c, keyAllowed := l.keyAllowed || !l.inFlow }
    else { l with cursor := c }

/-- Moves over a mark and appends its token. -/
def mark (l : Lexer) (n : Nat) (t : Token) : Lexer :=
  { l with cursor := l.cursor.skip n, tokens := l.tokens.push t }

/-- A mark between documents. -/
def documentMark (l : Lexer) (t : Token) : Except String Lexer := do
  let l ← (l.closeBlocks (-1)).forget
  pure { l.mark 3 t with keyAllowed := false }

/-- A directive line. -/
def directive (l : Lexer) : Except String Lexer := do
  let l ← (l.closeBlocks (-1)).forget
  let (line, c) := l.cursor.takeWhile (!isBreak ·)
  let name := (line.drop 1).takeWhile fun b => !isBlank b
  if name = "YAML".toList || name = "TAG".toList then
    pure { l.push .directive with cursor := c, keyAllowed := false }
  else throw "found unknown directive name"

/-- An opening bracket. -/
def openFlow (l : Lexer) (t : Token) : Except String Lexer := do
  let l ← l.remember
  pure { l.mark 1 t with
    depth := l.depth + 1, place := none, outerPlaces := l.place :: l.outerPlaces, keyAllowed := true }

/-- A closing bracket. -/
def closeFlow (l : Lexer) (t : Token) : Except String Lexer := do
  let l ← l.forget
  let l := match l.outerPlaces with
    | place :: rest => { l with depth := l.depth - 1, place := place, outerPlaces := rest }
    | [] => l
  pure { l.mark 1 t with keyAllowed := false }

/-- A comma between items in brackets. -/
def flowEntry (l : Lexer) : Except String Lexer := do
  let l ← l.forget
  pure { l.mark 1 .flowEntry with keyAllowed := true }

/-- The dash of an item. -/
def blockEntry (l : Lexer) : Except String Lexer := do
  if !l.inFlow && !l.keyAllowed then
    throw "block sequence entries are not allowed in this context"
  let l := l.openBlock l.cursor.column l.tokens.size .sequenceStart
  let l ← l.forget
  pure { l.mark 1 .blockEntry with keyAllowed := true }

/-- The question mark of a key. -/
def explicitKey (l : Lexer) : Except String Lexer := do
  if !l.inFlow && !l.keyAllowed then
    throw "mapping keys are not allowed in this context"
  let l := l.openBlock l.cursor.column l.tokens.size .mappingStart
  let l ← l.forget
  pure { l.mark 1 .key with keyAllowed := !l.inFlow }

/-- The colon of a value. -/
def mappingValue (l : Lexer) : Except String Lexer := do
  let l ← l.dropStale
  match l.place with
  | some p =>
    let l := l.insertAt p.position .key
    let l := l.openBlock p.column p.position .mappingStart
    pure { l.mark 1 .value with place := none, keyAllowed := false }
  | none =>
    if !l.inFlow && !l.keyAllowed then
      throw "mapping values are not allowed in this context"
    let l := l.openBlock l.cursor.column l.tokens.size .mappingStart
    pure { l.mark 1 .value with keyAllowed := !l.inFlow }

/-- A character of an anchor. -/
def isAnchorChar (c : Char) : Bool :=
  ('a' ≤ c && c ≤ 'z') || ('A' ≤ c && c ≤ 'Z') || ('0' ≤ c && c ≤ '9') || c = '_' || c = '-'

/-- An anchor or an alias. -/
def anchor (l : Lexer) (t : String → Token) : Except String Lexer := do
  let l ← l.remember
  let (name, c) := (l.cursor.skip 1).takeWhile isAnchorChar
  let ended := atGap c.rest || match c.rest with
    | b :: _ => ['?', ':', ',', ']', '\x7d', '%', '@', Char.ofNat 96].contains b
    | [] => true
  if name.isEmpty || !ended then
    throw "did not find expected alphabetic or numeric character"
  pure { l.push (t (String.ofList name)) with cursor := c, keyAllowed := false }

/-- A tag. -/
def tag (l : Lexer) : Except String Lexer := do
  let l ← l.remember
  let inFlow := l.inFlow
  let (chars, c) := match l.cursor.rest with
    | '!' :: '<' :: _ =>
      let (chars, c) := l.cursor.takeWhile fun b => !isBlank b && !isBreak b && b != '>'
      (chars.drop 2, c.skip 1)
    | _ => l.cursor.takeWhile fun b => !isBlank b && !isBreak b && !(inFlow && isFlowMark b)
  if !(atGap c.rest || (inFlow && c.rest.head? = some ',')) then
    throw "did not find expected whitespace or line break"
  pure { l.push (.tag (String.ofList chars)) with cursor := c, keyAllowed := false }

/-- A block scalar. -/
def block (l : Lexer) (literal : Bool) : Except String Lexer := do
  let l ← l.forget
  let (text, c) ← takeBlock literal l.indent (l.cursor.skip 1)
  pure { l.push (.scalar text false) with cursor := c, keyAllowed := true }

/-- A quoted scalar. -/
def quoted (l : Lexer) (single : Bool) : Except String Lexer := do
  let l ← l.remember
  let (text, c) ← takeQuoted single (l.cursor.skip 1)
  pure { l.push (.scalar text false) with cursor := c, keyAllowed := false }

/-- A plain scalar. -/
def plain (l : Lexer) : Except String Lexer := do
  let l ← l.remember
  let (text, ended, c) ← takePlain l.inFlow (l.indent + 1).toNat l.cursor
  pure { l.push (.scalar text true) with cursor := c, keyAllowed := ended }

/-- A character that starts no plain scalar. -/
def isIndicator (c : Char) : Bool :=
  ['-', '?', ':', ',', '[', ']', '\x7b', '\x7d', '#', '&', '*', '!', '|', '>', '\'', '"', '%', '@',
    Char.ofNat 96].contains c

/-- The end of the text. -/
def finish (l : Lexer) : Except String Lexer := do
  let l := l.closeBlocks (-1)
  let l ← l.forget
  pure { l.push .streamEnd with keyAllowed := false }

/-- Appends the token at the cursor; the flag says whether the text has ended. -/
def step (l : Lexer) : Except String (Lexer × Bool) := do
  let l := l.skipGaps (l.cursor.rest.length + 1)
  let l ← l.dropStale
  let l := l.closeBlocks l.cursor.column
  let go (r : Except String Lexer) : Except String (Lexer × Bool) := r.map fun l => (l, false)
  match l.cursor.rest with
  | [] => l.finish.map fun l => (l, true)
  | c :: rest =>
    if l.cursor.column = 0 && c = '%' then go l.directive
    else if l.cursor.atDocumentMark then
      go (l.documentMark (if c = '-' then .documentStart else .documentEnd))
    else if c = '[' then go (l.openFlow .flowSequenceStart)
    else if c = '\x7b' then go (l.openFlow .flowMappingStart)
    else if c = ']' then go (l.closeFlow .flowSequenceEnd)
    else if c = '\x7d' then go (l.closeFlow .flowMappingEnd)
    else if c = ',' then go l.flowEntry
    else if c = '-' && atGap rest then go l.blockEntry
    else if c = '?' && (l.inFlow || atGap rest) then go l.explicitKey
    else if c = ':' && (l.inFlow || atGap rest) then go l.mappingValue
    else if c = '*' then go (l.anchor .alias)
    else if c = '&' then go (l.anchor .anchor)
    else if c = '!' then go l.tag
    else if c = '|' && !l.inFlow then go (l.block true)
    else if c = '>' && !l.inFlow then go (l.block false)
    else if c = '\'' then go (l.quoted true)
    else if c = '"' then go (l.quoted false)
    else if (!isIndicator c && !isBlank c) || (c = '-' && !atBlank rest) ||
        (!l.inFlow && (c = '?' || c = ':') && !atGap rest) then
      go l.plain
    else throw "found character that cannot start any token"

/-- Cuts the rest of a text into tokens. -/
def run : Nat → Lexer → Except String (Array Token)
  | 0, _ => .error "found unexpected end of stream"
  | fuel + 1, l => do
    let (l, ended) ← l.step
    if ended then pure l.tokens else run fuel l

end Lexer

/-- A character that may stand in a YAML text. -/
def isPrintable (c : Char) : Bool :=
  let n := c.toNat
  n = 9 || n = 10 || n = 13 || (0x20 ≤ n && n ≤ 0x7E) || n = 0x85 || (0xA0 ≤ n && n ≤ 0xD7FF) ||
    (0xE000 ≤ n && n ≤ 0xFFFD && n != 0xFEFF) || 0x10000 ≤ n

/-- The tokens of a text. -/
def tokens (text : String) : Except String (List Token) :=
  let cs := match text.toList with
    | c :: cs => if c.toNat = 0xFEFF then cs else c :: cs
    | [] => []
  if cs.all isPrintable then (Lexer.run (cs.length + 2) (Lexer.start cs)).map Array.toList
  else .error "control characters are not allowed"

end TaskGraph.Yaml
