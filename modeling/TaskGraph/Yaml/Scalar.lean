import TaskGraph.Yaml.Cursor

/-!
# Scalars

How the three kinds of scalar are read: plain ones, quoted ones and blocks. A single line end inside a
plain or quoted scalar is a blank, several in a row are one fewer. A block keeps its line ends or folds
them in the same way, and its end is kept, cut or clipped to one line end.
-/

set_option autoImplicit false

namespace TaskGraph.Yaml

/-- What stands between two words of a scalar: blanks on one line, or line ends. -/
structure Gap where
  blanks : List Char
  /-- The first line end, if there is one, with the characters that it stands for. -/
  first : Option (List Char)
  more : List Char

/-- No gap. -/
def Gap.none : Gap := ⟨[], Option.none, []⟩

/-- The characters that stand for a gap. -/
def Gap.join (g : Gap) : List Char :=
  match g.first with
  | Option.none => g.blanks
  | some first =>
    if first.head? = some '\n' then (if g.more.isEmpty then [' '] else g.more)
    else first ++ g.more

/-- Reads the gap at a cursor. A tab in front of the column `indent` of a later line is refused. -/
def takeGap (indent : Nat) : Nat → Gap → Cursor → Except String (Gap × Cursor)
  | 0, g, c => .ok (g, c)
  | fuel + 1, g, c =>
    match c.rest with
    | [] => .ok (g, c)
    | b :: _ =>
      if isBlank b then
        match g.first with
        | Option.none => takeGap indent fuel { g with blanks := g.blanks ++ [b] } (c.skip 1)
        | some _ =>
          if b = '\t' && c.column < indent then
            .error "found a tab character that violates indentation"
          else takeGap indent fuel g (c.skip 1)
      else if isBreak b then
        let (chars, c) := c.takeBreak
        match g.first with
        | Option.none => takeGap indent fuel ⟨[], some chars, g.more⟩ c
        | some _ => takeGap indent fuel { g with more := g.more ++ chars } c
      else .ok (g, c)

/-! ## Plain scalars -/

/-- A character that ends a plain scalar inside brackets. -/
def isFlowMark (c : Char) : Bool := c = ',' || c = '[' || c = ']' || c = '\x7b' || c = '\x7d'

/-- Reads one word of a plain scalar. -/
def plainWord (inFlow : Bool) : Nat → List Char → Cursor → Except String (List Char × Cursor)
  | 0, acc, c => .ok (acc.reverse, c)
  | fuel + 1, acc, c =>
    match c.rest with
    | [] => .ok (acc.reverse, c)
    | b :: rest =>
      if isBlank b || isBreak b then .ok (acc.reverse, c)
      else if inFlow && b = ':' &&
          (match rest with
            | d :: _ => isFlowMark d || d = '?'
            | [] => false) then
        .error "found unexpected ':'"
      else if b = ':' && atGap rest then .ok (acc.reverse, c)
      else if inFlow && isFlowMark b then .ok (acc.reverse, c)
      else plainWord inFlow fuel (b :: acc) (c.skip 1)

/-- Reads the words of a plain scalar after those in `acc`; the flag says whether a line has ended. -/
def plainWords (inFlow : Bool) (indent : Nat) :
    Nat → List Char → Gap → Cursor → Except String (List Char × Bool × Cursor)
  | 0, acc, g, c => .ok (acc, g.first.isSome, c)
  | fuel + 1, acc, g, c =>
    if c.atDocumentMark || c.rest.head? = some '#' then .ok (acc, g.first.isSome, c)
    else do
      let (word, c') ← plainWord inFlow (c.rest.length + 1) [] c
      let acc := if word.isEmpty then acc else acc ++ g.join ++ word
      let pending := if word.isEmpty then g else Gap.none
      if !(atBlank c'.rest || atBreak c'.rest) then pure (acc, pending.first.isSome, c')
      else
        let (g, c') ← takeGap indent (c'.rest.length + 1) pending c'
        if !inFlow && c'.column < indent then pure (acc, g.first.isSome, c')
        else plainWords inFlow indent fuel acc g c'

/-- Reads a plain scalar. -/
def takePlain (inFlow : Bool) (indent : Nat) (c : Cursor) :
    Except String (String × Bool × Cursor) := do
  let (cs, ended, c) ← plainWords inFlow indent (c.rest.length + 1) [] Gap.none c
  pure (String.ofList cs, ended, c)

/-! ## Quoted scalars -/

/-- The character of a one-character escape. -/
def escapeChar? : Char → Option Nat
  | '0' => some 0
  | 'a' => some 7
  | 'b' => some 8
  | 't' | '\t' => some 9
  | 'n' => some 10
  | 'v' => some 11
  | 'f' => some 12
  | 'r' => some 13
  | 'e' => some 27
  | ' ' => some 32
  | '"' => some 34
  | '/' => some 47
  | '\\' => some 92
  | 'N' => some 0x85
  | '_' => some 0xA0
  | 'L' => some 0x2028
  | 'P' => some 0x2029
  | _ => none

/-- The value of a hexadecimal digit. -/
def hexValue? (c : Char) : Option Nat :=
  if '0' ≤ c ∧ c ≤ '9' then some (c.toNat - 48)
  else if 'a' ≤ c ∧ c ≤ 'f' then some (c.toNat - 87)
  else if 'A' ≤ c ∧ c ≤ 'F' then some (c.toNat - 55)
  else none

/-- The number that hexadecimal digits stand for. -/
def hexNumber? (cs : List Char) : Option Nat :=
  cs.foldl (fun n c => match n, hexValue? c with
    | some n, some d => some (n * 16 + d)
    | _, _ => none) (some 0)

/-- Reads an escape after its backslash. -/
def takeEscape (c : Cursor) : Except String (Char × Cursor) :=
  let coded (n : Nat) : Except String (Char × Cursor) :=
    let digits := (c.rest.drop 1).take n
    match hexNumber? digits with
    | some code =>
      if digits.length = n && (code < 0xD800 || (0xE000 ≤ code && code ≤ 0x10FFFF)) then
        .ok (Char.ofNat code, c.skip (n + 1))
      else .error "found invalid Unicode character escape code"
    | none => .error "did not find expected hexdecimal number"
  match c.rest with
  | 'x' :: _ => coded 2
  | 'u' :: _ => coded 4
  | 'U' :: _ => coded 8
  | e :: _ => match escapeChar? e with
    | some n => .ok (Char.ofNat n, c.skip 1)
    | none => .error "found unknown escape character"
  | [] => .error "found unknown escape character"

/-- How a run of characters inside quotes ended. -/
inductive RunEnd where
  | closed
  | gap
  /-- The line end is escaped: it and the blanks after it stand for nothing. -/
  | joined

/-- Reads a run of characters inside quotes. -/
def quotedRun (single : Bool) : Nat → List Char → Cursor →
    Except String (List Char × RunEnd × Cursor)
  | 0, acc, c => .ok (acc.reverse, .gap, c)
  | fuel + 1, acc, c =>
    match c.rest with
    | [] => .error "found unexpected end of stream"
    | b :: rest =>
      if isBlank b || isBreak b then .ok (acc.reverse, .gap, c)
      else if single then
        match b, rest with
        | '\'', '\'' :: _ => quotedRun single fuel ('\'' :: acc) (c.skip 2)
        | '\'', _ => .ok (acc.reverse, .closed, c.skip 1)
        | b, _ => quotedRun single fuel (b :: acc) (c.skip 1)
      else if b = '"' then .ok (acc.reverse, .closed, c.skip 1)
      else if b = '\\' then
        if atBreak rest then
          let (_, c) := (c.skip 1).takeBreak
          .ok (acc.reverse, .joined, c)
        else do
          let (e, c) ← takeEscape (c.skip 1)
          quotedRun single fuel (e :: acc) c
      else quotedRun single fuel (b :: acc) (c.skip 1)

/-- Reads the runs of a quoted scalar after those in `acc`. -/
def quotedRuns (single : Bool) : Nat → List Char → Cursor → Except String (List Char × Cursor)
  | 0, _, _ => .error "found unexpected end of stream"
  | fuel + 1, acc, c =>
    if c.atDocumentMark then .error "found unexpected document indicator"
    else do
      let (run, ended, c) ← quotedRun single (c.rest.length + 1) [] c
      let acc := acc ++ run
      match ended with
      | .closed => pure (acc, c)
      | .gap =>
        let (g, c) ← takeGap 0 (c.rest.length + 1) Gap.none c
        quotedRuns single fuel (acc ++ g.join) c
      | .joined =>
        let (g, c) ← takeGap 0 (c.rest.length + 1) ⟨[], some [], []⟩ c
        quotedRuns single fuel (acc ++ g.join) c

/-- Reads a quoted scalar after its opening quote. -/
def takeQuoted (single : Bool) (c : Cursor) : Except String (String × Cursor) := do
  let (cs, c) ← quotedRuns single (c.rest.length + 1) [] c
  pure (String.ofList cs, c)

/-! ## Blocks -/

/-- What happens to the line ends at the end of a block. -/
inductive Chomping where
  | clip
  | strip
  | keep
  deriving DecidableEq

/-- Reads the header of a block: chomping and indentation in either order. -/
def blockHeader (c : Cursor) : Except String (Chomping × Option Nat × Cursor) :=
  let chomping? : Char → Option Chomping
    | '+' => some .keep
    | '-' => some .strip
    | _ => none
  let digit? (d : Char) : Option Nat :=
    if '0' ≤ d ∧ d ≤ '9' then some (d.toNat - 48) else none
  let result := match c.rest with
    | a :: b :: _ => match chomping? a, digit? b, digit? a, chomping? b with
      | some k, some n, _, _ => (k, some n, c.skip 2)
      | some k, none, _, _ => (k, none, c.skip 1)
      | none, _, some n, some k => (k, some n, c.skip 2)
      | none, _, some n, none => (.clip, some n, c.skip 1)
      | none, _, none, _ => (.clip, none, c)
    | [a] => match chomping? a, digit? a with
      | some k, _ => (k, none, c.skip 1)
      | none, some n => (.clip, some n, c.skip 1)
      | none, none => (.clip, none, c)
    | [] => (.clip, none, c)
  if result.2.1 = some 0 then .error "found an indentation indicator equal to 0" else .ok result

/-- Reads blank lines. With no indentation known yet, returns the deepest column reached. -/
def blockBreaks (indent : Option Nat) :
    Nat → Nat → List Char → Cursor → Except String (Nat × List Char × Cursor)
  | 0, deepest, acc, c => .ok (deepest, acc, c)
  | fuel + 1, deepest, acc, c =>
    let room := match indent with
      | some n => n - c.column
      | none => c.rest.length
    let blanks := (c.rest.take room).takeWhile (· = ' ')
    let c := c.skip blanks.length
    let deepest := max deepest c.column
    let inside := match indent with
      | some n => c.column < n
      | none => true
    if inside && c.rest.head? = some '\t' then
      .error "found a tab character where an indentation space is expected"
    else if atBreak c.rest then
      let (chars, c) := c.takeBreak
      blockBreaks indent fuel deepest (acc ++ chars) c
    else .ok (deepest, acc, c)

/-- What has been read of a block: the text, the last line end, the blank lines after it, and whether
the last line started with a blank. -/
structure BlockState where
  text : List Char
  lineEnd : List Char
  blankLines : List Char
  ledByBlank : Bool

/-- Adds a line to a block. -/
def BlockState.push (literal : Bool) (s : BlockState) (line lineEnd blankLines : List Char) :
    BlockState :=
  let startsBlank := atBlank line
  let folds := !literal && s.lineEnd.head? = some '\n' && !s.ledByBlank && !startsBlank
  let joint := if folds then (if s.blankLines.isEmpty then [' '] else []) else s.lineEnd
  ⟨s.text ++ joint ++ s.blankLines ++ line, lineEnd, blankLines, startsBlank⟩

/-- Reads the lines of a block. -/
def blockLines (literal : Bool) (indent : Nat) :
    Nat → BlockState → Cursor → Except String (BlockState × Cursor)
  | 0, s, c => .ok (s, c)
  | fuel + 1, s, c =>
    if c.column = indent && !c.rest.isEmpty then do
      let (line, c) := c.takeWhile (!isBreak ·)
      let (lineEnd, c) := c.takeBreak
      let (_, blankLines, c) ← blockBreaks (some indent) (c.rest.length + 1) 0 [] c
      blockLines literal indent fuel (s.push literal line lineEnd blankLines) c
    else .ok (s, c)

/-- Reads a block after its mark; `parent` is the indentation around it. -/
def takeBlock (literal : Bool) (parent : Int) (c : Cursor) : Except String (String × Cursor) := do
  let (chomping, increment, c) ← blockHeader c
  let (_, c) := c.takeWhile isBlank
  let c := if c.rest.head? = some '#' then (c.takeWhile (!isBreak ·)).2 else c
  if !c.rest.isEmpty && !atBreak c.rest then
    throw "did not find expected comment or line break"
  let (_, c) := c.takeBreak
  let known : Option Nat := increment.map fun n => (max parent 0).toNat + n
  let (deepest, blankLines, c) ← blockBreaks known (c.rest.length + 1) 0 [] c
  let indent := known.getD (max (max deepest (parent + 1).toNat) 1)
  let (s, c) ← blockLines literal indent (c.rest.length + 1) ⟨[], [], blankLines, false⟩ c
  let ending := match chomping with
    | .strip => []
    | .clip => s.lineEnd
    | .keep => s.lineEnd ++ s.blankLines
  pure (String.ofList (s.text ++ ending), c)

end TaskGraph.Yaml
