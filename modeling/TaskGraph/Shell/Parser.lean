import TaskGraph.Shell.Syntax

/-!
# Reading shell scripts

A script is read line by line, so that the commands in front of a malformed one still run. What is read
comes with the characters behind it; where nothing can be read, the reader says what the shell stumbled
over.
-/

set_option autoImplicit false

namespace TaskGraph.Shell

/-! ## Characters -/

/-- A blank inside a line. -/
def isBlank (c : Char) : Bool := c = ' ' || c = '\t'

/-- A character that ends a word. -/
def endsWord (c : Char) : Bool :=
  isBlank c || c = '\n' || c = ';' || c = '&' || c = '|' || c = '<' || c = '>' || c = '(' || c = ')'

/-- What follows blanks, joined lines and a comment. -/
def skipBlanks : Nat → List Char → List Char
  | 0, cs => cs
  | fuel + 1, cs => match cs with
    | '\\' :: '\n' :: cs => skipBlanks fuel cs
    | '#' :: cs => cs.dropWhile (· != '\n')
    | c :: cs => if isBlank c then skipBlanks fuel cs else c :: cs
    | [] => []

/-- What follows blanks. -/
def skip (cs : List Char) : List Char := skipBlanks cs.length cs

/-- What follows blanks and line ends; the fuel bounds the number of lines. -/
def skipLines : Nat → List Char → List Char
  | 0, cs => cs
  | fuel + 1, cs => match skip cs with
    | '\n' :: cs => skipLines fuel cs
    | cs => cs

/-- A character of a name. -/
def isNameChar (c : Char) : Bool := c.isAlphanum || c = '_'

/-- Whether a text is a name. -/
def isName (s : String) : Bool :=
  match s.toList with
  | c :: cs => (c.isAlpha || c = '_') && cs.all isNameChar
  | [] => false

/-- Something is open that does not end. -/
def unterminated : String := "Syntax error: Unterminated quoted string"

/-- The script ends too early, where perhaps a certain word is expected. -/
def endOfFile (expected : String) : String :=
  "Syntax error: end of file unexpected" ++
    (if expected = "" then "" else " (expecting \"" ++ expected ++ "\")")

/-- Something stands where it may not. -/
def unexpected (token : String) : String := "Syntax error: \"" ++ token ++ "\" unexpected"

/-! ## Words -/

/-- The characters up to a single quote. -/
def untilQuote (cs : List Char) : Except String (String × List Char) :=
  match cs.dropWhile (· != '\'') with
  | _ :: rest => .ok (String.ofList (cs.takeWhile (· != '\'')), rest)
  | [] => .error unterminated

/-- The characters up to the bracket that closes what has been opened so often; quotes hide brackets. -/
def enclosed (opening closing : Char) :
    Nat → Nat → List Char → List Char → Except String (String × List Char)
  | 0, _, _, _ => .error unterminated
  | _, _, _, [] => .error (endOfFile (String.singleton closing))
  | fuel + 1, depth, seen, c :: cs =>
    if c = '\\' then match cs with
      | d :: cs => enclosed opening closing fuel depth (d :: c :: seen) cs
      | [] => .error unterminated
    else if c = '\'' then
      match untilQuote cs with
      | .error e => .error e
      | .ok (s, rest) =>
        enclosed opening closing fuel depth (('\'' :: s.toList ++ ['\'']).reverse ++ seen) rest
    else if c = closing then
      if depth = 0 then .ok (String.ofList seen.reverse, cs)
      else enclosed opening closing fuel (depth - 1) (c :: seen) cs
    else if c = opening then enclosed opening closing fuel (depth + 1) (c :: seen) cs
    else enclosed opening closing fuel depth (c :: seen) cs

/-- The characters up to a backquote; a backslash keeps the next one from counting. -/
def untilBackquote : List Char → List Char → Except String (String × List Char)
  | _, [] => .error "Syntax error: EOF in backquote substitution"
  | seen, '\\' :: c :: cs =>
    untilBackquote (if c = '\x60' || c = '$' || c = '\\' then c :: seen else c :: '\\' :: seen) cs
  | seen, c :: cs =>
    if c = '\x60' then .ok (String.ofList seen.reverse, cs) else untilBackquote (c :: seen) cs

/-- The operator at the front of what stands behind a name in braces. -/
def operator (cs : List Char) : Option (String × List Char) :=
  ["##", "#", "%%", "%", ":-", ":=", ":?", ":+", "-", "=", "?", "+"].findSome? fun op =>
    if op.toList.isPrefixOf cs then some (op, cs.drop op.length) else none

/-- A character that is a parameter of its own. -/
def isSpecial (c : Char) : Bool :=
  c = '@' || c = '*' || c = '#' || c = '?' || c = '$' || c = '!' || c = '-' || c.isDigit

/-- The name of a parameter at the front, if there is one. -/
def parameterName : List Char → Option (String × List Char)
  | c :: cs =>
    if c.isAlpha || c = '_' then
      some (String.ofList (c :: cs.takeWhile isNameChar), cs.dropWhile isNameChar)
    else if isSpecial c then some (String.singleton c, cs)
    else none
  | [] => none

/-- A parameter in braces. -/
def bracedParameter (text : String) (quoted : Bool) : Except String Part :=
  let whole (cs : List Char) : Option (String × List Char) :=
    match cs with
    | c :: _ => if c.isDigit then some (String.ofList (cs.takeWhile Char.isDigit), cs.dropWhile Char.isDigit)
      else parameterName cs
    | [] => none
  let plain : Except String Part := match whole text.toList with
    | some (name, []) => .ok (.parameter name none quoted)
    | some (name, rest) => match operator rest with
      | some (op, word) => .ok (.parameter name (some (op, String.ofList word)) quoted)
      | none => .error "Bad substitution"
    | none => .error "Bad substitution"
  match text.toList with
  | '#' :: c :: cs => match whole (c :: cs) with
    | some (name, []) => .ok (.parameter name (some ("length", "")) quoted)
    | _ => plain
  | _ => plain

/-- What stands behind a dollar sign. -/
def dollar (quoted : Bool) (cs : List Char) : Except String (Part × List Char) :=
  match cs with
  | '(' :: '(' :: rest => do
    let (s, after) ← enclosed '(' ')' (rest.length + 1) 0 [] rest
    match after with
    | ')' :: after => pure (.arithmetic s quoted, after)
    | _ => do
      let (s, after) ← enclosed '(' ')' (cs.length + 1) 0 [] ('(' :: rest)
      pure (.output s quoted, after)
  | '(' :: rest => do
    let (s, after) ← enclosed '(' ')' (rest.length + 1) 0 [] rest
    pure (.output s quoted, after)
  | '\x7b' :: rest => do
    let (s, after) ← enclosed '\x7b' '\x7d' (rest.length + 1) 0 [] rest
    let p ← bracedParameter s quoted
    pure (p, after)
  | cs => match parameterName cs with
    | some (name, rest) => .ok (.parameter name none quoted, rest)
    | none => .ok (.text "$" quoted, cs)

/-- Adds a character to the last part of a word, the parts being in reverse. -/
def addChar (c : Char) (quoted : Bool) : List Part → List Part
  | .text s q :: parts => if q = quoted then .text (s.push c) q :: parts
    else .text (String.singleton c) quoted :: .text s q :: parts
  | parts => .text (String.singleton c) quoted :: parts

/-- The rest of a text in double quotes. -/
def quotedParts : Nat → List Part → List Char → Except String (List Part × List Char)
  | 0, _, _ => .error unterminated
  | _, _, [] => .error unterminated
  | fuel + 1, parts, c :: cs =>
    if c = '"' then .ok (parts, cs)
    else if c = '\\' then match cs with
      | d :: rest =>
        if d = '\n' then quotedParts fuel parts rest
        else if d = '$' || d = '\x60' || d = '"' || d = '\\' then quotedParts fuel (addChar d true parts) rest
        else quotedParts fuel (addChar d true (addChar '\\' true parts)) rest
      | [] => .error unterminated
    else if c = '$' then
      match dollar true cs with
      | .error e => .error e
      | .ok (p, rest) => quotedParts fuel (p :: parts) rest
    else if c = '\x60' then
      match untilBackquote [] cs with
      | .error e => .error e
      | .ok (s, rest) => quotedParts fuel (.output s true :: parts) rest
    else quotedParts fuel (addChar c true parts) cs

/-- The parts of a word, in reverse. Inside braces, nothing but the end of the text ends a word. -/
def wordParts (whole : Bool) : Nat → List Part → List Char → Except String (List Part × List Char)
  | 0, _, _ => .error unterminated
  | _, parts, [] => .ok (parts, [])
  | fuel + 1, parts, c :: cs =>
    if endsWord c && !whole then .ok (parts, c :: cs)
    else if c = '\'' then
      match untilQuote cs with
      | .error e => .error e
      | .ok (s, rest) => wordParts whole fuel (.text s true :: parts) rest
    else if c = '"' then
      match quotedParts (cs.length + 1) (.text "" true :: parts) cs with
      | .error e => .error e
      | .ok (parts, rest) => wordParts whole fuel parts rest
    else if c = '\\' then match cs with
      | '\n' :: rest => wordParts whole fuel parts rest
      | d :: rest => wordParts whole fuel (.text (String.singleton d) true :: parts) rest
      | [] => wordParts whole fuel (addChar '\\' false parts) []
    else if c = '$' then
      match dollar false cs with
      | .error e => .error e
      | .ok (p, rest) => wordParts whole fuel (p :: parts) rest
    else if c = '\x60' then
      match untilBackquote [] cs with
      | .error e => .error e
      | .ok (s, rest) => wordParts whole fuel (.output s false :: parts) rest
    else wordParts whole fuel (addChar c false parts) cs

/-- A word. -/
def readWord (cs : List Char) : Except String (Word × List Char) := do
  let (parts, rest) ← wordParts false (cs.length + 1) [] cs
  pure (parts.reverse, rest)

/-- The word that a whole text is. -/
def wordOf (text : String) : Except String Word := do
  let (parts, _) ← wordParts true (text.length + 1) [] text.toList
  pure parts.reverse

/-- The unquoted characters in front that no special character ends. -/
def bareWord (cs : List Char) : String := String.ofList (cs.takeWhile fun c => !endsWord c)

/-! ## Redirections -/

/-- A redirection, if one stands at the front. -/
def redirection? (cs : List Char) : Except String (Option (Redirection × List Char)) :=
  let digits := cs.takeWhile Char.isDigit
  let stream? : Option Nat := match digits with
    | [d] => some (d.toNat - 48)
    | _ => none
  let target (stream : Nat) (direction : Direction) (rest : List Char) :
      Except String (Option (Redirection × List Char)) := do
    match skip rest with
    | [] => throw (endOfFile "")
    | c :: more =>
      if endsWord c then throw (unexpected (if c = '\n' then "newline" else String.singleton c))
      else do
        let (w, rest) ← readWord (c :: more)
        pure (some (⟨stream, direction, w⟩, rest))
  if digits.length > 1 then .ok none
  else match cs.drop digits.length with
    | '>' :: '>' :: rest => target (stream?.getD 1) .append rest
    | '>' :: '&' :: rest => target (stream?.getD 1) .duplicate rest
    | '>' :: '|' :: rest => target (stream?.getD 1) .write rest
    | '>' :: rest => target (stream?.getD 1) .write rest
    | '<' :: '&' :: rest => target (stream?.getD 0) .duplicate rest
    | '<' :: rest => target (stream?.getD 0) .read rest
    | _ => .ok none

/-- All redirections at the front. -/
def redirections : Nat → List Redirection → List Char → Except String (List Redirection × List Char)
  | 0, rs, cs => .ok (rs.reverse, cs)
  | fuel + 1, rs, cs => do
    match ← redirection? (skip cs) with
    | some (r, rest) => redirections fuel (r :: rs) rest
    | none => pure (rs.reverse, cs)

/-! ## Commands -/

/-- An assignment, if a word is one: a name, an equals sign and a value. -/
def assignment? (w : Word) : Option (String × Word) :=
  match w with
  | .text s false :: rest =>
    match s.toList.dropWhile (· != '=') with
    | _ :: after =>
      let name := String.ofList (s.toList.takeWhile (· != '='))
      if isName name then some (name, .text (String.ofList after) false :: rest) else none
    | [] => none
  | _ => none

/-- The words and redirections of a simple command. -/
def simpleCommand : Nat → List (String × Word) → List Word → List Redirection → List Char →
    Except String (Script × List Char)
  | 0, _, _, _, _ => .error unterminated
  | fuel + 1, as, ws, rs, cs => do
    let cs := skip cs
    match ← redirection? cs with
    | some (r, rest) => simpleCommand fuel as ws (rs ++ [r]) rest
    | none => match cs with
      | [] => pure (.simple as ws rs, [])
      | c :: _ =>
        if endsWord c then pure (.simple as ws rs, cs)
        else do
          let (w, rest) ← readWord cs
          match ws, assignment? w with
          | [], some a => simpleCommand fuel (as ++ [a]) [] rs rest
          | ws, _ => simpleCommand fuel as (ws ++ [w]) rs rest

/-- The words that end a list when they stand where a command may begin. -/
def closers : List String := ["then", "else", "elif", "fi", "do", "done", "esac", "\x7d"]

/-- What stands where a command is expected and none can begin. -/
def misplaced (cs : List Char) : String :=
  match cs with
  | [] => endOfFile ""
  | ';' :: ';' :: _ => unexpected ";;"
  | '&' :: '&' :: _ => unexpected "&&"
  | '|' :: '|' :: _ => unexpected "||"
  | c :: _ =>
    if c = '\n' then "Syntax error: newline unexpected"
    else if endsWord c then unexpected (String.singleton c)
    else unexpected (bareWord cs)

/-- Goes past a word that has to stand here. -/
def expect (word : String) (cs : List Char) : Except String (List Char) :=
  let cs := skipLines cs.length cs
  if bareWord cs = word then .ok (cs.drop word.length)
  else match cs with
    | [] => .error (endOfFile word)
    | cs => .error (misplaced cs ++ " (expecting \"" ++ word ++ "\")")

/-- The words up to the end of a line. -/
def wordsToEnd : Nat → List Word → List Char → Except String (List Word × List Char)
  | 0, _, _ => .error unterminated
  | fuel + 1, ws, cs => match skip cs with
    | [] => .ok (ws, [])
    | c :: cs =>
      if c = ';' || c = '\n' then .ok (ws, cs)
      else if endsWord c then .error (misplaced (c :: cs))
      else match readWord (c :: cs) with
        | .error e => .error e
        | .ok (w, rest) => wordsToEnd fuel (ws ++ [w]) rest

/-- The patterns of an arm, up to their closing parenthesis. -/
def patterns : Nat → List Word → List Char → Except String (List Word × List Char)
  | 0, _, _ => .error unterminated
  | fuel + 1, ws, cs => do
    let (w, rest) ← readWord (skip cs)
    if w.isEmpty then throw (misplaced rest)
    match skip rest with
    | '|' :: rest => patterns fuel (ws ++ [w]) rest
    | ')' :: rest => pure (ws ++ [w], rest)
    | rest => throw (misplaced rest)

mutual

/-- Commands up to the end of a line, or over several lines up to a word or a bracket that ends them. -/
def readList (lines : Bool) : Nat → List Char → Except String (Script × List Char)
  | 0, _ => .error unterminated
  | fuel + 1, cs => do
    let cs := if lines then skipLines cs.length cs else skip cs
    match cs with
    | [] => pure (.nothing, [])
    | c :: _ =>
      if c = ')' || (lines && closers.contains (bareWord cs)) || (lines && cs.take 2 = [';', ';']) then
        pure (.nothing, cs)
      else if c = '\n' then pure (.nothing, cs)
      else do
        let (first, rest) ← readAndOr fuel cs
        match skip rest with
        | ';' :: ';' :: after =>
          if lines then pure (first, ';' :: ';' :: after) else throw (unexpected ";;")
        | ';' :: after | '&' :: after => do
          let (second, rest) ← readList lines fuel after
          pure (.sequence first second, rest)
        | '\n' :: after =>
          if lines then do
            let (second, rest) ← readList lines fuel after
            pure (.sequence first second, rest)
          else pure (first, '\n' :: after)
        | rest => pure (first, rest)

/-- Pipelines joined by the marks for "and then" and "or else". -/
def readAndOr : Nat → List Char → Except String (Script × List Char)
  | 0, _ => .error unterminated
  | fuel + 1, cs => do
    let (first, rest) ← readPipeline fuel cs
    joined fuel first rest

/-- What is joined to a pipeline. -/
def joined : Nat → Script → List Char → Except String (Script × List Char)
  | 0, _, _ => .error unterminated
  | fuel + 1, first, cs =>
    match skip cs with
    | '&' :: '&' :: rest => do
      let (second, rest) ← readPipeline fuel (skipLines rest.length rest)
      joined fuel (.both first second) rest
    | '|' :: '|' :: rest => do
      let (second, rest) ← readPipeline fuel (skipLines rest.length rest)
      joined fuel (.either first second) rest
    | rest => .ok (first, rest)

/-- Commands joined by bars, perhaps negated. -/
def readPipeline : Nat → List Char → Except String (Script × List Char)
  | 0, _ => .error unterminated
  | fuel + 1, cs => do
    let cs := skip cs
    let negated := bareWord cs = "!"
    let (first, rest) ← readCommand fuel (if negated then skip (cs.drop 1) else cs)
    let (stages, rest) ← readStages fuel [first] rest
    match stages with
    | [only] => pure (if negated then .pipeline true [only] else only, rest)
    | stages => pure (.pipeline negated stages, rest)

/-- The stages behind the first one. -/
def readStages : Nat → List Script → List Char → Except String (List Script × List Char)
  | 0, _, _ => .error unterminated
  | fuel + 1, stages, cs =>
    match skip cs with
    | '|' :: '|' :: rest => .ok (stages, '|' :: '|' :: rest)
    | '|' :: rest => do
      let (stage, rest) ← readCommand fuel (skipLines rest.length rest)
      readStages fuel (stages ++ [stage]) rest
    | rest => .ok (stages, rest)

/-- A command. -/
def readCommand : Nat → List Char → Except String (Script × List Char)
  | 0, _ => .error unterminated
  | fuel + 1, cs => do
    let cs := skip cs
    match cs with
    | [] => throw (endOfFile "")
    | '(' :: rest => do
      let (body, rest) ← readList true fuel rest
      match skipLines rest.length rest with
      | ')' :: rest => do
        let (rs, rest) ← redirections rest.length [] rest
        pure (.subshell body rs, rest)
      | rest => throw (if rest.isEmpty then endOfFile ")" else misplaced rest)
    | c :: _ =>
      if endsWord c && c != '<' && c != '>' then throw (misplaced cs)
      else
        let word := bareWord cs
        let rest := cs.drop word.length
        if word = "\x7b" then do
          let (body, rest) ← readList true fuel rest
          let rest ← expect "\x7d" rest
          let (rs, rest) ← redirections rest.length [] rest
          pure (.group body rs, rest)
        else if word = "if" then readChoice fuel rest
        else if word = "while" || word = "until" then do
          let (condition, rest) ← readList true fuel rest
          let (body, rest) ← readBody fuel rest
          pure (.loop (word = "until") condition body, rest)
        else if word = "for" then do
          let name := bareWord (skip rest)
          if !isName name then throw "Syntax error: Bad for loop variable"
          let rest := skipLines rest.length ((skip rest).drop name.length)
          let (words, rest) ← if bareWord rest = "in" then wordsToEnd rest.length [] (rest.drop 2)
            else pure ([[.parameter "@" none true]], match rest with
              | ';' :: rest => rest
              | rest => rest)
          let (body, rest) ← readBody fuel rest
          pure (.each name words body, rest)
        else if word = "case" then do
          let (w, rest) ← readWord (skip rest)
          let rest ← expect "in" rest
          let (arms, rest) ← readArms fuel [] rest
          pure (.cases w arms, rest)
        else if closers.contains word then throw (unexpected word)
        else match isName word, skip rest with
          | true, '(' :: after => match skip after with
            | ')' :: after => do
              let (body, rest) ← readCommand fuel (skipLines after.length after)
              pure (.define word body, rest)
            | after => throw (misplaced after)
          | _, _ => simpleCommand (cs.length + 1) [] [] [] cs

/-- The condition, the branches and the end of a choice. -/
def readChoice : Nat → List Char → Except String (Script × List Char)
  | 0, _ => .error unterminated
  | fuel + 1, cs => do
    let (condition, rest) ← readList true fuel cs
    let rest ← expect "then" rest
    let (yes, rest) ← readList true fuel rest
    let rest := skipLines rest.length rest
    if bareWord rest = "elif" then do
      let (no, rest) ← readChoice fuel (rest.drop 4)
      pure (.choice condition yes no, rest)
    else if bareWord rest = "else" then do
      let (no, rest) ← readList true fuel (rest.drop 4)
      let rest ← expect "fi" rest
      pure (.choice condition yes no, rest)
    else do
      let rest ← expect "fi" rest
      pure (.choice condition yes .nothing, rest)

/-- The body of a loop. -/
def readBody : Nat → List Char → Except String (Script × List Char)
  | 0, _ => .error unterminated
  | fuel + 1, cs => do
    let rest ← expect "do" cs
    let (body, rest) ← readList true fuel rest
    let rest ← expect "done" rest
    pure (body, rest)

/-- The arms of a distinction of cases. -/
def readArms : Nat → List (List Word × Script) → List Char →
    Except String (List (List Word × Script) × List Char)
  | 0, _, _ => .error unterminated
  | fuel + 1, arms, cs => do
    let cs := skipLines cs.length cs
    if bareWord cs = "esac" then pure (arms, cs.drop 4)
    else if cs.isEmpty then throw (endOfFile "esac")
    else do
      let (ps, rest) ← patterns cs.length [] (match cs with
        | '(' :: rest => rest
        | rest => rest)
      let (body, rest) ← readList true fuel rest
      match skipLines rest.length rest with
      | ';' :: ';' :: rest => readArms fuel (arms ++ [(ps, body)]) rest
      | rest => do
        let rest ← expect "esac" rest
        pure (arms ++ [(ps, body)], rest)

end

/-- The commands of the next line; nothing at the end of the script. -/
def nextLine (cs : List Char) : Except String (Option (Script × List Char)) :=
  match skipLines cs.length cs with
  | [] => .ok none
  | cs => do
    if closers.contains (bareWord cs) then throw (unexpected (bareWord cs))
    let (script, rest) ← readList false (8 * cs.length + 8) cs
    match skip rest with
    | [] => pure (some (script, []))
    | '\n' :: rest => pure (some (script, rest))
    | rest => throw (misplaced rest)

end TaskGraph.Shell
