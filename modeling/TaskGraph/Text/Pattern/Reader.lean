import TaskGraph.Text.Pattern.Basic
import TaskGraph.Text.Pattern.Class
import TaskGraph.Text.Blank

/-!
# Reading patterns

Patterns are written with `|` for a choice, `*`, `+`, `?` and braces for repetition, brackets for sets and
parentheses for groups. Conditions on what stands around a place and references to earlier groups belong
to a wider notation. As long as a pattern does without them it is plain: fewer escapes and groups are
known, and the classes of digits, blanks and word characters hold characters of plain texts only. Behind
the first of them all of the wider notation is known, and the classes of the whole pattern are wide.
-/

set_option autoImplicit false

namespace TaskGraph.Pattern

/-- How far reading has come. -/
structure Reading where
  rest : List Char
  style : Style
  /-- The number of groups that have been opened. -/
  groups : Nat
  names : List (String × Nat)
  /-- The groups that are referred to. -/
  referenced : List Nat
  /-- Whether a group is referred to by its number. -/
  byNumber : Bool
  deriving Repr, DecidableEq

namespace Reading

/-- With another rest. -/
def goOn (r : Reading) (rest : List Char) : Reading := { r with rest := rest }

/-- The rest behind blanks and remarks that do not count. -/
def skip (r : Reading) : Reading := r.goOn (skipSpace r.style r.rest)

/-- In the wider notation. -/
def widen (r : Reading) : Reading := { r with style := { r.style with plain := false } }

/-- With one more group. -/
def openGroup (r : Reading) : Reading := { r with groups := r.groups + 1 }

/-- With a name for the group opened last. -/
def name (r : Reading) (s : String) : Reading := { r with names := (s, r.groups) :: r.names }

/-- With a reference to a group. -/
def refer (r : Reading) (index : Nat) : Reading := { r with referenced := index :: r.referenced }

end Reading

/-- What reading a part gives: the part, and what comes after it. -/
abbrev Part := Option (Pattern × Reading)

/-! ## Repetitions -/

/-- Decimal digits at the beginning of a text. -/
def digits? (cs : List Char) : Option (Nat × List Char) :=
  match cs.takeWhile Char.isDigit with
  | [] => none
  | ds => some (ds.foldl (fun n c => 10 * n + (c.toNat - 48)) 0, cs.dropWhile Char.isDigit)

/-- Blanks passed over. -/
def skipBlanks (cs : List Char) : List Char := cs.dropWhile Text.isBlank

/-- Whether the bounds behind an opening brace are well formed in the plain notation: a number, or two
with a comma, or the first with a comma, blanks between them. -/
def plainBounds (cs : List Char) : Bool :=
  match digits? (skipBlanks cs) with
  | none => false
  | some (least, cs) => match skipBlanks cs with
    | '\x7d' :: _ => true
    | ',' :: cs => match skipBlanks cs with
      | '\x7d' :: _ => true
      | cs => match digits? cs with
        | some (most, cs) => (skipBlanks cs).head? = some '\x7d' && least ≤ most
        | none => false
    | _ => false

/-- The bounds of a repetition behind its opening brace. -/
def bounds? (style : Style) (cs : List Char) : Option (Nat × Option Nat × List Char) :=
  let cs := skipSpace style cs
  let first : Option (Nat × List Char) := match cs with
    | ',' :: _ => some (0, cs)
    | cs => digits? cs
  match first with
  | none => none
  | some (least, cs) => match skipSpace style cs with
    | '\x7d' :: cs => some (least, some least, cs)
    | ',' :: cs =>
      let cs := skipSpace style cs
      let (most, cs) := match digits? cs with
        | some (most, cs) => (some most, cs)
        | none => (none, cs)
      match skipSpace style cs with
      | '\x7d' :: cs => some (least, most, cs)
      | _ => none
    | _ => none

/-- A sign at the beginning of a text. -/
def sign (c : Char) (cs : List Char) : Bool × List Char :=
  match cs with
  | d :: rest => if d = c then (true, rest) else (false, cs)
  | [] => (false, [])

/-- A repetition of a part behind its bounds; `?` makes it rare, `+` takes its preferred way for good. -/
def repetition? (least : Nat) (most : Option Nat) (p : Pattern) (r : Reading) : Part :=
  if !isRepeatable p then none
  else if most.any (· < least) then none
  else
    let r := r.skip
    let (swapped, rest) := sign '?' r.rest
    let greedy := swapped == r.style.rare
    let (kept, rest) := sign '+' rest
    let p := Pattern.repeated least most greedy p
    some (if kept then .once p else p, r.goOn rest)

/-- Applies the repetition that follows a part, if one does. A brace that does not begin one stands for
itself. -/
def quantified? (p : Pattern) (r : Reading) : Part :=
  let r := r.skip
  match r.rest with
  | '*' :: cs => repetition? 0 none p (r.goOn cs)
  | '+' :: cs => repetition? 1 none p (r.goOn cs)
  | '?' :: cs => repetition? 0 (some 1) p (r.goOn cs)
  | '\x7b' :: cs =>
    if r.style.plain && !plainBounds cs then none
    else match bounds? r.style cs with
      | some (least, most, cs) => repetition? least most p (r.goOn cs)
      | none => some (p, r)
  | _ => some (p, r)

/-! ## Single characters and references -/

/-- One character. -/
def literal (style : Style) (c : Char) : Pattern := .one (.foldedIf style.anyCase (.single c))

/-- A character of a name. -/
def isNameChar (c : Char) : Bool := Text.isAlphanumeric c || c = '_'

/-- A name up to a sign that ends it. -/
def nameUpTo? (close : Char) (cs : List Char) : Option (String × List Char) :=
  match cs.span isNameChar with
  | ([], _) => none
  | (name, c :: rest) => if c = close then some (String.ofList name, rest) else none
  | (_, []) => none

/-- A reference to a group by its number; `bytes` is the length of the whole pattern, and a number that
could not occur in one of that length is refused. -/
def numbered? (bytes : Nat) (cs : List Char) (r : Reading) : Part :=
  match digits? cs with
  | some (index, rest) =>
    if index < bytes / 2 ∧ index ≤ r.groups then
      some (.same index, { (r.refer index).goOn rest with byNumber := true })
    else none
  | none => none

/-- A reference to a group by its name, or by a number as its name. -/
def named? (close : Char) (cs : List Char) (r : Reading) : Part :=
  match nameUpTo? close cs with
  | some (name, rest) =>
    let index := match r.names.lookup name with
      | some i => some i
      | none => name.toNat?
    match index with
    | some i => if i ≤ r.groups then some (.same i, (r.refer i).goOn rest) else none
    | none => none
  | none => none

/-- A condition on the place, behind a backslash. -/
def condition? : Char → Option Pattern
  | 'A' => some .start
  | 'z' => some .finish
  | 'b' => some (.boundary true)
  | 'B' => some (.boundary false)
  | '<' => some .wordStart
  | '>' => some .wordFinish
  | _ => none

/-- What stands behind a backslash. -/
def escaped? (bytes : Nat) (r : Reading) (cs : List Char) : Part :=
  match cs with
  | c :: rest =>
    if c.isDigit then numbered? bytes cs r.widen
    else match condition? c with
      | some p => some (p, r.goOn rest)
      | none => match r.style.plain, c, rest with
        | false, 'k', '<' :: rest => named? '>' rest r
        | false, 'k', '\'' :: rest => named? '\'' rest r
        | false, 'K', rest => some (.once .empty, r.goOn rest)
        | false, 'G', rest => some (.once .start, r.goOn rest)
        | _, _, _ => (escape? r.style cs).map fun (e, rest) => match e with
          | .char c => (literal r.style c, r.goOn rest)
          | .set s => (.one s, r.goOn rest)
  | [] => none

/-! ## Groups -/

/-- What a group does with its body. -/
inductive GroupKind where
  | kept (index : Nat)
  | unkept
  | once
  | ahead (present : Bool)
  | behind (present : Bool)
  deriving Repr, DecidableEq

/-- The part that a group makes of its body. -/
def GroupKind.enclose? : GroupKind → Pattern → Option Pattern
  | kept index, p => some (.group index p)
  | unkept, p => some p
  | once, p => some (.once p)
  | ahead present, p => some (.ahead present p)
  | behind present, p => behind? present p

/-- Whether a name can be given to a group. -/
def nameAllowed (r : Reading) (name : String) : Bool :=
  !r.style.plain ||
    (!(name.toList.head?.any fun c => Text.inRuns (Text.Category.runsOf Text.Category.numbers) c) &&
      (r.names.lookup name).isNone)

/-- A group with a name. -/
def namedGroup? (r : Reading) (cs : List Char) : Option (GroupKind × Reading) :=
  match nameUpTo? '>' cs with
  | some (name, rest) =>
    if nameAllowed r name then
      let r := (r.openGroup.name name).goOn rest
      some (.kept r.groups, r)
    else none
  | none => none

/-- Changes a style by the letter of a flag. -/
def flagged? (style : Style) (on : Bool) : Char → Option Style
  | 'i' => some { style with anyCase := on }
  | 'm' => some { style with lines := on }
  | 's' => some { style with dotAll := on }
  | 'U' => some { style with rare := on }
  | 'x' => some { style with spaced := on }
  | 'u' => if on then some style else none
  | _ => none

/-- Flags up to the sign that ends them, which is returned; each flag stands once, and one at least stands
behind a hyphen. -/
def flags? : Style → Bool → List Char → List Char → Option (Style × Char × List Char)
  | _, _, _, [] => none
  | style, on, seen, c :: cs =>
    if c = ')' ∨ c = ':' then
      if seen.head? = some '-' then none
      else if c = ')' ∧ seen.isEmpty then none
      else some (style, c, cs)
    else if c = '-' then if on then flags? style false ('-' :: seen) cs else none
    else if style.plain && seen.contains c then none
    else match flagged? style on c with
      | some style => flags? style on (c :: seen) cs
      | none => none

/-- What stands behind an opening parenthesis: the head of a group, or flags for what comes after. -/
inductive Head where
  | group (kind : GroupKind) (inside : Reading) (styleAfter : Option Style)
  | flags (after : Reading)

/-- Reads what stands behind an opening parenthesis. -/
def head? (r : Reading) (cs : List Char) : Option Head :=
  let group := fun (kind : GroupKind) (r : Reading) => some (Head.group kind r none)
  match cs with
  | '?' :: '=' :: cs => group (.ahead true) (r.widen.goOn cs)
  | '?' :: '!' :: cs => group (.ahead false) (r.widen.goOn cs)
  | '?' :: '<' :: '=' :: cs => group (.behind true) (r.widen.goOn cs)
  | '?' :: '<' :: '!' :: cs => group (.behind false) (r.widen.goOn cs)
  | '?' :: '<' :: cs => (namedGroup? r cs).map fun (kind, r) => .group kind r none
  | '?' :: 'P' :: '<' :: cs => (namedGroup? r cs).map fun (kind, r) => .group kind r none
  | '?' :: '>' :: cs => if r.style.plain then none else group .once (r.goOn cs)
  | '?' :: cs => match flags? r.style true [] cs with
    | some (style, ':', cs) =>
      some (.group .unkept { r.goOn cs with style := style } (some r.style))
    | some (style, _, cs) => some (.flags { r.goOn cs with style := style })
    | none => none
  | cs => group (.kept (r.groups + 1)) (r.openGroup.goOn cs)

/-- The style behind a group whose flags end with it; the notation stays as wide as it has become. -/
def styleBehind (inside : Style) : Option Style → Style
  | some style => { style with plain := style.plain && inside.plain }
  | none => inside

/-! ## Patterns -/

mutual

/-- Reads alternatives up to a closing parenthesis or the end. -/
def choice? (bytes : Nat) : Nat → Reading → Part
  | 0, _ => none
  | fuel + 1, r => match sequence? bytes fuel false r with
    | none => none
    | some (p, r) => match r.rest with
      | '|' :: cs => (choice? bytes fuel (r.goOn cs)).map fun (q, r) => (.choice p q, r)
      | _ => if r.byNumber && !r.names.isEmpty then none else some (p, r)

/-- Reads parts one after the other; `behindPart` tells whether there is one in front. -/
def sequence? (bytes : Nat) : Nat → Bool → Reading → Part
  | 0, _, _ => none
  | fuel + 1, behindPart, r =>
    let r := r.skip
    match r.rest with
    | [] => some (.empty, r)
    | '|' :: _ | ')' :: _ => some (.empty, r)
    | _ => match part? bytes fuel behindPart r with
      | none => none
      | some (p, r) => match quantified? p r with
        | none => none
        | some (p, r) =>
          (sequence? bytes fuel (p != .empty) r).map fun (q, r) => (.sequence p q, r)

/-- Reads one part without its repetition. -/
def part? (bytes : Nat) : Nat → Bool → Reading → Part
  | 0, _, _ => none
  | fuel + 1, behindPart, r => match r.rest with
    | '(' :: cs => match head? r cs with
      | none => none
      | some (.flags r) => some (.empty, r)
      | some (.group kind inside style) => match choice? bytes fuel inside with
        | some (p, r) => match r.rest with
          | ')' :: cs => (kind.enclose? p).map fun p =>
              (p, { r.goOn cs with style := styleBehind r.style style })
          | _ => none
        | none => none
    | '[' :: cs => (set? r.style (2 * cs.length + 2) cs).map fun (s, cs) => (.one s, r.goOn cs)
    | '.' :: cs =>
      some (.one (if r.style.dotAll then .all else .outside (.single '\n')), r.goOn cs)
    | '^' :: cs => some (if r.style.lines then .lineStart else .start, r.goOn cs)
    | '$' :: cs => some (if r.style.lines then .lineFinish else .finish, r.goOn cs)
    | '\\' :: cs => escaped? bytes r cs
    | '*' :: _ | '+' :: _ | '?' :: _ => none
    | '\x7b' :: cs =>
      if r.style.plain && !(behindPart && plainBounds cs) then none
      else some (literal r.style '\x7b', r.goOn cs)
    | c :: cs => some (literal r.style c, r.goOn cs)
    | [] => none

end

/-- Reads a whole pattern with narrow or wide classes. -/
def readWith (narrow : Bool) (s : String) : Part :=
  let cs := s.toList
  let style : Style := ⟨true, narrow, false, false, false, false, false⟩
  match choice? s.utf8ByteSize (4 * cs.length + 4) ⟨cs, style, 0, [], [], false⟩ with
  | some (p, r) => if r.rest.isEmpty then some (keepGroups r.referenced p, r) else none
  | none => none

/-- Reads a pattern. -/
def parse? (s : String) : Option Pattern :=
  match readWith true s with
  | some (p, r) => if r.style.plain then some p else (readWith false s).map Prod.fst
  | none => none

end TaskGraph.Pattern
