import TaskGraph.Text.Pattern.Set

/-!
# Patterns

A pattern describes texts. `ways` lists the matches that begin at a place, the preferred one first; a
text matches when a match begins anywhere in it. The order matters only where the first way is taken
for good, in `once` and in the groups that `same` refers to.
-/

set_option autoImplicit false

namespace TaskGraph

/-- A description of texts. -/
inductive Pattern where
  | empty
  | one (set : CharSet)
  | sequence (first second : Pattern)
  | choice (first second : Pattern)
  /-- So many times at least, and so many times at most if there is a bound; as often as possible, or
  as rarely. -/
  | repeated (least : Nat) (most : Option Nat) (greedy : Bool) (body : Pattern)
  | start
  | finish
  | lineStart
  | lineFinish
  /-- Between a word character and something else, or anywhere but there. -/
  | boundary (present : Bool)
  | wordStart
  | wordFinish
  /-- What follows matches, or does not. -/
  | ahead (present : Bool) (body : Pattern)
  /-- So many characters in front match, or do not. -/
  | behind (present : Bool) (width : Nat) (body : Pattern)
  /-- The preferred way only. -/
  | once (body : Pattern)
  /-- What the body matches is kept under a number. -/
  | group (index : Nat) (body : Pattern)
  /-- What a group has matched last. -/
  | same (index : Nat)
  deriving Repr, DecidableEq

namespace Pattern

/-- How far a match has come: to a place, with the beginnings and ends of the groups so far. -/
structure Progress where
  place : Nat
  groups : List (Nat × Nat × Nat)
  deriving Repr, DecidableEq

namespace Progress

/-- One character further. -/
def next (s : Progress) : Progress := { s with place := s.place + 1 }

/-- With the stretch of a group. -/
def keep (s : Progress) (index first last : Nat) : Progress :=
  { s with groups := (index, first, last) :: s.groups.filter fun g => g.1 != index }

end Progress

/-! ## Places -/

/-- Whether a word character stands at a place. -/
def wordAt (cs : Array Char) (i : Nat) : Bool :=
  match cs[i]? with
  | some c => Text.isWordCharacter c
  | none => false

/-- Whether a word character stands in front of a place. -/
def wordBefore (cs : Array Char) (i : Nat) : Bool := i != 0 && wordAt cs (i - 1)

/-- Whether a line begins at a place. -/
def lineStartsAt (cs : Array Char) (i : Nat) : Bool := i == 0 || cs[i - 1]? == some '\n'

/-- Whether a line ends at a place. -/
def lineEndsAt (cs : Array Char) (i : Nat) : Bool := i == cs.size || cs[i]? == some '\n'

/-- Whether a text has the same characters in two stretches of a length. -/
def sameStretch (cs : Array Char) (i j length : Nat) : Bool :=
  j + length ≤ cs.size && (List.range length).all fun k => cs[i + k]? == cs[j + k]?

/-! ## Matching -/

/-- The states after a number of steps. -/
def stepped (step : Progress → List Progress) : Nat → List Progress → List Progress
  | 0, states => states
  | n + 1, states => stepped step n ((states.flatMap step).eraseDups)

/-- Adds a state to those found if it is new. -/
def noted (found : List (Nat × Progress)) (s : Nat × Progress) : List (Nat × Progress) :=
  if found.contains s then found else found ++ [s]

/-- The states after at most a number of steps, beside those found before, the preferred one first. A
step that does not go on is not taken. Where the number of steps matters, a state is new with every
number that is left. -/
def repetitions (step : Progress → List Progress) (greedy counted : Bool) :
    Nat → List (Nat × Progress) → Progress → List (Nat × Progress)
  | 0, found, s => noted found (0, s)
  | left + 1, found, s =>
    let mark := (if counted then left + 1 else 0, s)
    if found.contains mark then found
    else
      let next := (step s).filter fun t => s.place < t.place
      if greedy then
        noted (next.foldl (fun found t => repetitions step greedy counted left found t) found) mark
      else next.foldl (fun found t => repetitions step greedy counted left found t) (found ++ [mark])

/-- A state if a condition holds. -/
def only (holds : Bool) (s : Progress) : List Progress := if holds then [s] else []

/-- The ways to match from a state, the preferred one first, each with the state at its end. -/
def ways (cs : Array Char) : Pattern → Progress → List Progress
  | .empty, s => [s]
  | .one set, s => match cs[s.place]? with
    | some c => only (set.contains c) s.next
    | none => []
  | .sequence p q, s => ((ways cs p s).flatMap (ways cs q)).eraseDups
  | .choice p q, s => (ways cs p s ++ ways cs q s).eraseDups
  | .repeated least most greedy p, s =>
    let step := ways cs p
    let (counted, more) := match most with
      | some m => (true, m - least)
      | none => (false, cs.size + 1)
    let found := (stepped step least [s]).foldl
      (fun found t => repetitions step greedy counted more found t) []
    (found.map Prod.snd).eraseDups
  | .start, s => only (s.place == 0) s
  | .finish, s => only (s.place == cs.size) s
  | .lineStart, s => only (lineStartsAt cs s.place) s
  | .lineFinish, s => only (lineEndsAt cs s.place) s
  | .boundary present, s => only ((wordAt cs s.place != wordBefore cs s.place) == present) s
  | .wordStart, s => only (wordAt cs s.place && !wordBefore cs s.place) s
  | .wordFinish, s => only (!wordAt cs s.place && wordBefore cs s.place) s
  | .ahead present p, s => match ways cs p s with
    | [] => only (!present) s
    | t :: _ => only present { t with place := s.place }
  | .behind present width p, s =>
    if s.place < width then only (!present) s
    else match ways cs p { s with place := s.place - width } with
      | [] => only (!present) s
      | t :: _ => only present { t with place := s.place }
  | .once p, s => (ways cs p s).take 1
  | .group index p, s => (ways cs p s).map fun t => t.keep index s.place t.place
  | .same index, s => match s.groups.lookup index with
    | some (first, last) =>
      only (sameStretch cs first s.place (last - first)) { s with place := s.place + (last - first) }
    | none => []

/-- Whether a text holds a match. -/
def matchesIn (p : Pattern) (s : String) : Bool :=
  let cs := s.toList.toArray
  (List.range (cs.size + 1)).any fun i => !(ways cs p ⟨i, []⟩).isEmpty

/-! ## Parts -/

/-- Whether a pattern can be repeated: it is more than a condition on a place. -/
def isRepeatable : Pattern → Bool
  | .empty | .start | .finish | .lineStart | .lineFinish | .boundary _ | .wordStart | .wordFinish
  | .ahead _ _ | .behind _ _ _ => false
  | _ => true

/-- The number of characters of every match, if it is fixed. -/
def width? : Pattern → Option Nat
  | .one _ => some 1
  | .sequence p q => do
    let m ← width? p
    let n ← width? q
    some (m + n)
  | .choice p q => do
    let m ← width? p
    let n ← width? q
    if m = n then some m else none
  | .repeated least most _ p => do
    let n ← width? p
    if most = some least then some (least * n) else none
  | .once p | .group _ p => width? p
  | .same _ => none
  | _ => some 0

/-- What stands in front matches, or does not; each alternative needs a fixed width. -/
def behind? (present : Bool) (p : Pattern) : Option Pattern :=
  match width? p, p with
  | some n, p => some (.behind present n p)
  | none, .choice p q => do
    let n ← width? p
    let rest ← behind? present q
    let first := Pattern.behind present n p
    some (if present then .choice first rest else .sequence first rest)
  | none, _ => none

/-- Keeps the groups with some numbers only. -/
def keepGroups (kept : List Nat) : Pattern → Pattern
  | .sequence p q => .sequence (keepGroups kept p) (keepGroups kept q)
  | .choice p q => .choice (keepGroups kept p) (keepGroups kept q)
  | .repeated least most greedy p => .repeated least most greedy (keepGroups kept p)
  | .ahead present p => .ahead present (keepGroups kept p)
  | .behind present n p => .behind present n (keepGroups kept p)
  | .once p => .once (keepGroups kept p)
  | .group index p =>
    if kept.contains index then .group index (keepGroups kept p) else keepGroups kept p
  | p => p

end Pattern

end TaskGraph
