/-!
# Shell scripts

The scripts that the built-in shell runs: simple commands, pipelines, lists, conditions, loops,
functions and groups. What a word holds inside `$(…)`, `$((…))` and `${…}` stays text until the word is
expanded.
-/

set_option autoImplicit false

namespace TaskGraph.Shell

/-- A part of a word. A quoted part is not split into fields. -/
inductive Part where
  | text (s : String) (quoted : Bool)
  /-- The value of a parameter, perhaps changed by an operator with a word. -/
  | parameter (name : String) (change : Option (String × String)) (quoted : Bool)
  /-- The output of a script. -/
  | output (script : String) (quoted : Bool)
  | arithmetic (expression : String) (quoted : Bool)
  deriving Repr, DecidableEq

/-- A word. -/
abbrev Word := List Part

/-- How a stream is redirected. -/
inductive Direction where
  | read
  | write
  | append
  | duplicate
  deriving Repr, DecidableEq

/-- A redirected stream. -/
structure Redirection where
  stream : Nat
  direction : Direction
  target : Word
  deriving Repr, DecidableEq

/-- A script. -/
inductive Script where
  | nothing
  | simple (assignments : List (String × Word)) (words : List Word) (redirections : List Redirection)
  | pipeline (negated : Bool) (stages : List Script)
  | both (first second : Script)
  | either (first second : Script)
  | sequence (first second : Script)
  | choice (condition yes no : Script)
  /-- Runs the body as long as the condition succeeds, or as long as it fails. -/
  | loop (whileFails : Bool) (condition body : Script)
  | each (name : String) (words : List Word) (body : Script)
  | cases (word : Word) (arms : List (List Word × Script))
  | define (name : String) (body : Script)
  | group (body : Script) (redirections : List Redirection)
  /-- Runs the body without effect on the variables outside. -/
  | subshell (body : Script) (redirections : List Redirection)
  deriving Repr, Inhabited

end TaskGraph.Shell
