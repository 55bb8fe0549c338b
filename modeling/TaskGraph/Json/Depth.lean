import TaskGraph.Json.Basic

/-!
# The size of values

How deep the parts of a value are nested, and how many there are. Both bound the work on a value.
-/

set_option autoImplicit false

namespace TaskGraph.Json

mutual

/-- The number of containers around the innermost value. -/
def depth : Json → Nat
  | .arr xs => depthItems xs + 1
  | .obj m => depthMembers m + 1
  | _ => 0

/-- The largest depth of an item. -/
def depthItems : List Json → Nat
  | [] => 0
  | x :: xs => max (depth x) (depthItems xs)

/-- The largest depth of a member. -/
def depthMembers : List (String × Json) → Nat
  | [] => 0
  | (_, v) :: m => max (depth v) (depthMembers m)

end

mutual

/-- The number of values inside a value, itself included. -/
def size : Json → Nat
  | .arr xs => sizeItems xs + 1
  | .obj m => sizeMembers m + 1
  | _ => 1

/-- The number of values inside items. -/
def sizeItems : List Json → Nat
  | [] => 0
  | x :: xs => size x + sizeItems xs

/-- The number of values inside members. -/
def sizeMembers : List (String × Json) → Nat
  | [] => 0
  | (_, v) :: m => size v + sizeMembers m

end

end TaskGraph.Json
