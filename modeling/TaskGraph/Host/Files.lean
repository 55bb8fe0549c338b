import TaskGraph.Fault

/-!
# Files

What a command line sees of a file system: what stands at each path. A path that leads through
something that is no directory stands for nothing that can be opened.
-/

set_option autoImplicit false

namespace TaskGraph

/-- What stands at a path. -/
inductive Entry where
  | file (text : String)
  | directory
  | missing
  /-- The path leads through a file. -/
  | blocked
  deriving Repr, DecidableEq

namespace Entry

/-- Whether something stands there. -/
def isPresent : Entry → Bool
  | file _ | directory => true
  | missing | blocked => false

/-- The text of a file, or why there is none. -/
def read : Entry → Except String String
  | file text => .ok text
  | directory => .error "Is a directory (os error 21)"
  | missing => .error "No such file or directory (os error 2)"
  | blocked => .error "Not a directory (os error 20)"

end Entry

/-- What stands at each path. -/
abbrev Files := String → Entry

namespace Files

/-- The parts of a path; blank ones and single points lead nowhere. -/
def parts (path : String) : List String := (path.splitOn "/").filter fun p => p != "" && p != "."

/-- What stands at a way below a root, among files at given ways. -/
def at_ (files : List (List String × String)) (way : List String) : Entry :=
  match files.find? fun f => f.1 == way with
  | some f => .file f.2
  | none =>
    if way.isEmpty || files.any fun f => way.isPrefixOf f.1 then .directory else .missing

/-- Follows the parts of a path from a way below a root. -/
def follow (files : List (List String × String)) : List String → List String → Entry
  | way, [] => at_ files way
  | way, p :: ps => match at_ files way with
    | .directory => follow files (if p = ".." then way.dropLast else way ++ [p]) ps
    | .file _ => .blocked
    | e => e

/-- The files of a directory that is the working directory; outside of it there are the root, an empty
device, and the directories that every system has. -/
def ofTexts (texts : List (String × String)) : Files := fun path =>
  let inside := texts.map fun f => (parts f.1, f.2)
  let outside : List (List String × String) :=
    [(["dev", "null"], ""), (["tmp", ""], ""), (["usr", "bin", ""], ""), (["bin", ""], ""),
      (["etc", ""], ""), (["var", ""], ""), (["home", ""], "")]
  if path.isEmpty then .missing
  else
    let e := if path.startsWith "/" then follow outside [] (parts path) else follow inside [] (parts path)
    match e with
    | .file text => if path.endsWith "/" then .blocked else .file text
    | e => e

end Files

end TaskGraph
