/-!
# Paths

* `splitSlash`, `parts`, `isAbsolute`: the parts of a path between its slashes;
* `clean`, `join`: the shortest path to the same place, as far as its text shows, and a name in a
  directory;
* `ancestors`: a path and the directories around it, as far as its text shows.
-/

namespace PhpDecl.Path

/-- A text between its slashes. -/
def splitSlash : List Char → List (List Char)
  | [] => [[]]
  | c :: cs =>
    if c = '/' then [] :: splitSlash cs
    else
      match splitSlash cs with
      | [] => [[c]]
      | p :: ps => (c :: p) :: ps

/-- The parts of a path between its slashes. -/
def parts (path : String) : List String := (splitSlash path.toList).map String.ofList

/-- The path starts at the root. -/
def isAbsolute (path : String) : Bool := path.toList.head? = some '/'

/-- One more part behind those of a clean path, which stand in reverse order. -/
def pushPart (absolute : Bool) (before : List String) (part : String) : List String :=
  if part = "" || part = "." then before
  else if part = ".." then
    match before with
    | [] => if absolute then [] else [".."]
    | p :: rest => if p = ".." then ".." :: before else rest
  else part :: before

/-- The parts of the shortest path to the same place. -/
def cleanParts (path : String) : List String :=
  ((parts path).foldl (pushPart (isAbsolute path)) []).reverse

/-- The shortest path to the same place. -/
def clean (path : String) : String :=
  let ps := cleanParts path
  if isAbsolute path then "/" ++ "/".intercalate ps
  else if ps.isEmpty then "."
  else "/".intercalate ps

/-- The clean path of a name in a directory. -/
def join (dir name : String) : String := clean (dir ++ "/" ++ name)

/-- A path in reverse order without its last part, if something is left of it. -/
def dropLast? (reversed : List Char) : Option (List Char) :=
  match (reversed.dropWhile (· = '/')).dropWhile (· ≠ '/') with
  | _ :: c :: rest => some (c :: rest)
  | _ => none

/-- A path in reverse order and those around it. -/
def ancestorsFrom : Nat → List Char → List (List Char)
  | 0, p => [p]
  | steps + 1, p =>
    match dropLast? p with
    | some q => p :: ancestorsFrom steps q
    | none => [p]

/-- A path and the directories around it, the innermost first. -/
def ancestors (path : String) : List String :=
  (ancestorsFrom path.length path.toList.reverse).map fun p => String.ofList p.reverse

end PhpDecl.Path
