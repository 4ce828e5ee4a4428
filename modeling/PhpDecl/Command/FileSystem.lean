import PhpDecl.Command.Path

/-!
# Files and directories

A file system without links: every place that is not empty holds a file or a directory.

* `FileCause`, `FileError`, `FileError.message`: what can go wrong, and its wording;
* `Place`, `Entry`, `FileSystem`, `FileSystem.lookup`: places and what they hold;
* `FileSystem.resolve`: the place a path leads to;
* `FileSystem.read`, `FileSystem.write`, `FileSystem.makeDirectory`,
  `FileSystem.makeDirectories`: what programs do;
* `FileSystem.bare`, `FileSystem.install`, `FileSystem.listing`: a file system to start from, and
  the files below the current directory.
-/

namespace PhpDecl

/-! ## Errors -/

/-- Why a path cannot be used. -/
inductive FileCause where
  | notFound
  | notDirectory
  | isDirectory
  | alreadyThere
  | nameTooLong
  | invalidName
  /-- A cause that only the system itself can name. -/
  | other (message : String)
  deriving DecidableEq, Repr

/-- The wording of a cause. -/
def FileCause.message : FileCause → String
  | .notFound => "no such file or directory"
  | .notDirectory => "not a directory"
  | .isDirectory => "is a directory"
  | .alreadyThere => "file exists"
  | .nameTooLong => "file name too long"
  | .invalidName => "invalid argument"
  | .other message => message

/-- What was tried with a path. -/
inductive FileAttempt where
  | opening
  | makingDirectory
  deriving DecidableEq, Repr

/-- The wording of an attempt. -/
def FileAttempt.message : FileAttempt → String
  | .opening => "open"
  | .makingDirectory => "mkdir"

/-- An attempt that failed. -/
structure FileError where
  attempt : FileAttempt
  path : String
  cause : FileCause
  deriving DecidableEq, Repr

/-- The wording of an error. -/
def FileError.message (e : FileError) : String :=
  e.attempt.message ++ " " ++ e.path ++ ": " ++ e.cause.message

/-! ## Places -/

/-- A place: the names from the root down to it. -/
abbrev Place := List String

/-- What a place holds. -/
inductive Entry where
  | directory
  | file (content : List UInt8)
  deriving DecidableEq, Repr

/-- The places that hold something, and the current directory. -/
structure FileSystem where
  entries : List (Place × Entry)
  current : Place

namespace FileSystem

variable (fs : FileSystem)

/-- What a place holds. The root is always a directory. -/
def lookup (p : Place) : Option Entry :=
  if p = [] then some .directory else fs.entries.lookup p

/-- The file system after something was put in a place. -/
def insert (p : Place) (e : Entry) : FileSystem :=
  { fs with entries := (p, e) :: fs.entries.filter fun x => x.1 ≠ p }

/-- The place one part further. -/
def step (p : Place) (part : String) : Place :=
  if part = "" || part = "." then p
  else if part = ".." then p.dropLast
  else p ++ [part]

/-- The longest name of a file, in bytes. -/
def maxNameLength : Nat := 255

/-- The place that parts lead to. Every place on the way has to be a directory; the last one may
be empty. -/
def walk : Place → List String → Except FileCause Place
  | p, [] => .ok p
  | p, part :: rest =>
    match fs.lookup p with
    | none => .error .notFound
    | some (.file _) => .error .notDirectory
    | some .directory =>
      if part.utf8ByteSize > maxNameLength then .error .nameTooLong else walk (step p part) rest

/-- The place a path leads to. -/
def resolve (path : String) : Except FileCause Place :=
  if path = "" then .error .notFound
  else if path.toList.contains '\x00' then .error .invalidName
  else fs.walk (if Path.isAbsolute path then [] else fs.current) (Path.parts path)

/-- What a path leads to. -/
def stat (path : String) : Except FileCause Entry := do
  let p ← fs.resolve path
  match fs.lookup p with
  | some e => return e
  | none => throw .notFound

/-! ## Operations -/

/-- Name the attempt and the path of a cause. -/
def named {α : Type} (attempt : FileAttempt) (path : String) :
    Except FileCause α → Except FileError α
  | .ok a => .ok a
  | .error cause => .error ⟨attempt, path, cause⟩

/-- The content of a file. A directory can be opened, but has no content. -/
def read (path : String) : Except FileError (Option (List UInt8)) := do
  match ← named .opening path (fs.stat path) with
  | .file content => return some content
  | .directory => return none

/-- Write a file, in place of one that is there. -/
def write (path : String) (content : List UInt8) : Except FileError FileSystem :=
  named .opening path do
    let p ← fs.resolve path
    match fs.lookup p with
    | some .directory => throw .isDirectory
    | _ => return fs.insert p (.file content)

/-- A path without the slashes at its end. -/
def trimSlashes (path : String) : String :=
  String.ofList (path.toList.reverse.dropWhile (· = '/')).reverse

/-- Make a directory in a place that is empty. -/
def makeDirectory (path : String) : Except FileError FileSystem :=
  named .makingDirectory path do
    let p ← fs.resolve (trimSlashes path)
    match fs.lookup p with
    | some _ => throw .alreadyThere
    | none => return fs.insert p .directory

/-- The path leads to a directory. -/
def isDirectory (path : String) : Bool :=
  match fs.stat path with
  | .ok .directory => true
  | _ => false

/-- Make the first directory of a list of paths, and before it those after it that are missing. The
directories made before an error stay. -/
def makeChain : List String → FileSystem × Option FileError
  | [] => (fs, none)
  | path :: around =>
    match fs.stat path with
    | .ok .directory => (fs, none)
    | .ok (.file _) => (fs, some ⟨.makingDirectory, path, .notDirectory⟩)
    | .error _ =>
      match makeChain around with
      | (made, some e) => (made, some e)
      | (made, none) =>
        match made.makeDirectory path with
        | .ok made => (made, none)
        | .error e => (made, if made.isDirectory path then none else some e)

/-- Make a directory and the directories around it, as far as they are missing. -/
def makeDirectories (path : String) : FileSystem × Option FileError :=
  fs.makeChain (Path.ancestors path)

/-! ## File systems to start from -/

/-- The places on the way to a place, and the place itself. -/
def way (p : Place) : List Place := (List.range p.length).map fun n => p.take (n + 1)

/-- A file system with nothing but the way to the current directory. -/
def bare (current : Place) : FileSystem where
  entries := (way current).map fun p => (p, .directory)
  current := current

/-- A file put at a path below the current directory, with the directories around it. -/
def install (path : String) (content : List UInt8) : FileSystem :=
  let place := fs.current ++ Path.cleanParts path
  let around := (way place.dropLast).filter fun p => (fs.lookup p).isNone
  (around.foldl (fun fs p => fs.insert p .directory) fs).insert place (.file content)

/-- The files below the current directory, by their paths. -/
def listing : List (String × List UInt8) :=
  fs.entries.filterMap fun (p, e) =>
    match e with
    | .file content =>
      if fs.current.isPrefixOf p then
        some ("/".intercalate (p.drop fs.current.length), content)
      else none
    | .directory => none

end FileSystem

end PhpDecl
