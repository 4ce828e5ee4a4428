import PhpDecl.Command.Plan

/-!
# Commands in a world

A world has files, an input, an output and a log. A command takes one world to the next. Files can
be kept in any way that answers to reading, writing and making directories.

* `Storage`: ways to keep files, with those of `FileSystem`;
* `World`, `World.perform`, `World.performAll`, `World.carryOut`: worlds, and plans carried out;
* `World.renderPath`, `World.renderPaths`: render one document after the other, up to the first
  error;
* `World.run`: run a command line.
-/

namespace PhpDecl

/-- A way to keep files. What fails may have been done in part. -/
class Storage (σ : Type) where
  /-- The content of a file. A directory can be opened, but has no content. -/
  read : σ → (path : String) → Except FileError (Option (List UInt8))
  /-- Write a file, in place of one that is there. -/
  write : σ → (path : String) → (content : List UInt8) → σ × Option FileError
  /-- Make a directory and the directories around it, as far as they are missing. -/
  makeDirectories : σ → (path : String) → σ × Option FileError

instance : Storage FileSystem where
  read := FileSystem.read
  write fs path content :=
    match fs.write path content with
    | .ok files => (files, none)
    | .error e => (fs, some e)
  makeDirectories := FileSystem.makeDirectories

/-- What a command can reach. -/
structure World (σ : Type := FileSystem) where
  files : σ
  /-- What is on the input. -/
  input : List UInt8 := []
  /-- What was printed. -/
  output : String := ""
  /-- What was logged. -/
  log : String := ""
  /-- Why nothing can be printed, if so. -/
  outputFault : Option String := none

namespace World

variable {σ : Type} [Storage σ]

/-- A world after a step, and the error of that step. -/
abbrev Result (σ : Type) := World σ × Option CommandError

/-- Do one thing. -/
def perform (w : World σ) : Action → Result σ
  | .print text =>
    match w.outputFault with
    | some message => (w, some (.output message))
    | none => ({ w with output := w.output ++ text }, none)
  | .makeDirectories path =>
    let (files, e) := Storage.makeDirectories w.files path
    ({ w with files }, e.map .file)
  | .write path text =>
    let (files, e) := Storage.write w.files path text.toUTF8.toList
    ({ w with files }, e.map .file)
  | .log line => ({ w with log := w.log ++ line }, none)

/-- Do one thing after the other, up to the first error. -/
def performAll (w : World σ) : List Action → Result σ
  | [] => (w, none)
  | a :: rest =>
    match w.perform a with
    | (w, none) => performAll w rest
    | (w, some e) => (w, some e)

/-- Carry out a plan. -/
def carryOut (w : World σ) (p : Plan) : Result σ :=
  match w.performAll p.actions with
  | (w, none) => (w, p.fault)
  | (w, some e) => (w, some e)

/-- Render the document at a path. -/
def renderPath (o : RenderOptions) (w : World σ) (path : String) : Result σ :=
  match Storage.read w.files path with
  | .error e => (w, some (.file e))
  | .ok content => w.carryOut (planDocument o path content)

/-- Render the documents at paths, up to the first error. -/
def renderPaths (o : RenderOptions) (w : World σ) : List String → Result σ
  | [] => (w, none)
  | path :: rest =>
    match w.renderPath o path with
    | (w, none) => renderPaths o w rest
    | (w, some e) => (w, some e)

/-- Run a command. -/
def invoke (version : String) (w : World σ) : Invocation → Result σ
  | .help => w.carryOut planHelp
  | .version => w.carryOut (planVersion version)
  | .formats => w.carryOut planFormats
  | .render o [] => w.carryOut (planInput o w.input)
  | .render o paths => w.renderPaths o paths

/-- Run a command line. -/
def run (version : String) (args : List String) (w : World σ) : Result σ :=
  match Invocation.ofArgs version args with
  | .error e => (w, some (.usage e))
  | .ok i => w.invoke version i

end World

end PhpDecl
