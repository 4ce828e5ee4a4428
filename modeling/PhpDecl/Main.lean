import PhpDecl.Command.World

/-!
# The program

Plans are carried out on the files, the input and the output of the system.

* `Program.readFile`, `Program.perform`, `Program.carryOut`: what is done there;
* `main`: run the command line.
-/

namespace PhpDecl.Program

/-- The version that is shown. -/
def version : String := "dev"

/-- The cause of an error of the system. -/
def causeOf : IO.Error → FileCause
  | .noFileOrDirectory .. => .notFound
  | .inappropriateType .. => .notDirectory
  | .alreadyExists .. => .alreadyThere
  | .invalidArgument .. => .invalidName
  | e => .other (toString e)

/-- The number of the error of the system that a directory cannot be read. -/
def directoryCode : UInt32 := 21

/-- The content of a file. A directory has none. -/
def readFile (path : String) : IO (Except FileError (Option (List UInt8))) := do
  try
    let bytes ← IO.FS.readBinFile path
    return .ok (some bytes.toList)
  catch e =>
    match e with
    | .inappropriateType _ code _ =>
      if code = directoryCode then return .ok none
      else return .error ⟨.opening, path, causeOf e⟩
    | _ => return .error ⟨.opening, path, causeOf e⟩

/-- All bytes that are left on the input, behind those read already. -/
partial def readAll (input : IO.FS.Stream) (before : ByteArray) : IO ByteArray := do
  let chunk ← input.read 65536
  if chunk.isEmpty then return before else readAll input (before ++ chunk)

/-- Do one thing. -/
def perform : Action → IO (Option CommandError)
  | .print text => do
    try
      let output ← IO.getStdout
      output.putStr text
      output.flush
      return none
    catch e => return some (.output (toString e))
  | .makeDirectories path => do
    try
      IO.FS.createDirAll path
      return none
    catch e =>
      let cause :=
        match e with
        | .alreadyExists .. => .notDirectory
        | e => causeOf e
      return some (.file ⟨.makingDirectory, path, cause⟩)
  | .write path text => do
    try
      IO.FS.writeFile path text
      return none
    catch e => return some (.file ⟨.opening, path, causeOf e⟩)
  | .log line => do
    IO.eprint line
    return none

/-- Do one thing after the other, up to the first error. -/
def performAll : List Action → IO (Option CommandError)
  | [] => return none
  | a :: rest => do
    match ← perform a with
    | none => performAll rest
    | some e => return some e

/-- Carry out a plan. -/
def carryOut (p : Plan) : IO (Option CommandError) := do
  match ← performAll p.actions with
  | none => return p.fault
  | some e => return some e

/-- Render the documents at paths, up to the first error. -/
def renderPaths (o : RenderOptions) : List String → IO (Option CommandError)
  | [] => return none
  | path :: rest => do
    match ← readFile path with
    | .error e => return some (.file e)
    | .ok content =>
      match ← carryOut (planDocument o path content) with
      | none => renderPaths o rest
      | some e => return some e

/-- Run a command. -/
def invoke : Invocation → IO (Option CommandError)
  | .help => carryOut planHelp
  | .version => carryOut (planVersion version)
  | .formats => carryOut planFormats
  | .render o [] => do
    if o.format = "" then carryOut (planInput o [])
    else
      let bytes ← readAll (← IO.getStdin) .empty
      carryOut (planInput o bytes.toList)
  | .render o paths => renderPaths o paths

/-- Run a command line. -/
def run (args : List String) : IO (Option CommandError) :=
  match Invocation.ofArgs version args with
  | .error e => return some (.usage e)
  | .ok i => invoke i

end PhpDecl.Program

/-- Run the command line, and show the error if there is one. -/
def main (args : List String) : IO UInt32 := do
  match ← PhpDecl.Program.run args with
  | none => return 0
  | some e =>
    IO.eprintln e.message
    return 1
