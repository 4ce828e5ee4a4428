import PhpDecl.Command.FileSystem
import PhpDecl.Command.Invocation
import PhpDecl.Command.Log
import PhpDecl.Document.Read
import PhpDecl.SourceFile

/-!
# Plans

What a command does is laid out before anything is done: a list of actions, and perhaps the error
that comes after them. A document that cannot be rendered has a plan that writes nothing but the
log.

* `CommandError`, `CommandError.message`: how a command can fail;
* `Action`, `Plan`: what is to be done;
* `RenderOptions.formatOf`: the format of a document;
* `planDocument`, `planInput`: the plan for a document, and for the one on the input;
* `planVersion`, `planFormats`, `planHelp`: the plans of the other commands.
-/

namespace PhpDecl

/-! ## Errors -/

/-- How a command can fail. -/
inductive CommandError where
  | usage (e : UsageError)
  /-- The document on the input has no file name to go by. -/
  | formatRequired
  | file (e : FileError)
  | format (e : FormatError)
  | document (name : String) (e : DocumentError)
  | tree (name : String) (e : Failure)
  /-- The output takes no text. -/
  | output (message : String)
  deriving DecidableEq, Repr

/-- The wording of an error. -/
def CommandError.message : CommandError → String
  | .usage e => e.message
  | .formatRequired => "--format is required when reading stdin"
  | .file e => e.message
  | .format e => e.message
  | .document name e => name ++ ": " ++ e.message
  | .tree name e => name ++ ": " ++ e.message
  | .output message => message

/-! ## Actions -/

/-- One thing to do. -/
inductive Action where
  | print (text : String)
  | makeDirectories (path : String)
  | write (path text : String)
  | log (line : String)
  deriving DecidableEq, Repr

/-- Things to do one after the other, and the error to end with. -/
structure Plan where
  actions : List Action := []
  fault : Option CommandError := none
  deriving DecidableEq, Repr

/-- The plan to do nothing but fail. -/
def Plan.fail (e : CommandError) : Plan := { fault := some e }

/-! ## Documents -/

/-- The format of the document with a name: the one asked for, else that of the file name. -/
def RenderOptions.formatOf (o : RenderOptions) (name : String) : Except FormatError Format :=
  if o.format ≠ "" then Format.ofName o.format else Format.ofPath name

/-- The log lines of notes, if they are asked for. -/
def noteActions (verbose : Bool) (notes : List Note) : List Action :=
  if verbose then (notes.filterMap Note.logLine?).map fun l => .log (l ++ "\n") else []

/-- The path of the file for a class. -/
def RenderOptions.destination (o : RenderOptions) (className : String) : String :=
  Path.join o.out (className ++ ".php")

/-- What is to be done with the text of a class. -/
def deliver (o : RenderOptions) (name className text : String) : List Action :=
  if o.out = "" then [.print text]
  else
    let dest := o.destination className
    [.makeDirectories o.out, .write dest text,
      .log (Log.line "INFO" "Rendered" [("src", name), ("dest", dest)])]

/-- The plan for a class that was read from the document with a name. -/
def planClass (o : RenderOptions) (name : String) (c : ClassDecl) : Plan :=
  let printed := printFile defaultStyle (some c.toStmt)
  let notes := noteActions o.verbose printed.notes
  match printed.result with
  | .ok text => { actions := notes ++ deliver o name c.head.name text }
  | .error e => { actions := notes, fault := some (.tree name e) }

/-- The class that a document describes; there may be nothing to read. -/
def classOf (format : Format) : Option (List UInt8) → Except DocumentError ClassDecl
  | some bytes => readClass format bytes
  | none => .error .unreadable

/-- The plan for the document with a name and a content. -/
def planDocument (o : RenderOptions) (name : String) (content : Option (List UInt8)) : Plan :=
  match o.formatOf name with
  | .error e => .fail (.format e)
  | .ok format =>
    match classOf format content with
    | .error e => .fail (.document name e)
    | .ok c => planClass o name c

/-- The plan for the document on the input. -/
def planInput (o : RenderOptions) (content : List UInt8) : Plan :=
  if o.format = "" then .fail .formatRequired else planDocument o "stdin" (some content)

/-! ## Other commands -/

/-- The plan to show the version. -/
def planVersion (version : String) : Plan :=
  { actions := [.print (programName ++ " version " ++ version ++ "\n")] }

/-- The plan to list the formats. -/
def planFormats : Plan := { actions := Format.all.map fun f => .print (f.name ++ "\n") }

/-- How the program is used. -/
def usageText : String :=
  "Usage:\n  " ++ programName ++ " render [files...] [-f format] [-o directory] [-v]\n  " ++
    programName ++ " formats\n"

/-- The plan to show how the program is used. -/
def planHelp : Plan := { actions := [.print usageText] }

end PhpDecl
