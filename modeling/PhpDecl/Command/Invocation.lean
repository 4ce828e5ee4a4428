import PhpDecl.Command.Flag
import PhpDecl.Text.Distance
import PhpDecl.Text.Lower

/-!
# What a command line asks for

* `RenderOptions`, `Invocation`: what can be asked for;
* `similarCommands`: the commands that a word may have been meant for;
* `Invocation.ofArgs`: what a command line asks for.
-/

namespace PhpDecl

/-- The name of the program. -/
def programName : String := "codeprint"

/-- How documents are rendered: the name of their format, empty to go by the file name, and the
directory of the files, empty to print them. -/
structure RenderOptions where
  format : String := ""
  out : String := ""
  verbose : Bool := false
  deriving DecidableEq, Repr

/-- What a command line asks for. -/
inductive Invocation where
  | help
  | version
  | formats
  | render (options : RenderOptions) (paths : List String)
  deriving DecidableEq, Repr

/-! ## Flags -/

/-- Log the decisions on layout. -/
def verboseFlag : Flag := { name := "verbose", letter := some 'v', isSwitch := true }

/-- Show how the program is used. -/
def helpFlag : Flag := { name := "help", letter := some 'h', isSwitch := true }

/-- Show the version. -/
def versionFlag : Flag := { name := "version", isSwitch := true }

/-- The format of documents. -/
def formatFlag : Flag := { name := "format", letter := some 'f' }

/-- The directory for files. -/
def outFlag : Flag := { name := "out", letter := some 'o' }

/-! ## Commands -/

/-- The commands that a word may have been meant for: those it starts, and those at a distance of
at most two letters. -/
def similarCommands (word : String) : List String :=
  let typed := Text.lower word
  ["render", "formats", "completion"].filter fun name =>
    typed.toList.isPrefixOf name.toList ||
      Text.editDistance (typed.toList.flatMap String.utf8EncodeChar)
        (name.toList.flatMap String.utf8EncodeChar) ≤ 2

namespace Invocation

/-- The command to render documents. -/
def ofRender (args : List String) : Except UsageError Invocation := do
  let p ← parseFlags [formatFlag, outFlag, verboseFlag, helpFlag] args
  if p.isOn "help" then return .help
  return .render
    { format := p.text "format", out := p.text "out", verbose := p.isOn "verbose" } p.arguments

/-- The command to list the formats, which takes no arguments. -/
def ofFormats (args : List String) : Except UsageError Invocation := do
  let p ← parseFlags [verboseFlag, helpFlag] args
  if p.isOn "help" then return .help
  match p.arguments with
  | [] => return .formats
  | a :: _ => throw (.unknownCommand a (programName ++ " formats") [])

/-- A command line without a command. There is a flag for the version if there is a version. -/
def ofFlags (version : String) (args : List String) : Except UsageError Invocation := do
  let flags := [verboseFlag, helpFlag] ++ (if version = "" then [] else [versionFlag])
  let p ← parseFlags flags args
  if !p.isOn "help" && p.isOn "version" then return .version
  return .help

/-- What a command line asks for. -/
def ofArgs (version : String) (args : List String) : Except UsageError Invocation :=
  match splitCommand [verboseFlag] args with
  | none => ofFlags version args
  | some (command, rest) =>
    if command = "render" then ofRender rest
    else if command = "formats" then ofFormats rest
    else if command = "help" || command = "completion" then .ok .help
    else .error (.unknownCommand command programName (similarCommands command))

end Invocation

end PhpDecl
