import PhpDecl.Render.Node

/-!
# Source files

* `prologue`: the lines every file opens with;
* `defaultStyle`, `printFile`: a declaration as a file.
-/

namespace PhpDecl

/-- The lines every printed file opens with. -/
def prologue : String := "<?php\n\ndeclare(strict_types=1);\n\n"

/-- The style of files. -/
def defaultStyle : Style := .extended .standard

/-- A declaration behind the prologue. -/
def printFile (style : Style) : Option Stmt → Traced String
  | none => .malformed .nothing
  | some s => do
    let text ← prettyPrint style [some s]
    return prologue ++ text

end PhpDecl
