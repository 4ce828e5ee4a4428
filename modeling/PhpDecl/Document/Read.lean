import PhpDecl.Document.Build
import PhpDecl.Format
import PhpDecl.Json.Read
import PhpDecl.Toml.Read
import PhpDecl.Yaml.Read

/-!
# Reading documents

* `Document.read`: the document in a text of some format;
* `readClass`: the class that such a text describes.
-/

namespace PhpDecl

/-- The data of a document, or a text that has none. -/
def dataOr : Option Data → Except DocumentError Data
  | some d => .ok d
  | none => .error .unreadable

/-- The document that bytes hold in a format. -/
def Document.read (format : Format) (bytes : List UInt8) : Except DocumentError Document := do
  let data ←
    match format with
    | .json => dataOr (Json.readDocument? bytes)
    | .toml => Toml.readDocument bytes
    | .yaml => dataOr (Yaml.readDocument? bytes)
  return .ofData data

/-- The class that bytes describe in a format. -/
def readClass (format : Format) (bytes : List UInt8) : Except DocumentError ClassDecl := do
  let doc ← Document.read format bytes
  doc.toClass

end PhpDecl
