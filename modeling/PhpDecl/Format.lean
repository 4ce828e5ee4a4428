import PhpDecl.Text.Lower
import PhpDecl.Text.Quoted

/-!
# Document formats

* `Format`, `Format.all`, `Format.name`: the formats of declaration documents;
* `Format.ofName`, `Format.ofPath`: the format with a name, and the one of a file name;
* `FormatError`, `FormatError.message`: why there is none.
-/

namespace PhpDecl

/-- The encoding of a declaration document. -/
inductive Format where
  | yaml | json | toml
  deriving DecidableEq, Repr

/-- Why a format was not found. -/
inductive FormatError where
  | unknownName (name : String)
  | unknownExtension (extension : String)
  deriving DecidableEq, Repr

/-- The wording of a format error. -/
def FormatError.message : FormatError → String
  | .unknownName name => "unsupported format: " ++ Text.quoted name
  | .unknownExtension ext => "unsupported format: extension " ++ Text.quoted ext

namespace Format

/-- All formats. -/
def all : List Format := [.yaml, .json, .toml]

/-- The name of a format. -/
def name : Format → String
  | .yaml => "yaml"
  | .json => "json"
  | .toml => "toml"

/-- The format with a name. -/
def ofName (name : String) : Except FormatError Format :=
  match all.find? fun f => f.name == name with
  | some f => .ok f
  | none => .error (.unknownName name)

/-- The extension of a path: its last component from the last point on. -/
def extensionOf (path : String) : String :=
  let base := path.toList.reverse.takeWhile (· != '/')
  if '.' ∈ base then String.ofList ('.' :: (base.takeWhile (· != '.')).reverse) else ""

/-- The format that the extension of a path stands for, in upper or lower case. -/
def ofPath (path : String) : Except FormatError Format :=
  let ext := Text.lower (extensionOf path)
  if ext = ".yaml" || ext = ".yml" then .ok .yaml
  else if ext = ".json" then .ok .json
  else if ext = ".toml" then .ok .toml
  else .error (.unknownExtension ext)

end Format

end PhpDecl
