import PhpDecl.Tree.Error

/-!
# What is wrong with a document

* `DocumentError`: the causes for which a document describes no class;
* `DocumentError.message`: their wording;
* `Sentinel`, `TreeError.sentinel`, `DocumentError.sentinel`: what callers tell errors apart by.
-/

namespace PhpDecl

/-- Why a document describes no class. -/
inductive DocumentError where
  /-- The text is not written in its format, or does not have the form of a document. -/
  | unreadable
  | unknownKey (path : String)
  | missingClass
  | classWithoutName
  /-- Another error, of which nothing but the text is kept. -/
  | quoting (text : String)
  | unknownKind (kind : String)
  | methodWithoutName
  | abstractWithBody (method : String)
  | propertyWithoutName
  | constNeedsNameAndValue
  | constWithEmptyValue (name : String)
  | useWithoutTraits
  | parameterWithoutName
  | assignmentWithoutTarget
  | assignmentWithoutValue
  | emptyArgument (call : String)
  | emptyStatement
  | severalAlternatives (count : Nat)
  /-- A fault in the member with an index. -/
  | inMember (className : String) (index : Nat) (cause : DocumentError)
  | inMethod (name : String) (cause : DocumentError)
  deriving DecidableEq, Repr

namespace DocumentError

/-- What every message about a document starts with, after the parts around the fault. -/
def heading : String := "invalid document"

/-- The wording of a cause. -/
def message : DocumentError → String
  | .unreadable => heading ++ ": <decoder>"
  | .unknownKey path => heading ++ ": unknown key " ++ Text.quoted path
  | .missingClass => heading ++ ": missing class"
  | .classWithoutName => heading ++ ": class without name"
  | .quoting text => heading ++ ": " ++ text
  | .unknownKind kind => heading ++ ": unknown member kind " ++ Text.quoted kind
  | .methodWithoutName => heading ++ ": method without name"
  | .abstractWithBody method => heading ++ ": abstract method " ++ method ++ " with body"
  | .propertyWithoutName => heading ++ ": property without name"
  | .constNeedsNameAndValue => heading ++ ": const needs a name and a value"
  | .constWithEmptyValue name => heading ++ ": const " ++ name ++ " has an empty value"
  | .useWithoutTraits => heading ++ ": use without traits"
  | .parameterWithoutName => heading ++ ": parameter without name"
  | .assignmentWithoutTarget => heading ++ ": assignment without target"
  | .assignmentWithoutValue => heading ++ ": assignment without value"
  | .emptyArgument call => heading ++ ": empty argument to " ++ call
  | .emptyStatement => heading ++ ": empty statement"
  | .severalAlternatives count => heading ++ ": value sets " ++ count.repr ++ " alternatives"
  | .inMember className index cause =>
    "class " ++ className ++ " member " ++ index.repr ++ ": " ++ cause.message
  | .inMethod name cause => "method " ++ name ++ ": " ++ cause.message

end DocumentError

/-! ## Telling errors apart -/

/-- The sorts of error that callers tell apart, whatever the wording. -/
inductive Sentinel where
  | malformedTree | unsupportedFormat | invalidDocument
  deriving DecidableEq, Repr

/-- The text of a sentinel. -/
def Sentinel.text : Sentinel → String
  | .malformedTree => TreeError.heading
  | .unsupportedFormat => "unsupported format"
  | .invalidDocument => DocumentError.heading

/-- The sentinel at the end of the causes of a fault in a tree. -/
def TreeError.sentinel : TreeError → Sentinel
  | .inClass _ cause | .inMethod _ cause | .inFunction _ cause => cause.sentinel
  | _ => .malformedTree

/-- The sentinel at the end of the causes of a fault in a document. What is only quoted is not among
the causes. -/
def DocumentError.sentinel : DocumentError → Sentinel
  | .inMember _ _ cause | .inMethod _ cause => cause.sentinel
  | _ => .invalidDocument

end PhpDecl
