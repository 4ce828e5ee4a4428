import PhpDecl.Text.Quoted

/-!
# What is wrong with a tree

* `TreeError`: the causes for which a tree has no text, with the declarations around the place;
* `TreeError.message`: their wording.
-/

namespace PhpDecl

/-- Why a tree, or a part of one, has no text. -/
inductive TreeError where
  /-- There is no declaration to print. -/
  | nothing
  | nilNode
  | nilClass
  | nilItem
  | nilStatement
  | nilExpression
  | nilType
  /-- An element of a type that no renderer knows. -/
  | unsupportedNode (typeName : String)
  | unsupportedExpression (typeName : String)
  | unsupportedType (typeName : String)
  | methodWithoutName
  | functionWithoutName
  | parameterWithoutName
  | propertyWithoutItems
  | constWithoutItems
  | constWithoutValue (name : String)
  | useWithoutTraits
  | unknownModifier (word : String)
  /-- A fault inside a class, a method or a function of the given name. -/
  | inClass (name : String) (cause : TreeError)
  | inMethod (name : String) (cause : TreeError)
  | inFunction (name : String) (cause : TreeError)
  deriving DecidableEq, Repr

namespace TreeError

/-- What every message about a tree starts with, after the declarations around the fault. -/
def heading : String := "malformed tree"

/-- The wording of a cause. -/
def message : TreeError → String
  | .nothing => heading
  | .nilNode => heading ++ ": nil node"
  | .nilClass => heading ++ ": nil class"
  | .nilItem => heading ++ ": nil list item"
  | .nilStatement => heading ++ ": nil statement"
  | .nilExpression => heading ++ ": nil expression"
  | .nilType => heading ++ ": nil type"
  | .unsupportedNode t => heading ++ ": unsupported node " ++ t
  | .unsupportedExpression t => heading ++ ": unsupported expression " ++ t
  | .unsupportedType t => heading ++ ": unsupported type " ++ t
  | .methodWithoutName => heading ++ ": method without name"
  | .functionWithoutName => heading ++ ": function without name"
  | .parameterWithoutName => heading ++ ": parameter without name"
  | .propertyWithoutItems => heading ++ ": property without items"
  | .constWithoutItems => heading ++ ": const without items"
  | .constWithoutValue name => heading ++ ": const " ++ name ++ " without value"
  | .useWithoutTraits => heading ++ ": trait use without traits"
  | .unknownModifier word => heading ++ ": unknown modifier " ++ Text.quoted word
  | .inClass name cause => "class " ++ name ++ ": " ++ cause.message
  | .inMethod name cause => "method " ++ name ++ ": " ++ cause.message
  | .inFunction name cause => "function " ++ name ++ ": " ++ cause.message

end TreeError

end PhpDecl
