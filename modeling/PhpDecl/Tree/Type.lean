import PhpDecl.Tree.Comment
import PhpDecl.Tree.Error

/-!
# Type annotations

* `TypeExpr`: a named type, a nullable type or a union; parts may be missing;
* `TypeExpr.ofPiece`, `TypeExpr.ofChars`, `TypeExpr.ofText`: the annotation that a source text
  stands for, none for a blank text;
* `TypeExpr.text`: the source text of an annotation, or why it has none.
-/

namespace PhpDecl

/-- A type annotation. A missing part is `none`. -/
inductive TypeExpr where
  | named (comments : List Comment) (name : String)
  | nullable (comments : List Comment) (inner : Option TypeExpr)
  | union (comments : List Comment) (parts : List (Option TypeExpr))
  /-- A type this library does not know. -/
  | foreign (comments : List Comment) (typeName : String)

namespace TypeExpr

/-- The comments in front of a type. -/
def comments : TypeExpr → List Comment
  | .named cs _ | .nullable cs _ | .union cs _ | .foreign cs _ => cs

/-! ## Reading -/

/-- The annotation of a text without `|`: white space around it and around a leading `?` does not
count. -/
def ofPiece : List Char → Option TypeExpr
  | [] => none
  | c :: cs =>
    if Text.isBlank c then ofPiece cs
    else if c = '?' then some (.nullable [] (ofPiece cs))
    else some (.named [] (String.ofList (Text.trimEnd (c :: cs))))

/-- The annotation of a list of characters: a union of its pieces when it holds a `|`. -/
def ofChars (cs : List Char) : Option TypeExpr :=
  if '|' ∈ cs then some (.union [] ((cs.splitOn '|').map ofPiece)) else ofPiece cs

/-- The annotation that a source text stands for. -/
def ofText (s : String) : Option TypeExpr := ofChars s.toList

/-! ## Writing -/

mutual

/-- The source text of an annotation. -/
def text : TypeExpr → Except TreeError String
  | .named _ name => .ok name
  | .nullable _ inner => (partText inner).map ("?" ++ ·)
  | .union _ parts => (partTexts parts).map "|".intercalate
  | .foreign _ typeName => .error (.unsupportedType typeName)

/-- The text of a part that may be missing. -/
def partText : Option TypeExpr → Except TreeError String
  | none => .error .nilType
  | some t => t.text

/-- The texts of the parts of a union, up to the first that has none. -/
def partTexts : List (Option TypeExpr) → Except TreeError (List String)
  | [] => .ok []
  | p :: ps => (partText p).bind fun s => (partTexts ps).map (s :: ·)

end

end TypeExpr

end PhpDecl
