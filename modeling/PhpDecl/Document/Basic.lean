/-!
# Declaration documents

A declaration document describes one class. Texts that a document leaves out are empty, and parts
that it leaves out are `none`.

* `Document.Value`: a value with several alternatives, of which at most one should be set;
* `Document.Assignment`, `Document.Statement`, `Document.Parameter`, `Document.Member`,
  `Document.Class`: the parts of a class;
* `Document`: the whole.
-/

namespace PhpDecl

namespace Document

/-- A value. -/
structure Value where
  string : Option String := none
  int : Option Int := none
  const : String := ""
  var : String := ""
  /-- A field of the object itself. -/
  property : String := ""
  deriving DecidableEq, Repr

/-- An assignment to a variable or to a field of the object itself. -/
structure Assignment where
  var : String := ""
  property : String := ""
  value : Value := {}
  deriving DecidableEq, Repr

/-- A statement of a method body. -/
structure Statement where
  comments : List String := []
  call : String := ""
  args : List Value := []
  var : String := ""
  assign : Option Assignment := none
  ret : Option Value := none
  nop : Bool := false
  deriving DecidableEq, Repr

/-- A parameter of a method. -/
structure Parameter where
  name : String := ""
  type : String := ""
  modifiers : List String := []
  attributes : List String := []
  comments : List String := []
  byRef : Bool := false
  variadic : Bool := false
  default : Option Value := none
  deriving DecidableEq, Repr

/-- A member of a class. -/
structure Member where
  kind : String := ""
  name : String := ""
  modifiers : List String := []
  attributes : List String := []
  comments : List String := []
  type : String := ""
  returns : String := ""
  byRef : Bool := false
  params : List Parameter := []
  body : List Statement := []
  traits : List String := []
  value : Option Value := none
  deriving DecidableEq, Repr

/-- A class. -/
structure Class where
  name : String := ""
  modifiers : List String := []
  parent : String := ""
  implements : List String := []
  attributes : List String := []
  comments : List String := []
  members : List Member := []
  deriving DecidableEq, Repr

end Document

/-- A declaration document. -/
structure Document where
  content : Option Document.Class := none
  deriving DecidableEq, Repr

end PhpDecl
