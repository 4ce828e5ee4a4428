import PhpDecl.Document.Basic

/-!
# The form of documents

What a document looks like does not depend on its format: a record of named parts, some of them
lists or further records. A format reads its own values into `Data` along a `Shape`, and
documents are made from `Data`.

* `Shape`, `Shape.document`: forms, and the form of a document;
* `Data`, `Shape.zero`: data of some form, and what is there before anything was read;
* `Shape.inner`, `Shape.present`: the form, and the earlier data, of a part that is there;
* `Data.field`, `Data.setField`, `Data.asText`, `Data.asTexts`, …: access to data;
* `Document.ofData`: the document with the given data.
-/

namespace PhpDecl

/-- The form of a part of a document. -/
inductive Shape where
  | text
  | integer
  | flag
  | list (item : Shape)
  | record (fields : List (String × Shape))
  /-- A part that may be missing. -/
  | optional (inner : Shape)

/-- Data of some form. -/
inductive Data where
  | text (s : String)
  | integer (n : Int)
  | flag (b : Bool)
  /-- A list, and behind its end what a longer list left in the same place. -/
  | list (items : List Data) (left : List Data)
  | record (fields : List (String × Data))
  /-- A missing part. -/
  | absent
  deriving Inhabited

namespace Shape

mutual

/-- What is there before anything was read. -/
def zero : Shape → Data
  | .text => .text ""
  | .integer => .integer 0
  | .flag => .flag false
  | .list _ => .list [] []
  | .record fields => .record (zeroFields fields)
  | .optional _ => .absent

/-- The fields of a record before anything was read. -/
def zeroFields : List (String × Shape) → List (String × Data)
  | [] => []
  | (name, shape) :: rest => (name, shape.zero) :: zeroFields rest

end

/-- The form of a part once it is there. -/
def inner : Shape → Shape
  | .optional s => s
  | s => s

/-- The data to read over, once a part that may be missing is there. -/
def present : Shape → Data → Data
  | .optional s, .absent => s.zero
  | _, d => d

/-! ## The form of documents -/

/-- The form of a list of texts. -/
def texts : Shape := .list .text

/-- The form of a value. -/
def value : Shape :=
  .record [("string", .optional .text), ("int", .optional .integer), ("const", .text),
    ("var", .text), ("property", .text)]

/-- The form of an assignment. -/
def assignment : Shape := .record [("var", .text), ("property", .text), ("value", value)]

/-- The form of a statement. -/
def statement : Shape :=
  .record [("comments", texts), ("call", .text), ("args", .list value), ("var", .text),
    ("assign", .optional assignment), ("return", .optional value), ("nop", .flag)]

/-- The form of a parameter. -/
def parameter : Shape :=
  .record [("name", .text), ("type", .text), ("modifiers", texts), ("attributes", texts),
    ("comments", texts), ("by_ref", .flag), ("variadic", .flag), ("default", .optional value)]

/-- The form of a member. -/
def member : Shape :=
  .record [("kind", .text), ("name", .text), ("modifiers", texts), ("attributes", texts),
    ("comments", texts), ("type", .text), ("returns", .text), ("by_ref", .flag),
    ("params", .list parameter), ("body", .list statement), ("traits", texts),
    ("value", .optional value)]

/-- The form of a class. -/
def classShape : Shape :=
  .record [("name", .text), ("modifiers", texts), ("extends", .text), ("implements", texts),
    ("attributes", texts), ("comments", texts), ("members", .list member)]

/-- The form of a document. -/
def document : Shape := .record [("class", .optional classShape)]

end Shape

/-! ## Access to data -/

namespace Data

/-- The field of a record, absent where there is none. -/
def field (d : Data) (name : String) : Data :=
  match d with
  | .record fields => (fields.lookup name).getD .absent
  | _ => .absent

/-- The record with a new value for a field. -/
def setField (d : Data) (name : String) (v : Data) : Data :=
  match d with
  | .record fields => .record (fields.map fun f => if f.1 = name then (f.1, v) else f)
  | other => other

/-- The text, empty if there is none. -/
def asText : Data → String
  | .text s => s
  | _ => ""

/-- The flag, off if there is none. -/
def asFlag : Data → Bool
  | .flag b => b
  | _ => false

/-- The text, if there is one. -/
def asText? : Data → Option String
  | .text s => some s
  | _ => none

/-- The integer, if there is one. -/
def asInteger? : Data → Option Int
  | .integer n => some n
  | _ => none

/-- The items of a list. -/
def items : Data → List Data
  | .list xs _ => xs
  | _ => []

/-- The texts of a list. -/
def asTexts (d : Data) : List String := d.items.map asText

/-- A part made from the data, if there are any. -/
def asOptional {α : Type} (f : Data → α) : Data → Option α
  | .absent => none
  | d => some (f d)

end Data

/-! ## Documents from data -/

namespace Document

/-- The value with the given data. -/
def Value.ofData (d : Data) : Value where
  string := (d.field "string").asText?
  int := (d.field "int").asInteger?
  const := (d.field "const").asText
  var := (d.field "var").asText
  property := (d.field "property").asText

/-- The assignment with the given data. -/
def Assignment.ofData (d : Data) : Assignment where
  var := (d.field "var").asText
  property := (d.field "property").asText
  value := .ofData (d.field "value")

/-- The statement with the given data. -/
def Statement.ofData (d : Data) : Statement where
  comments := (d.field "comments").asTexts
  call := (d.field "call").asText
  args := (d.field "args").items.map Value.ofData
  var := (d.field "var").asText
  assign := (d.field "assign").asOptional Assignment.ofData
  ret := (d.field "return").asOptional Value.ofData
  nop := (d.field "nop").asFlag

/-- The parameter with the given data. -/
def Parameter.ofData (d : Data) : Parameter where
  name := (d.field "name").asText
  type := (d.field "type").asText
  modifiers := (d.field "modifiers").asTexts
  attributes := (d.field "attributes").asTexts
  comments := (d.field "comments").asTexts
  byRef := (d.field "by_ref").asFlag
  variadic := (d.field "variadic").asFlag
  default := (d.field "default").asOptional Value.ofData

/-- The member with the given data. -/
def Member.ofData (d : Data) : Member where
  kind := (d.field "kind").asText
  name := (d.field "name").asText
  modifiers := (d.field "modifiers").asTexts
  attributes := (d.field "attributes").asTexts
  comments := (d.field "comments").asTexts
  type := (d.field "type").asText
  returns := (d.field "returns").asText
  byRef := (d.field "by_ref").asFlag
  params := (d.field "params").items.map Parameter.ofData
  body := (d.field "body").items.map Statement.ofData
  traits := (d.field "traits").asTexts
  value := (d.field "value").asOptional Value.ofData

/-- The class with the given data. -/
def Class.ofData (d : Data) : Class where
  name := (d.field "name").asText
  modifiers := (d.field "modifiers").asTexts
  parent := (d.field "extends").asText
  implements := (d.field "implements").asTexts
  attributes := (d.field "attributes").asTexts
  comments := (d.field "comments").asTexts
  members := (d.field "members").items.map Member.ofData

/-- The document with the given data. -/
def ofData (d : Data) : Document where
  content := (d.field "class").asOptional Class.ofData

end Document

end PhpDecl
