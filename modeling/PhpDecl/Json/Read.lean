import PhpDecl.Document.Shape
import PhpDecl.Json.Value
import PhpDecl.Text.Fold

/-!
# JSON documents

A JSON value is read over what is already there: a repeated name reads a record field by field, a
list item by item, and `null` leaves texts, flags and records as they are.

* `integer?`: the integer of a number in 64 bits;
* `fieldShape?`: the field of a record that a name stands for, up to case;
* `Value.readOver`: read a value of some form over earlier data;
* `readDocument?`: the data of a document.
-/

namespace PhpDecl.Json

/-- The integer of a number without fraction and exponent, if it fits in a signed word of 64
bits. -/
def integer? : List Char → Option Int
  | '-' :: ds => (Text.valueOf? 10 ds).bind (Text.int64? true)
  | ds => (Text.valueOf? 10 ds).bind (Text.int64? false)

/-- The field that a name stands for: the one of that name, else one of that name up to case. -/
def fieldShape? (fields : List (String × Shape)) (name : String) : Option (String × Shape) :=
  match fields.find? fun f => f.1 = name with
  | some f => some f
  | none => fields.find? fun f => Text.sameFold name f.1

/-- What `null` leaves: no list, no part that may be missing, and all else as it was. -/
def readNull : Shape → Data → Data
  | .list _, _ => .list [] []
  | .optional _, _ => .absent
  | _, d => d

mutual

/-- Read a value of some form over earlier data. -/
def Value.readOver : Value → Shape → Data → Option Data
  | .null, shape, d => some (readNull shape d)
  | .bool b, shape, _ =>
    match shape.inner with
    | .flag => some (.flag b)
    | _ => none
  | .number cs, shape, _ =>
    match shape.inner with
    | .integer => (integer? cs).map .integer
    | _ => none
  | .string s, shape, _ =>
    match shape.inner with
    | .text => some (.text s)
    | _ => none
  | .array items, shape, d =>
    match shape.inner, shape.present d with
    | .list item, .list before left =>
      if items.isEmpty then some (.list [] []) else readItems items item (before ++ left)
    | _, _ => none
  | .object members, shape, d =>
    match shape.inner with
    | .record fields => readMembers members fields (shape.present d)
    | _ => none

/-- Read items over the places of an earlier list. -/
def readItems : List Value → Shape → List Data → Option Data
  | [], _, places => some (.list [] places)
  | v :: rest, item, places => do
    let d ← v.readOver item (places.head?.getD item.zero)
    match ← readItems rest item places.tail with
    | .list ds left => return .list (d :: ds) left
    | _ => none

/-- Read members over an earlier record. -/
def readMembers : List (String × Value) → List (String × Shape) → Data → Option Data
  | [], _, d => some d
  | (name, v) :: rest, fields, d => do
    let (field, shape) ← fieldShape? fields name
    let new ← v.readOver shape (d.field field)
    readMembers rest fields (d.setField field new)

end

/-- The data of a document. -/
def readDocument? (bytes : List UInt8) : Option Data := do
  let v ← Value.ofTokens? (tokens (Text.Utf8.decodeLossy bytes))
  v.readOver Shape.document Shape.document.zero

end PhpDecl.Json
