import PhpDecl.Document.Error
import PhpDecl.Document.Shape
import PhpDecl.Text.Fold
import PhpDecl.Text.Utf8
import PhpDecl.Toml.Table

/-!
# TOML documents

* `Key.text`: a key as it is written, its parts quoted where they have to be;
* `fieldShape?`: the field of a record that a key stands for, up to case;
* `Value.read`: read a value of some form;
* `knownKeys`: the keys of a table that stand for fields;
* `readDocument`: the data of a document, or what is wrong with it.
-/

namespace PhpDecl.Toml

/-! ## Keys as text -/

/-- How a character of a quoted key is written. -/
def keyChar (c : Char) : List Char :=
  match c with
  | '"' | '\\' => ['\\', c]
  | '\x08' => ['\\', 'b']
  | '\t' => ['\\', 't']
  | '\n' => ['\\', 'n']
  | '\x0c' => ['\\', 'f']
  | '\r' => ['\\', 'r']
  | _ =>
    if c.toNat < 0x20 || c.toNat = 0x7F then
      let digits := Nat.toDigits 16 c.toNat
      '\\' :: 'u' :: List.replicate (4 - digits.length) '0' ++ digits
    else [c]

/-- One part of a key as it is written. -/
def keyPartText (part : String) : String :=
  if part ≠ "" && part.toList.all isBareChar then part
  else String.ofList ('"' :: part.toList.flatMap keyChar ++ ['"'])

/-- A key as it is written. -/
def Key.text (key : Key) : String := ".".intercalate (key.map keyPartText)

/-! ## Reading -/

/-- The field that a key stands for: the one of that name, else the first of that name up to
case. -/
def fieldShape? (fields : List (String × Shape)) (name : String) : Option (String × Shape) :=
  match fields.find? fun f => f.1 = name with
  | some f => some f
  | none => fields.find? fun f => Text.sameFold name f.1

/-- Read a scalar of a form that cannot be missing. -/
def readScalar : Scalar → Shape → Option Data
  | .string s, .text => some (.text s)
  | .integer n, .integer => some (.integer n)
  | .bool b, .flag => some (.flag b)
  | _, _ => none

mutual

/-- Read a value of some form over earlier data. -/
def Value.read : Value → Shape → Data → Option Data
  | .scalar v, shape, _ => readScalar v shape.inner
  | .array items, shape, _ =>
    match shape.inner with
    | .list item => (readItems items item).map fun ds => .list ds []
    | _ => none
  | .tables ts, shape, _ =>
    match shape.inner with
    | .list item => (readTables ts item).map fun ds => .list ds []
    | _ => none
  | .table entries, shape, d =>
    match shape.inner with
    | .record fields => readFields entries fields (shape.present d)
    | _ => none

/-- Read the items of an array. -/
def readItems : List Value → Shape → Option (List Data)
  | [], _ => some []
  | v :: rest, item => do
    let d ← v.read item item.zero
    let ds ← readItems rest item
    return d :: ds

/-- Read the tables of an array of tables. -/
def readTables : List Table → Shape → Option (List Data)
  | [], _ => some []
  | t :: rest, item => do
    match item with
    | .record fields =>
      let d ← readFields t fields item.zero
      let ds ← readTables rest item
      return d :: ds
    | _ => none

/-- Read the entries of a table into the fields of a record; other entries are passed over. -/
def readFields : List (String × Value) → List (String × Shape) → Data → Option Data
  | [], _, d => some d
  | (name, v) :: rest, fields, d =>
    match fieldShape? fields name with
    | none => readFields rest fields d
    | some (field, shape) => do
      let new ← v.read shape (d.field field)
      readFields rest fields (d.setField field new)

end

/-- The record that a form holds, if it is one or may be one. -/
def recordFields? : Shape → Option (List (String × Shape))
  | .record fields => some fields
  | .optional (.record fields) => some fields
  | _ => none

mutual

/-- The keys below a value that stand for fields. -/
def Value.knownKeys : Value → Shape → Key → List Key
  | .table entries, shape, path =>
    match recordFields? shape with
    | some fields => entriesKnownKeys entries fields path
    | none => []
  | .array items, .list item, path => itemsKnownKeys items item path
  | .tables ts, .list item, path => tablesKnownKeys ts item path
  | _, _, _ => []

/-- The keys below the items of an array that stand for fields. -/
def itemsKnownKeys : List Value → Shape → Key → List Key
  | [], _, _ => []
  | v :: rest, item, path => v.knownKeys item path ++ itemsKnownKeys rest item path

/-- The keys below the tables of an array that stand for fields. -/
def tablesKnownKeys : List Table → Shape → Key → List Key
  | [], _, _ => []
  | t :: rest, item, path =>
    (match recordFields? item with
      | some fields => entriesKnownKeys t fields path
      | none => []) ++ tablesKnownKeys rest item path

/-- The keys of the entries of a table that stand for fields. -/
def entriesKnownKeys : List (String × Value) → List (String × Shape) → Key → List Key
  | [], _, _ => []
  | (name, v) :: rest, fields, path =>
    (match fieldShape? fields name with
      | some (_, shape) => (path ++ [name]) :: v.knownKeys shape (path ++ [name])
      | none => []) ++ entriesKnownKeys rest fields path

end

/-- Without the byte order mark of any encoding at the start. -/
def dropMark : List UInt8 → List UInt8
  | 0xFF :: 0xFE :: rest => rest
  | 0xFE :: 0xFF :: rest => rest
  | 0xEF :: 0xBB :: 0xBF :: rest => rest
  | bytes => bytes

/-- The data of a document. The first key that stands for no field is an error. -/
def readDocument (bytes : List UInt8) : Except DocumentError Data :=
  match load? with
  | none => .error .unreadable
  | some (data, unknown) =>
    match unknown with
    | some key => .error (.unknownKey (Key.text key))
    | none => .ok data
where
  /-- The data, and the first key that stands for no field. -/
  load? : Option (Data × Option Key) := do
    let cs ← Text.Utf8.decode? (dropMark bytes)
    let entries ← entries? cs
    let (root, keys) ← build? entries
    let data ← (Value.table root).read Shape.document Shape.document.zero
    let known := (Value.table root).knownKeys Shape.document []
    return (data, keys.find? fun k => !known.contains k)

end PhpDecl.Toml
