import PhpDecl.Document.Shape
import PhpDecl.Text.Utf16
import PhpDecl.Yaml.Node
import PhpDecl.Yaml.Value

/-!
# YAML documents

A mapping is read into a record field by field. The mapping behind the key `<<`, or each of a
sequence of them, fills in the fields that have no key of their own.

* `characters?`: the characters of a text in its encoding;
* `Tally`, `Reading`, `visit`: the count of nodes read, many of them through aliases in a document
  that is refused for it;
* `readScalar?`: a scalar as data of some form;
* `Node.read`, `readItems`, `readPairs`: read a node of some form;
* `withMerges`, `fillFrom`, `Node.fill`: fill in the fields of other mappings;
* `readDocument?`: the data of a document.
-/

namespace PhpDecl.Yaml

/-! ## Characters -/

/-- A character that may stand in a text. -/
def isAllowed (c : Char) : Bool :=
  let n := c.toNat
  c = '\t' || c = '\n' || c = '\r' || (0x20 ≤ n && n ≤ 0x7E) || n = 0x85 ||
    (0xA0 ≤ n && n ≤ 0xFFFD) || 0x10000 ≤ n

/-- The characters of a text; a byte order mark gives its encoding. -/
def characters? (bytes : List UInt8) : Option (List Char) := do
  let cs ←
    match bytes with
    | 0xFF :: 0xFE :: rest => (Text.Utf16.words? false rest).bind Text.Utf16.decode?
    | 0xFE :: 0xFF :: rest => (Text.Utf16.words? true rest).bind Text.Utf16.decode?
    | 0xEF :: 0xBB :: 0xBF :: rest => Text.Utf8.decode? rest
    | _ => Text.Utf8.decode? bytes
  if cs.all isAllowed then some cs else none

/-! ## Counting nodes -/

/-- How many nodes were read, and how many of them through aliases; `depth` aliases are being
followed. -/
structure Tally where
  nodes : Nat := 0
  aliased : Nat := 0
  depth : Nat := 0

/-- Too large a part of the nodes was read through aliases: more than 99 in 100, and down to 10 in
100 for larger documents. -/
def Tally.isExcessive (t : Tally) : Bool :=
  t.aliased > 100 && t.nodes > 1000 &&
    if t.nodes ≤ 400000 then t.aliased * 100 > t.nodes * 99
    else if t.nodes ≥ 4000000 then t.aliased * 10 > t.nodes
    else t.aliased * 360000000 > t.nodes * (99 * 3600000 - 89 * (t.nodes - 400000))

/-- Reading data from nodes. -/
abbrev Reading := StateT Tally Option

/-- Count one more node. -/
def visit : Reading Unit := do
  let t ← get
  let t := { t with
    nodes := t.nodes + 1
    aliased := t.aliased + (if t.depth > 0 then 1 else 0) }
  if t.isExcessive then failure
  set t

/-- Read through an alias. -/
def throughAlias {α : Type} (inner : Reading α) : Reading α := do
  modify fun t => { t with depth := t.depth + 1 }
  let a ← inner
  modify fun t => { t with depth := t.depth - 1 }
  return a

/-! ## Scalars -/

/-- A value other than null, written as `text`, as data of a form that cannot be missing. -/
def valueData? (v : Value) (text : String) : Shape → Option Data
  | .text =>
    match v with
    | .text s => some (.text s)
    | _ => some (.text text)
  | .integer => v.int64?.map .integer
  | .flag => v.flag?.map .flag
  | _ => none

/-- A scalar as data of some form. Null gives no data where the form cannot be empty. -/
def readScalar? (tag : String) (plain : Bool) (text : String) (shape : Shape) :
    Option (Option Data) := do
  match ← valueOf? tag plain text, shape with
  | .null, .list _ => return some (.list [] [])
  | .null, .optional _ => return some .absent
  | .null, _ => return none
  | v, .optional inner => (valueData? v text inner).map some
  | v, shape => (valueData? v text shape).map some

/-! ## Collections -/

/-- The key that fills in the fields of another mapping. -/
def Node.isMerge : Node → Bool
  | .scalar tag plain text => text = "<<" && (tag = "!!merge" || (tag = "" && plain))
  | _ => false

/-- Some key stands for two pairs. -/
def hasRepeatedKey : List (Node × Node) → Bool
  | [] => false
  | (k, _) :: rest => rest.any (fun p => k.sameKey p.1) || hasRepeatedKey rest

/-- The node is a mapping. -/
def Node.isMapping : Node → Bool
  | .mapping .. => true
  | _ => false

/-- The form of a collection with a tag. The tag of null cannot stand on a part that may be
missing. -/
def collectionShape? (tag : String) : Shape → Option Shape
  | .optional s => if tag = "!!null" then none else some s
  | s => some s

/-- Names that are passed over, if there are any such names. -/
abbrev Seen := Option (List String)

/-- Read the pairs of a mapping, and then fill in the fields of other mappings. These pass over the
names `seen` before, or else those of the keys of the mapping. -/
def withMerges (pairs : List (Node × Node)) (own : Reading (Data × Seen))
    (names : Reading (List String))
    (fill : List String → Data → Reading (Data × List String)) : Reading (Data × Seen) := do
  if hasRepeatedKey pairs then failure
  let (d, seen) ← own
  if pairs.any (·.1.isMerge) then
    match seen with
    | some before =>
      let (d, after) ← fill before d
      return (d, some after)
    | none =>
      let (d, _) ← fill (← names) d
      return (d, none)
  else return (d, seen)

mutual

/-- Read a node of some form over earlier data. Null gives no data where the form cannot be
empty. -/
def Node.read : Node → Shape → Data → Reading (Option Data)
  | .scalar tag plain text, shape, _ => do
    visit
    readScalar? tag plain text shape
  | .sequence tag items, shape, _ => do
    visit
    match ← collectionShape? tag shape with
    | .list item =>
      let ds ← readItems items item
      return some (.list ds [])
    | _ => failure
  | .mapping tag pairs, shape, d => do
    visit
    match ← collectionShape? tag shape with
    | .record fields =>
      let (d, _) ← withMerges pairs (readPairs pairs fields none [] (shape.present d))
        (keyNames pairs) fun seen d => fillFrom pairs fields seen d
      return some d
    | _ => failure
  | .alias _ (some t), shape, d => do
    visit
    throughAlias (t.read shape d)
  | .alias _ none, _, _ => failure

/-- Read the items of a sequence; those that are null are dropped. -/
def readItems : List Node → Shape → Reading (List Data)
  | [], _ => return []
  | n :: rest, item => do
    let d ← n.read item item.zero
    let ds ← readItems rest item
    return d.toList ++ ds

/-- Read the pairs of a mapping into fields, none of them twice. Names seen before are passed over,
and every name that is read joins them. A pair whose key is null is passed over too. -/
def readPairs : List (Node × Node) → List (String × Shape) → Seen → (done : List String) → Data →
    Reading (Data × Seen)
  | [], _, seen, _, d => return (d, seen)
  | (k, v) :: rest, fields, seen, done, d => do
    if k.isMerge then readPairs rest fields seen done d
    else
      match ← k.read .text (.text "") with
      | none => readPairs rest fields seen done d
      | some key =>
        let name := key.asText
        if seen.any (·.contains name) then readPairs rest fields seen done d
        else
          match fields.lookup name with
          | none => failure
          | some shape =>
            if done.contains name then failure
            let new ← v.read shape (d.field name)
            let d := (new.map (d.setField name)).getD d
            readPairs rest fields (seen.map (name :: ·)) (name :: done) d

/-- The names that the keys of a mapping stand for. -/
def keyNames : List (Node × Node) → Reading (List String)
  | [] => return []
  | (k, _) :: rest => do
    let name ← k.read .text (.text "")
    let names ← keyNames rest
    return (name.map Data.asText).toList ++ names

/-- Fill in the fields of the mapping, or of the sequence of mappings, behind the last key that
asks for it. -/
def fillFrom : List (Node × Node) → List (String × Shape) → List String → Data →
    Reading (Data × List String)
  | [], _, seen, d => return (d, seen)
  | (k, v) :: rest, fields, seen, d =>
    if k.isMerge && !rest.any (·.1.isMerge) then v.fill true fields seen d
    else fillFrom rest fields seen d

/-- Fill in the fields of several mappings, one after the other. -/
def fillEach : List Node → List (String × Shape) → List String → Data →
    Reading (Data × List String)
  | [], _, seen, d => return (d, seen)
  | n :: rest, fields, seen, d => do
    let (d, seen) ← n.fill false fields seen d
    fillEach rest fields seen d

/-- Fill in the fields of a mapping, or of one that an alias stands for; also those of several
mappings in a sequence, if that is allowed. -/
def Node.fill : Node → (several : Bool) → List (String × Shape) → List String → Data →
    Reading (Data × List String)
  | .mapping _ pairs, _, fields, seen, d => do
    visit
    let (d, after) ← withMerges pairs (readPairs pairs fields (some seen) [] d)
      (keyNames pairs) fun seen d => fillFrom pairs fields seen d
    return (d, after.getD seen)
  | .alias _ (some t), _, fields, seen, d => do
    visit
    if t.isMapping then throughAlias (t.fill false fields seen d) else failure
  | .sequence _ items, several, fields, seen, d =>
    if several then fillEach items fields seen d else failure
  | _, _, _, _, _ => failure

end

/-- The data of a document. -/
def readDocument? (bytes : List UInt8) : Option Data := do
  let cs ← characters? bytes
  let n ← Node.ofScan? (scan cs)
  let (d, _) ← (n.read Shape.document Shape.document.zero).run {}
  return d.getD Shape.document.zero

end PhpDecl.Yaml
