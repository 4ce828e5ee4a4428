import PhpDecl.Toml.Entry

/-!
# TOML tables

The entries of a TOML text say step by step how its root table is built. Which entries may touch
a table that is already there depends on how it came to be: a table made only on the way to
another one may be defined once more, and a key whose last value was an array may get a new
value.

* `Value`, `Table`: a value, and a table as its entries in order;
* `Table.update`: change the table at a path;
* `Builder`: the root table with what is known about its keys;
* `Builder.enter`, `Builder.setValue`, `Builder.addTerm`, `Builder.addEntry`;
* `build?`: the root table of a list of entries, and all keys in the order they were written.
-/

namespace PhpDecl.Toml

/-- A value. -/
inductive Value where
  | scalar (s : Scalar)
  | array (items : List Value)
  | table (entries : List (String × Value))
  /-- Tables added one by one; keys refer to the last of them. -/
  | tables (tables : List (List (String × Value)))
  deriving Inhabited

/-- The entries of a table. -/
abbrev Table := List (String × Value)

namespace Table

/-- The table with a new value for a key, at the place of the old one. -/
def set (t : Table) (k : String) (v : Value) : Table :=
  if (t.lookup k).isSome then t.map fun e => if e.1 = k then (k, v) else e else t ++ [(k, v)]

/-- Change the table at a path. Tables that are missing on the way are made. -/
def update (f : Table → Option Table) : Key → Table → Option Table
  | [], t => f t
  | k :: path, t =>
    match t.lookup k with
    | none => (update f path []).map fun u => t.set k (.table u)
    | some (.table u) => (update f path u).map fun u => t.set k (.table u)
    | some (.tables us) =>
      match us.getLast? with
      | some u => (update f path u).map fun u => t.set k (.tables (us.dropLast ++ [u]))
      | none => none
    | some _ => none

/-- The table at a path. -/
def get? : Key → Table → Option Table
  | [], t => some t
  | k :: path, t =>
    match t.lookup k with
    | some (.table u) => get? path u
    | some (.tables us) => us.getLast?.bind (get? path)
    | _ => none

end Table

/-- A table being built. -/
structure Builder where
  root : Table := []
  /-- Tables that so far exist only on the way to others. -/
  implied : List Key := []
  /-- Keys whose last value was an array. -/
  arrays : List Key := []
  /-- The table that entries go to. -/
  context : Key := []
  /-- All keys, the last one first. -/
  keys : List Key := []

namespace Builder

variable (b : Builder)

/-- Note whether the last value of a key is an array. A key without a name stands for the context
itself. -/
def setType (name : String) (isArray : Bool) : Builder :=
  let key := if name = "" then b.context else b.context ++ [name]
  let key := if key.isEmpty then [""] else key
  let others := b.arrays.filter (· ≠ key)
  { b with arrays := if isArray then key :: others else others }

/-- The table is there only on the way to others. -/
def imply (key : Key) : Builder := { b with implied := key :: b.implied.filter (· ≠ key) }

/-- Note a key. -/
def noteKey (key : Key) : Builder := { b with keys := key :: b.keys }

/-- Give a key of the context a value. -/
def setValue (name : String) (v : Value) : Option Builder := do
  let t ← Table.get? b.context b.root
  let key := b.context ++ [name]
  let explicit := { b with implied := b.implied.filter (· ≠ key) }
  if (t.lookup name).isSome then
    if b.arrays.contains key then
      let root ← Table.update (fun t => some (t.set name v)) b.context b.root
      return { explicit with root }
    else if b.implied.contains key then return explicit
    else none
  else
    let root ← Table.update (fun t => some (t.set name v)) b.context b.root
    return { b with root }

/-- The nonempty initial parts of a key. -/
def heads (key : Key) : List Key := (List.range key.length).map fun n => key.take (n + 1)

/-- Make the parents of a key where they are missing. -/
def makeParents (parents : Key) : Option Builder := do
  let missing := (heads parents).filter fun k => (Table.get? k b.root).isNone
  let root ← Table.update some parents b.root
  return missing.foldl imply { b with root }

/-- Go to a table; with `array` a new table of an array of tables. -/
def enter (key : Key) (array : Bool) : Option Builder := do
  let name ← key.getLast?
  let parents := key.dropLast
  let b ← b.makeParents parents
  let b := { b with context := parents }
  let b ←
    if array then do
      let t ← Table.get? parents b.root
      let tables ←
        match t.lookup name with
        | none => some []
        | some (.tables us) => some us
        | some _ => none
      let root ←
        Table.update (fun t => some (t.set name (.tables (tables ++ [[]])))) parents b.root
      some { b with root }
    else b.setValue name (.table [])
  return { b with context := key }

/-- Go to the table of a dotted key, part by part. -/
def enterParts : Builder → Key → Option Builder
  | b, [] => some b
  | b, part :: rest => do
    let b ← (b.imply (b.context ++ [part])).enter (b.context ++ [part]) false
    enterParts b rest

end Builder

/-- A term is an array. -/
def Term.isArray : Term → Bool
  | .array _ => true
  | _ => false

/-- Put a value under a dotted key of a table, making tables on the way. -/
def putAt (v : Value) : Key → Table → Option Table
  | [], t => some t
  | [name], t => some (t.set name v)
  | part :: rest, t =>
    match t.lookup part with
    | none => (putAt v rest []).map fun u => t.set part (.table u)
    | some (.table u) => (putAt v rest u).map fun u => t.set part (.table u)
    | some _ => none

mutual

/-- The value of a term that is written for a key of the context. An inline table is also built
into the root table, where it takes part in the rules on keys. -/
def Builder.addTerm : Term → Builder → (name : String) → (inArray : Bool) → Option (Value × Builder)
  | .scalar s, b, _, _ => some (.scalar s, b)
  | .array items, b, name, _ => do
    let (vs, b) ← addItems items (b.setType name true) name
    return (.array vs, b)
  | .inlineTable pairs, b, name, inArray => do
    let outer := b.context
    let key := b.context ++ [name]
    let inner ← (b.imply key).enter key inArray
    let (entries, b) ← addPairs pairs { inner with context := key } []
    return (.table entries, { b with context := outer })

/-- The values of the items of an array. -/
def Builder.addItems : List Term → Builder → (name : String) → Option (List Value × Builder)
  | [], b, _ => some ([], b)
  | t :: rest, b, name => do
    let (v, b) ← Builder.addTerm t b name true
    let (vs, b) ← addItems rest b name
    return (v :: vs, b)

/-- The entries of an inline table, after those read already. -/
def Builder.addPairs : List (Key × Term) → Builder → Table → Option (Table × Builder)
  | [], b, entries => some (entries, b)
  | (key, t) :: rest, b, entries => do
    let outer := b.context
    let name ← key.getLast?
    let b ← b.enterParts key.dropLast
    let (v, b) ← Builder.addTerm t (b.noteKey (b.context ++ [name])) name false
    let b ← b.setValue name v
    let entries ← putAt v key entries
    addPairs rest { b.setType name t.isArray with context := outer } entries

end

/-- Add an entry. -/
def Builder.addEntry (b : Builder) : Entry → Option Builder
  | .table key => do
    let b ← b.enter key false
    return (b.setType "" false).noteKey key
  | .arrayTable key => do
    let b ← b.enter key true
    return (b.setType "" false).noteKey key
  | .pair key t => do
    let outer := b.context
    let name ← key.getLast?
    let b ← b.enterParts key.dropLast
    let (v, b) ← Builder.addTerm t (b.noteKey (b.context ++ [name])) name false
    let b ← b.setValue name v
    return { b.setType name t.isArray with context := outer }

/-- The root table of a list of entries, and all keys in the order they were written. -/
def build? (entries : List Entry) : Option (Table × List Key) := do
  let b ← entries.foldlM Builder.addEntry {}
  return (b.root, b.keys.reverse)

end PhpDecl.Toml
