import PhpDecl.Toml.Scalar

/-!
# TOML entries

A TOML text is a sequence of table headers and of keys with values.

* `Key`: the parts of a dotted key;
* `Term`: a value as it is written, with inline tables as lists of keys and values;
* `Entry`, `entries?`: the entries of a text, if it is written correctly.

The readers take a bound on the number of steps, which the length of the text always meets: every
step consumes a character.
-/

namespace PhpDecl.Toml

/-- The parts of a dotted key. -/
abbrev Key := List String

/-- A value as it is written. -/
inductive Term where
  | scalar (s : Scalar)
  | array (items : List Term)
  | inlineTable (pairs : List (Key × Term))

/-- A line, or several, of a TOML text. -/
inductive Entry where
  | table (key : Key)
  /-- One more table of an array of tables. -/
  | arrayTable (key : Key)
  | pair (key : Key) (value : Term)

/-! ## Keys -/

/-- A character of a key that is not quoted. -/
def isBareChar (c : Char) : Bool :=
  ('A' ≤ c && c ≤ 'Z') || ('a' ≤ c && c ≤ 'z') || c.isDigit || c = '_' || c = '-'

/-- Without the white space at the start of a line. -/
def skipSpace (cs : List Char) : List Char := cs.dropWhile isSpace

/-- One part of a key, and the text after it. -/
def keyPart? (cs : List Char) : Option (String × List Char) :=
  match cs with
  | '"' :: rest => basicString rest
  | '\'' :: rest => rawString rest
  | _ =>
    let name := cs.takeWhile isBareChar
    if name.isEmpty then none else some (String.ofList name, cs.drop name.length)

/-- A dotted key up to the character that ends it, and the text after that character. -/
def key? (stop : Char) : Nat → List Char → Option (Key × List Char)
  | 0, _ => none
  | steps + 1, cs => do
    let (part, rest) ← keyPart? (skipSpace cs)
    match skipSpace rest with
    | '.' :: rest => do
      let (key, rest) ← key? stop steps rest
      return (part :: key, rest)
    | c :: rest => if c = stop then return ([part], rest) else none
    | [] => none

/-! ## Values -/

/-- Without a comment, up to the end of its line. -/
def skipComment (cs : List Char) : List Char := cs.dropWhile fun c => !isBreak c

/-- Without white space, line breaks and comments. -/
def skipLines : Nat → List Char → List Char
  | 0, cs => cs
  | steps + 1, cs =>
    match cs.dropWhile fun c => isSpace c || isBreak c with
    | '#' :: rest => skipLines steps (skipComment rest)
    | rest => rest

mutual

/-- A value, and the text after it. -/
def value? : Nat → List Char → Option (Term × List Char)
  | 0, _ => none
  | steps + 1, cs =>
    match skipSpace cs with
    | '[' :: rest => (items? steps rest).map fun r => (.array r.1, r.2)
    | '{' :: rest =>
      match skipSpace rest with
      | '}' :: rest => some (.inlineTable [], rest)
      | rest => (pairs? steps rest).map fun r => (.inlineTable r.1, r.2)
    | rest => (scalar? rest).map fun r => (.scalar r.1, r.2)

/-- The items of an array up to its closing bracket; a comma may follow the last one. -/
def items? : Nat → List Char → Option (List Term × List Char)
  | 0, _ => none
  | steps + 1, cs =>
    match skipLines steps cs with
    | ']' :: rest => some ([], rest)
    | rest => do
      let (item, rest) ← value? steps rest
      match skipLines steps rest with
      | ',' :: rest => do
        let (more, rest) ← items? steps rest
        return (item :: more, rest)
      | ']' :: rest => return ([item], rest)
      | _ => none

/-- The pairs of an inline table up to its closing brace, at least one. -/
def pairs? : Nat → List Char → Option (List (Key × Term) × List Char)
  | 0, _ => none
  | steps + 1, cs => do
    let (key, rest) ← key? '=' steps cs
    let (value, rest) ← value? steps rest
    match skipSpace rest with
    | ',' :: rest => do
      let (more, rest) ← pairs? steps rest
      return ((key, value) :: more, rest)
    | '}' :: rest => return ([(key, value)], rest)
    | _ => none

end

/-! ## Entries -/

/-- The text after the end of a line, where only white space or a comment may stand before it. -/
def endOfEntry? (cs : List Char) : Option (List Char) :=
  match skipSpace cs with
  | [] => some []
  | '#' :: rest => some (skipComment rest)
  | c :: rest => if isBreak c then some rest else none

/-- One entry, and the text after it. -/
def entry? (steps : Nat) (cs : List Char) : Option (Entry × List Char) :=
  match cs with
  | '[' :: '[' :: rest => do
    let (key, rest) ← key? ']' steps rest
    match rest with
    | ']' :: rest => return (.arrayTable key, rest)
    | _ => none
  | '[' :: rest => (key? ']' steps rest).map fun r => (.table r.1, r.2)
  | _ => do
    let (key, rest) ← key? '=' steps cs
    let (value, rest) ← value? steps rest
    return (.pair key value, rest)

/-- The entries of a text. -/
def entriesFrom? : Nat → List Char → Option (List Entry)
  | 0, _ => none
  | steps + 1, cs =>
    match skipLines steps cs with
    | [] => some []
    | rest => do
      let (entry, rest) ← entry? steps rest
      let rest ← endOfEntry? rest
      let more ← entriesFrom? steps rest
      return entry :: more

/-- A text may hold no control characters but tabs and line breaks, and a carriage return only
before a line feed. -/
def plainText : List Char → Bool
  | [] => true
  | '\r' :: cs => cs.head? = some '\n' && plainText cs
  | c :: cs => (c = '\t' || c = '\n' || (0x20 ≤ c.toNat && c.toNat ≠ 0x7F)) && plainText cs

/-- The entries of a text, if it is written correctly. -/
def entries? (cs : List Char) : Option (List Entry) :=
  if plainText cs then entriesFrom? (2 * cs.length + 2) cs else none

end PhpDecl.Toml
