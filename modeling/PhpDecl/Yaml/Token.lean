import PhpDecl.Yaml.Scalar

/-!
# YAML tokens

Indentation is turned into tokens that open and close blocks. A key is recognised only at the
colon behind it, so that the tokens which announce it are put in afterwards: until then its place
is remembered, one place for each level of brackets.

* `Token`: the tokens of a YAML text;
* `PendingKey`: a place where a key may have started;
* `Scanner`: the tokens read so far, and the state between them;
* `Scanner.saveKey`, `Scanner.dropKey`, `Scanner.rollIndent`, `Scanner.unrollIndent`;
* `Scanner.fetch`: read one more token, or several;
* `Scan`, `scan`: all tokens of a text, up to the first place that has none.
-/

namespace PhpDecl.Yaml

/-- A token. -/
inductive Token where
  | versionDirective (major minor : Nat)
  | tagDirective (handle start : String)
  | documentStart | documentEnd
  | blockSequenceStart | blockMappingStart | blockEnd
  | flowSequenceStart | flowSequenceEnd | flowMappingStart | flowMappingEnd
  | blockEntry | flowEntry | key | value
  | alias (name : String)
  | anchor (name : String)
  | tag (handle suffix : String)
  | scalar (plain : Bool) (text : String)
  | streamEnd
  deriving DecidableEq, Repr

/-! ## State -/

/-- A place where a key may have started: before the token with a number. -/
structure PendingKey where
  token : Nat
  index : Nat
  line : Nat
  column : Nat
  /-- Nothing but a key can stand here. -/
  required : Bool

/-- The state of reading tokens. -/
structure Scanner where
  cursor : Cursor
  /-- The tokens read so far, the last one first. -/
  tokens : List Token := []
  /-- The column of the innermost block, and those of the blocks around it. -/
  indent : Int := -1
  outer : List Int := []
  /-- A key may start at this place. -/
  keyAllowed : Bool := true
  /-- The pending key outside all brackets, and those of each level of brackets, innermost first. -/
  blockKey : Option PendingKey := none
  flowKeys : List (Option PendingKey) := []
  ended : Bool := false

namespace Scanner

variable (s : Scanner)

/-- The place is inside brackets. -/
def inFlow : Bool := !s.flowKeys.isEmpty

/-- Add a token at the end. -/
def push (t : Token) : Scanner := { s with tokens := t :: s.tokens }

/-- Put a token before the one with a number. -/
def insert (number : Nat) (t : Token) : Scanner :=
  let after := s.tokens.length - number
  { s with tokens := s.tokens.take after ++ t :: s.tokens.drop after }

/-- The pending key of the innermost level. -/
def pendingKey : Option PendingKey :=
  match s.flowKeys with
  | k :: _ => k
  | [] => s.blockKey

/-- Replace the pending key of the innermost level. -/
def setPendingKey (k : Option PendingKey) : Scanner :=
  match s.flowKeys with
  | _ :: rest => { s with flowKeys := k :: rest }
  | [] => { s with blockKey := k }

/-- The place of the pending key is still on this line, and not too far away. -/
def keyInReach (k : PendingKey) : Bool :=
  k.line = s.cursor.line && s.cursor.index ≤ k.index + 1024

/-- Forget the pending key, unless nothing but a key can stand there. -/
def dropKey : Option Scanner :=
  match s.pendingKey with
  | some k => if k.required then none else some (s.setPendingKey none)
  | none => some s

/-- Remember this place as one where a key may start, if it may. -/
def saveKey : Option Scanner :=
  if s.keyAllowed then do
    let t ← s.dropKey
    return t.setPendingKey (some {
      token := s.tokens.length
      index := s.cursor.index
      line := s.cursor.line
      column := s.cursor.column
      required := !s.inFlow && s.indent = s.cursor.column })
  else some s

/-- Open a block at a column that is deeper than the block around it. -/
def rollIndent (column : Nat) (number : Nat) (t : Token) : Scanner :=
  if !s.inFlow && s.indent < column then
    { s with outer := s.indent :: s.outer, indent := column }.insert number t
  else s

/-- Close the blocks that are deeper than a column. -/
def unrollBlocks (column : Int) : List Int → Scanner → Scanner
  | [], s => s
  | o :: outer, s =>
    if s.indent > column then
      unrollBlocks column outer
        { s with indent := o, outer := outer, tokens := .blockEnd :: s.tokens }
    else s

/-- Close the blocks that are deeper than a column, outside brackets. -/
def unrollIndent (column : Int) : Scanner :=
  if s.inFlow then s else unrollBlocks column s.outer s

/-- Add a token of `n` characters and go on behind it. -/
def pushSkip (t : Token) (n : Nat) : Scanner := { s.push t with cursor := s.cursor.skip n }

/-! ## White space and comments -/

/-- Further comments below a comment, with only white space between them. -/
def skipComments : Nat → Cursor → Cursor
  | 0, c => c
  | steps + 1, c =>
    let blank := c.takeWhile fun x => isBlank x || isBreak x
    if (c.rest.drop blank.length).head? = some '#' then
      skipComments steps (skipBlankLines blank.length c).skipComment
    else c
where
  /-- The place after white space of some length. -/
  skipBlankLines : Nat → Cursor → Cursor
    | 0, c => c
    | n + 1, c =>
      match c.rest with
      | '\r' :: '\n' :: _ =>
        match n with
        | 0 => c.skipBreak
        | n + 1 => skipBlankLines n c.skipBreak
      | x :: _ => skipBlankLines n (if isBreak x then c.skipBreak else c.skip 1)
      | [] => c

/-- Go to the next token, over white space, line breaks and comments. -/
def toNextToken : Nat → Scanner → Scanner
  | 0, s => s
  | steps + 1, s =>
    let c := s.cursor
    let c := if c.column = 0 && c.rest.head? = some '\uFEFF' then c.skip 1 else c
    let c := c.skipWhile fun x => x = ' ' || (x = '\t' && (s.inFlow || !s.keyAllowed))
    let c := if c.rest.head? = some '#' then skipComments (c.rest.length + 1) c.skipComment else c
    match c.rest with
    | [] => { s with cursor := c }
    | x :: _ =>
      if isBreak x then
        toNextToken steps
          { s with cursor := c.skipBreak, keyAllowed := s.keyAllowed || !s.inFlow }
      else { s with cursor := c }

/-- Skip a comment right after a token on its line. -/
def skipLineComment : Scanner :=
  let c := s.cursor.skipWhile isBlank
  if !s.cursor.fresh && c.rest.head? = some '#' then { s with cursor := c.skipComment } else s

/-! ## Indicators -/

/-- The end of the text. -/
def fetchEnd : Option Scanner := do
  let s ← (s.unrollIndent (-1)).dropKey
  return { s.push .streamEnd with keyAllowed := false, ended := true }

/-- A mark of a document. -/
def fetchDocumentMark (t : Token) : Option Scanner := do
  let s ← (s.unrollIndent (-1)).dropKey
  return { s.pushSkip t 3 with keyAllowed := false }

/-- An opening bracket. -/
def fetchFlowStart (t : Token) : Option Scanner := do
  let s ← s.saveKey
  return { s.pushSkip t 1 with flowKeys := none :: s.flowKeys, keyAllowed := true }

/-- A closing bracket. -/
def fetchFlowEnd (t : Token) : Option Scanner := do
  let s ← s.dropKey
  return { s.pushSkip t 1 with flowKeys := s.flowKeys.tail, keyAllowed := false }

/-- A comma between brackets. -/
def fetchFlowEntry : Option Scanner := do
  let s ← s.dropKey
  return { s.pushSkip .flowEntry 1 with keyAllowed := true }

/-- The dash of a sequence entry. -/
def fetchBlockEntry : Option Scanner := do
  if !s.inFlow && !s.keyAllowed then none
  let s ← (s.rollIndent s.cursor.column s.tokens.length .blockSequenceStart).dropKey
  return { s.pushSkip .blockEntry 1 with keyAllowed := true }

/-- The question mark of a key. -/
def fetchKey : Option Scanner := do
  if !s.inFlow && !s.keyAllowed then none
  let s ← (s.rollIndent s.cursor.column s.tokens.length .blockMappingStart).dropKey
  return { s.pushSkip .key 1 with keyAllowed := !s.inFlow }

/-- The colon of a value: behind a key on the same line, or by itself. -/
def fetchValue : Option Scanner :=
  match s.pendingKey with
  | some k =>
    if s.keyInReach k then
      let s := (s.insert k.token .key).rollIndent k.column k.token .blockMappingStart
      some { (s.setPendingKey none).pushSkip .value 1 with keyAllowed := false }
    else if k.required then none
    else alone (s.setPendingKey none)
  | none => alone s
where
  /-- A colon with no key on its line. -/
  alone (s : Scanner) : Option Scanner := do
    if !s.inFlow && !s.keyAllowed then none
    let s := s.rollIndent s.cursor.column s.tokens.length .blockMappingStart
    return { s.pushSkip .value 1 with keyAllowed := !s.inFlow }

/-! ## Names -/

/-- What may follow the name of an anchor. -/
def endsName (rest : List Char) : Bool :=
  blankNext rest || rest.head?.any (['?', ':', ',', ']', '}', '%', '@', '\x60'].contains ·)

/-- An anchor or an alias. -/
def fetchAnchor (make : String → Token) : Option Scanner := do
  let s ← s.saveKey
  let name := (s.cursor.skip 1).takeWhile isWord
  let c := s.cursor.skip (name.length + 1)
  if name.isEmpty || !endsName c.rest then none
  return { s.push (make (String.ofList name)) with cursor := c, keyAllowed := false }

/-- A character of a tag. -/
def isTagChar (c : Char) : Bool :=
  isWord c || [';', '/', '?', ':', '@', '&', '=', '+', '$', ',', '.', '!', '~', '*', '\'', '(', ')',
    '[', ']', '%'].contains c

/-- A tag with its escapes of single bytes read. -/
def unescapeTag : List Char → Option (List Char)
  | '%' :: a :: b :: rest => do
    let x ← Text.hexChar? [a, b]
    if x.toNat ≥ 0x80 then none
    let more ← unescapeTag rest
    return x :: more
  | '%' :: _ => none
  | c :: rest => (unescapeTag rest).map (c :: ·)
  | [] => some []

/-- The characters of a tag at a place, and the place after them. -/
def tagText (c : Cursor) : Option (String × Cursor) := do
  let raw := c.takeWhile isTagChar
  let text ← unescapeTag raw
  return (String.ofList text, c.skip raw.length)

/-- A tag between pointed brackets, with a handle, or by itself. -/
def tagAt (c : Cursor) : Option (Token × Cursor) := do
  let after := c.skip 1
  if after.rest.head? = some '<' then
    let (suffix, c) ← tagText (after.skip 1)
    if suffix = "" || c.rest.head? ≠ some '>' then none
    return (.tag "" suffix, c.skip 1)
  else
    let name := after.takeWhile isWord
    let rest := after.skip name.length
    if rest.rest.head? = some '!' then
      let (suffix, c) ← tagText (rest.skip 1)
      if suffix = "" then none
      return (.tag (String.ofList ('!' :: name ++ ['!'])) suffix, c)
    else
      let (suffix, c) ← tagText after
      return if suffix = "" then (.tag "" "!", c) else (.tag "!" suffix, c)

/-- A tag. -/
def fetchTag : Option Scanner := do
  let s ← s.saveKey
  let (t, c) ← tagAt s.cursor
  if !blankNext c.rest then none
  return { s.push t with cursor := c, keyAllowed := false }

/-! ## Directives -/

/-- A number of at most two digits, and the place after it. -/
def versionPart (c : Cursor) : Option (Nat × Cursor) := do
  let ds := c.takeWhile Char.isDigit
  if ds.length > 2 then none
  let n ← Text.valueOf? 10 ds
  return (n, c.skip ds.length)

/-- A directive after its name. -/
def directiveAt (name : List Char) (c : Cursor) : Option (Token × Cursor) := do
  let c := c.skipWhile isBlank
  if name = ['Y', 'A', 'M', 'L'] then
    let (major, c) ← versionPart c
    if c.rest.head? ≠ some '.' then none
    let (minor, c) ← versionPart (c.skip 1)
    return (.versionDirective major minor, c)
  else if name = ['T', 'A', 'G'] then
    if c.rest.head? ≠ some '!' then none
    let word := (c.skip 1).takeWhile isWord
    let rest := c.skip (word.length + 1)
    let closed := rest.rest.head? = some '!'
    if !closed && !word.isEmpty then none
    let handle := '!' :: word ++ (if closed then ['!'] else [])
    let c := if closed then rest.skip 1 else rest
    if !c.rest.head?.any isBlank then none
    let (start, c) ← tagText (c.skipWhile isBlank)
    if start = "" || !blankNext c.rest then none
    return (.tagDirective (String.ofList handle) start, c)
  else none

/-- A directive, up to the end of its line. -/
def fetchDirective : Option Scanner := do
  let s ← (s.unrollIndent (-1)).dropKey
  let name := (s.cursor.skip 1).takeWhile isWord
  let c := s.cursor.skip (name.length + 1)
  if name.isEmpty || !blankNext c.rest then none
  let (t, c) ← directiveAt name c
  let c := c.skipWhile isBlank
  let c := if c.rest.head? = some '#' then c.skipComment else c
  if !breakNext c.rest then none
  return { s.push t with cursor := c.skipBreak, keyAllowed := false }

/-! ## Scalars -/

/-- A block scalar. -/
def fetchBlockScalar (folded : Bool) : Option Scanner := do
  let s ← s.dropKey
  let (text, c) ← blockScalar folded s.indent s.cursor
  return { s.push (.scalar false text) with cursor := c, keyAllowed := true }

/-- A quoted scalar. -/
def fetchQuoted (single : Bool) : Option Scanner := do
  let s ← s.saveKey
  let (text, c) ← quotedScalar single s.cursor
  return { s.push (.scalar false text) with cursor := c, keyAllowed := false }

/-- A plain scalar. A key may follow it on the next line. -/
def fetchPlain : Option Scanner := do
  let s ← s.saveKey
  let (text, c, broken) ← plainScalar s.inFlow (s.indent + 1).toNat s.cursor
  return { s.push (.scalar true text) with cursor := c, keyAllowed := broken }

/-- A character that cannot start a plain scalar. -/
def isIndicator (c : Char) : Bool :=
  ['-', '?', ':', ',', '[', ']', '{', '}', '#', '&', '*', '!', '|', '>', '\'', '"', '%', '@',
    '\x60'].contains c

/-! ## Tokens -/

/-- The token that starts with a character, before `rest`. -/
def fetchAt (x : Char) (rest : List Char) : Option Scanner :=
  match x with
  | '[' => s.fetchFlowStart .flowSequenceStart
  | '{' => s.fetchFlowStart .flowMappingStart
  | ']' => s.fetchFlowEnd .flowSequenceEnd
  | '}' => s.fetchFlowEnd .flowMappingEnd
  | ',' => s.fetchFlowEntry
  | '*' => s.fetchAnchor .alias
  | '&' => s.fetchAnchor .anchor
  | '!' => s.fetchTag
  | '\'' => s.fetchQuoted true
  | '"' => s.fetchQuoted false
  | _ =>
    if x = '-' && blankNext rest then s.fetchBlockEntry
    else if x = '?' && (s.inFlow || blankNext rest) then s.fetchKey
    else if x = ':' && (s.inFlow || blankNext rest) then s.fetchValue
    else if x = '|' && !s.inFlow then s.fetchBlockScalar false
    else if x = '>' && !s.inFlow then s.fetchBlockScalar true
    else if !isIndicator x || x = '-' || (!s.inFlow && (x = '?' || x = ':')) then s.fetchPlain
    else none

/-- The last token read is the dash of a sequence entry. -/
def afterDash : Bool := s.tokens.head? = some .blockEntry

/-- Read one more token, or several. -/
def fetch : Option Scanner :=
  let s := toNextToken (s.cursor.rest.length + 1) s
  let s := s.unrollIndent s.cursor.column
  match s.cursor.rest with
  | [] => s.fetchEnd
  | x :: rest =>
    if s.cursor.column = 0 && x = '%' then s.fetchDirective
    else if s.cursor.atDocumentMark then
      s.fetchDocumentMark (if x = '-' then .documentStart else .documentEnd)
    else do
      let s ← s.fetchAt x rest
      return if s.afterDash then s else s.skipLineComment

/-- The numbers of the tokens that may still turn out to be keys. -/
def openKeys : List Nat :=
  (s.blockKey :: s.flowKeys).filterMap fun k =>
    match k with
    | some k => if s.keyInReach k then some k.token else none
    | none => none

end Scanner

/-- All tokens of a text. When some place starts no token, the tokens before it, and those of them
that might have been keys. -/
structure Scan where
  tokens : List Token
  complete : Bool
  openKeys : List Nat

/-- Read tokens until the text ends. -/
def scanFrom : Nat → Scanner → Scan
  | 0, s => ⟨s.tokens.reverse, false, s.openKeys⟩
  | steps + 1, s =>
    if s.ended then ⟨s.tokens.reverse, true, []⟩
    else
      match s.fetch with
      | some s => scanFrom steps s
      | none => ⟨s.tokens.reverse, false, s.openKeys⟩

/-- The tokens of a text. -/
def scan (cs : List Char) : Scan := scanFrom (cs.length + 2) { cursor := { rest := cs } }

/-- The tokens that can be used. Two more tokens are read behind every token that is used, and a
token that may be a key is not used before that is settled; so when the scan has failed, its last
tokens cannot be used. -/
def Scan.usable (s : Scan) : List Token :=
  if s.complete then s.tokens
  else
    let settled := fun i : Nat => i + 3 ≤ s.tokens.length && !s.openKeys.contains i
    (s.tokens.zipIdx.takeWhile fun t => settled t.2).map (·.1)

end PhpDecl.Yaml
