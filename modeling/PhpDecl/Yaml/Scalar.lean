import PhpDecl.Text.Digit
import PhpDecl.Yaml.Cursor

/-!
# YAML scalars

The three ways to write a scalar: plain, between quotes, and as a block of indented lines. Line
breaks inside a plain or quoted scalar are folded: a single one is a space, and of several the
first one goes.

* `Gap`, `readGap`: white space inside a scalar, and what it stands for;
* `plainScalar`: a scalar without quotes, and whether it ended on a new line;
* `quotedScalar`: a scalar between single or double quotes;
* `blockScalar`: a literal or folded block.

Loops take a bound on the number of steps, which the length of the text always meets.
-/

namespace PhpDecl.Yaml

/-! ## White space inside a scalar -/

/-- White space read inside a scalar: blanks, or the first line break and the others. -/
inductive Gap where
  | blanks (text : List Char)
  | breaks (first : List Char) (others : List Char)

namespace Gap

/-- No white space. -/
def empty : Gap := .blanks []

/-- What the white space stands for. -/
def text : Gap → List Char
  | .blanks cs => cs
  | .breaks first others =>
    if first.head? = some '\n' then
      if others.isEmpty then [' '] else others
    else first ++ others

/-- The white space holds a line break. -/
def isBroken : Gap → Bool
  | .blanks _ => false
  | .breaks _ _ => true

end Gap

/-- Read white space and line breaks after those read already. A tab may not stand for
indentation below `indent`. -/
def readGap (indent : Option Nat) : Nat → Gap → Cursor → Option (Gap × Cursor)
  | 0, gap, c => some (gap, c)
  | steps + 1, gap, c =>
    match c.rest with
    | [] => some (gap, c)
    | x :: _ =>
      if isBlank x then
        match gap with
        | .blanks cs => readGap indent steps (.blanks (cs ++ [x])) (c.skip 1)
        | .breaks _ _ =>
          if x = '\t' && indent.any (c.column < ·) then none
          else readGap indent steps gap (c.skip 1)
      else if isBreak x then
        let (b, c) := c.readBreak
        match gap with
        | .blanks _ => readGap indent steps (.breaks b []) c
        | .breaks first others => readGap indent steps (.breaks first (others ++ b)) c
      else some (gap, c)

/-! ## Plain scalars -/

/-- The characters of a plain scalar up to white space, a colon before white space, or, inside
brackets, an indicator. -/
def plainWord (inFlow : Bool) : List Char → List Char
  | [] => []
  | x :: rest =>
    if isBlank x || isBreak x then []
    else if x = ':' && blankNext rest then []
    else if inFlow && [',', '?', '[', ']', '{', '}'].contains x then []
    else x :: plainWord inFlow rest

/-- A plain scalar after the characters and white space read already. Lines that are indented
less than `indent` do not belong to it. -/
def plainFrom (inFlow : Bool) (indent : Nat) :
    Nat → List Char → Gap → Cursor → Option (List Char × Gap × Cursor)
  | 0, text, gap, c => some (text, gap, c)
  | steps + 1, text, gap, c =>
    if c.atDocumentMark || c.rest.head? = some '#' then some (text, gap, c)
    else
      let word := plainWord inFlow c.rest
      let (text, gap) := if word.isEmpty then (text, gap) else (text ++ gap.text ++ word, .empty)
      let c := c.skip word.length
      match c.rest with
      | [] => some (text, gap, c)
      | x :: _ =>
        if isBlank x || isBreak x then do
          let (gap, c) ← readGap (some indent) (c.rest.length + 1) gap c
          if !inFlow && c.column < indent then some (text, gap, c)
          else plainFrom inFlow indent steps text gap c
        else some (text, gap, c)

/-- A plain scalar, the place after it and the white space that follows it, and whether that white
space holds a line break. -/
def plainScalar (inFlow : Bool) (indent : Nat) (c : Cursor) : Option (String × Cursor × Bool) := do
  let (text, gap, c) ← plainFrom inFlow indent (c.rest.length + 1) [] .empty c
  return (String.ofList text, c, gap.isBroken)

/-! ## Quoted scalars -/

/-- The character that an escape of one letter stands for. -/
def escape? (c : Char) : Option Char :=
  match c with
  | '0' => some '\x00'
  | 'a' => some '\x07'
  | 'b' => some '\x08'
  | 't' | '\t' => some '\t'
  | 'n' => some '\n'
  | 'v' => some '\x0b'
  | 'f' => some '\x0c'
  | 'r' => some '\r'
  | 'e' => some '\x1b'
  | ' ' | '"' | '\'' | '\\' => some c
  | 'N' => some '\u0085'
  | '_' => some '\u00a0'
  | 'L' => some '\u2028'
  | 'P' => some '\u2029'
  | _ => none

/-- The number of hexadecimal digits after a letter. -/
def escapeDigits? (c : Char) : Option Nat :=
  match c with
  | 'x' => some 2
  | 'u' => some 4
  | 'U' => some 8
  | _ => none

/-- What ends a run of characters in a quoted scalar. -/
inductive RunEnd where
  | quote
  | space
  /-- A line break that was escaped. -/
  | escapedBreak

/-- The characters of a quoted scalar up to white space, the closing quote or an escaped line
break, after those read already. -/
def quotedRun (single : Bool) : Nat → List Char → Cursor → Option (List Char × RunEnd × Cursor)
  | 0, _, _ => none
  | steps + 1, text, c =>
    match c.rest with
    | [] => none
    | x :: rest =>
      if isBlank x || isBreak x then some (text, .space, c)
      else if single then
        match x, rest with
        | '\'', '\'' :: _ => quotedRun single steps (text ++ ['\'']) (c.skip 2)
        | '\'', _ => some (text, .quote, c)
        | _, _ => quotedRun single steps (text ++ [x]) (c.skip 1)
      else if x = '"' then some (text, .quote, c)
      else if x = '\\' then
        match rest with
        | [] => none
        | e :: after =>
          if isBreak e then some (text, .escapedBreak, (c.skip 1).skipBreak)
          else
            match escape? e, escapeDigits? e with
            | some y, _ => quotedRun single steps (text ++ [y]) (c.skip 2)
            | none, some n => do
              if after.length < n then none
              let y ← Text.hexChar? (after.take n)
              quotedRun single steps (text ++ [y]) (c.skip (n + 2))
            | none, none => none
      else quotedRun single steps (text ++ [x]) (c.skip 1)

/-- A quoted scalar after the characters read already. -/
def quotedFrom (single : Bool) : Nat → List Char → Cursor → Option (List Char × Cursor)
  | 0, _, _ => none
  | steps + 1, text, c =>
    if c.atDocumentMark then none
    else do
      let (text, ending, c) ← quotedRun single (c.rest.length + 1) text c
      match ending with
      | .quote => return (text, c.skip 1)
      | .space =>
        let (gap, c) ← readGap none (c.rest.length + 1) .empty c
        quotedFrom single steps (text ++ gap.text) c
      | .escapedBreak =>
        if c.rest.head? = some '"' then return (text, c.skip 1)
        else
          let (gap, c) ← readGap none (c.rest.length + 1) (.breaks [] []) c
          quotedFrom single steps (text ++ gap.text) c

/-- A quoted scalar from its opening quote on. -/
def quotedScalar (single : Bool) (c : Cursor) : Option (String × Cursor) := do
  let (text, c) ← quotedFrom single (c.rest.length + 1) [] (c.skip 1)
  return (String.ofList text, c)

/-! ## Block scalars -/

/-- What becomes of the line breaks at the end of a block. -/
inductive Chomping where
  | strip | clip | keep
  deriving DecidableEq

/-- The chomping that an indicator stands for. -/
def chomping? (c : Char) : Option Chomping :=
  if c = '+' then some .keep else if c = '-' then some .strip else none

/-- The indicators after the mark of a block, in either order, and the place after them. -/
def blockHeader (c : Cursor) : Option (Chomping × Nat × Cursor) :=
  match c.rest with
  | x :: rest =>
    match chomping? x with
    | some m =>
      match rest with
      | d :: _ =>
        if d = '0' then none
        else if d.isDigit then some (m, d.toNat - '0'.toNat, c.skip 2)
        else some (m, 0, c.skip 1)
      | [] => some (m, 0, c.skip 1)
    | none =>
      if x = '0' then none
      else if x.isDigit then
        match rest.head?.bind chomping? with
        | some m => some (m, x.toNat - '0'.toNat, c.skip 2)
        | none => some (.clip, x.toNat - '0'.toNat, c.skip 1)
      else some (.clip, 0, c)
  | [] => some (.clip, 0, c)

/-- The line breaks before the next line that is not empty, and the deepest indentation on the
way. With an indentation of zero all spaces are indentation. -/
def blockBreaks (indent : Nat) : Nat → (deepest : Nat) → List Char → Cursor →
    Option (Nat × List Char × Cursor)
  | 0, deepest, breaks, c => some (deepest, breaks, c)
  | steps + 1, deepest, breaks, c =>
    let spaces := (c.takeWhile (· = ' ')).length
    let c := c.skip (if indent = 0 then spaces else min spaces (indent - c.column))
    let deepest := max deepest c.column
    match c.rest with
    | [] => some (deepest, breaks, c)
    | x :: _ =>
      if x = '\t' && (indent = 0 || c.column < indent) then none
      else if isBreak x then
        let (b, c) := c.readBreak
        blockBreaks indent steps deepest (breaks ++ b) c
      else some (deepest, breaks, c)

/-- The lines of a block: the text, the line break of its last line and those after it, and the
place after them. `pending` is the line break of the line before, `breaks` those after it, and
`blank` says whether that line started with white space. -/
def blockLines (folded : Bool) (indent : Nat) : Nat → (text pending breaks : List Char) →
    (blank : Bool) → Cursor → Option (List Char × List Char × List Char × Cursor)
  | 0, text, pending, breaks, _, c => some (text, pending, breaks, c)
  | steps + 1, text, pending, breaks, blank, c =>
    if c.column ≠ indent || c.rest.isEmpty then some (text, pending, breaks, c)
    else do
      let startsBlank := c.rest.head?.any isBlank
      let joint :=
        if folded && !blank && !startsBlank && pending.head? = some '\n' then
          if breaks.isEmpty then [' '] else []
        else pending
      let line := c.takeWhile fun x => !isBreak x
      let (newline, c) := (c.skip line.length).readBreak
      let (_, more, c) ← blockBreaks indent (c.rest.length + 1) 0 [] c
      blockLines folded indent steps (text ++ joint ++ breaks ++ line) newline more startsBlank c

/-- A block scalar from its mark on; `parent` is the indentation around it. -/
def blockScalar (folded : Bool) (parent : Int) (c : Cursor) : Option (String × Cursor) := do
  let (chomping, increment, c) ← blockHeader (c.skip 1)
  let c := c.skipWhile isBlank
  let c := if c.rest.head? = some '#' then c.skipComment else c
  if !breakNext c.rest then none
  let c := c.skipBreak
  let given := if increment = 0 then 0 else parent.toNat + increment
  let (deepest, breaks, c) ← blockBreaks given (c.rest.length + 1) 0 [] c
  let indent := if given = 0 then max deepest (max (parent + 1).toNat 1) else given
  let (text, pending, breaks, c) ←
    blockLines folded indent (c.rest.length + 1) [] [] breaks false c
  let text := if chomping = .strip then text else text ++ pending
  let text := if chomping = .keep then text ++ breaks else text
  return (String.ofList text, c)

end PhpDecl.Yaml
