import PhpDecl.Text.Decimal

/-!
# TOML strings, numbers and dates

* `unescape`: the value of the characters between the quotes of a string, of one line or of
  several;
* `endOfLine`, `endOfBasic`, `endOfMultiline`, `endOfRawMultiline`: where a string ends;
* `Scalar`: a value that is neither an array nor a table;
* `spanNumber`: the characters of a number or a date, and what they are taken for;
* `integerOf?`, `floatOk`, `dateOk`: what those characters have to look like.
-/

namespace PhpDecl.Toml

/-! ## Strings -/

/-- White space inside a line. -/
def isSpace (c : Char) : Bool := c = ' ' || c = '\t'

/-- A part of a line break. -/
def isBreak (c : Char) : Bool := c = '\n' || c = '\r'

/-- The character that a short escape stands for. -/
def shortEscape? (c : Char) : Option Char :=
  match c with
  | 'b' => some '\x08'
  | 't' => some '\t'
  | 'n' => some '\n'
  | 'f' => some '\x0c'
  | 'r' => some '\r'
  | '"' | '\\' => some c
  | _ => none

/-- The characters start with white space that holds a line break. -/
def blankToNextLine (cs : List Char) : Bool :=
  (cs.takeWhile fun c => isSpace c || isBreak c).contains '\n'

/-- The value of the characters between the quotes of a string. In a string of several lines a
backslash before a line break drops all white space up to the next text; `dropping` is set inside
such white space. -/
def unescape (multiline : Bool) : (dropping : Bool) → List Char → Option (List Char)
  | _, [] => some []
  | _, '\\' :: 'u' :: a :: b :: c :: d :: rest => do
    let x ← Text.hexChar? [a, b, c, d]
    let more ← unescape multiline false rest
    return x :: more
  | _, '\\' :: 'U' :: a :: b :: c :: d :: e :: f :: g :: h :: rest => do
    let x ← Text.hexChar? [a, b, c, d, e, f, g, h]
    let more ← unescape multiline false rest
    return x :: more
  | _, '\\' :: rest =>
    if multiline && blankToNextLine rest then unescape multiline true rest
    else
      match rest with
      | [] => none
      | e :: after => do
        let x ← shortEscape? e
        let more ← unescape multiline false after
        return x :: more
  | dropping, c :: rest =>
    if dropping && (isSpace c || isBreak c) then unescape multiline true rest
    else (unescape multiline false rest).map (c :: ·)

/-- Without the line break right after the opening quotes. -/
def dropFirstBreak : List Char → List Char
  | '\n' :: rest => rest
  | '\r' :: '\n' :: rest => rest
  | cs => cs

/-- The characters up to a closing single quote on the same line, and the text after it. -/
def endOfRaw : List Char → Option (List Char × List Char)
  | [] => none
  | '\'' :: rest => some ([], rest)
  | c :: rest => if isBreak c then none else (endOfRaw rest).map fun r => (c :: r.1, r.2)

/-- The characters up to a closing double quote on the same line, and the text after it. -/
def endOfBasic : List Char → Option (List Char × List Char)
  | [] => none
  | '"' :: rest => some ([], rest)
  | '\\' :: e :: rest => (endOfBasic rest).map fun r => ('\\' :: e :: r.1, r.2)
  | c :: rest => if isBreak c then none else (endOfBasic rest).map fun r => (c :: r.1, r.2)

/-- The characters up to three closing quotes, and the text after them: up to two quotes may stand
right before the closing ones. `seen` holds the characters before, in reverse order. -/
def endOfQuotes (q : Char) (escapes : Bool) (seen : List Char) :
    List Char → Option (List Char × List Char)
  | [] => none
  | c :: rest =>
    if escapes && c = '\\' then
      match rest with
      | [] => none
      | e :: after => endOfQuotes q escapes (e :: c :: seen) after
    else if c = q then
      match rest with
      | a :: b :: after =>
        if a = q && b = q then
          if after.head? = some q then
            if tooMany then none else endOfQuotes q escapes (c :: seen) rest
          else some (seen.reverse, after)
        else endOfQuotes q escapes (c :: seen) rest
      | _ => endOfQuotes q escapes (c :: seen) rest
    else endOfQuotes q escapes (c :: seen) rest
where
  /-- Two quotes stand before the next three, and no backslash before them where one escapes. -/
  tooMany : Bool :=
    match seen with
    | a :: b :: before => a = q && b = q && !(escapes && before.head? = some '\\')
    | _ => false

/-- The value of a string after its opening double quote, and the text after it. -/
def basicString (cs : List Char) : Option (String × List Char) := do
  let (raw, rest) ← endOfBasic cs
  let value ← unescape false false raw
  return (String.ofList value, rest)

/-- The value of a string after its opening single quote, and the text after it. -/
def rawString (cs : List Char) : Option (String × List Char) := do
  let (raw, rest) ← endOfRaw cs
  return (String.ofList raw, rest)

/-- The value of a string after its opening quote or quotes, of one line or of several. -/
def stringAfterQuote (q : Char) (cs : List Char) : Option (String × List Char) :=
  match cs with
  | a :: b :: rest =>
    if a = q && b = q then do
      let (raw, rest) ← endOfQuotes q (q = '"') [] rest
      let raw := dropFirstBreak raw
      if q = '"' then
        let value ← unescape true false raw
        return (String.ofList value, rest)
      else
        return (String.ofList raw, rest)
    else single
  | _ => single
where
  /-- A string of one line. -/
  single : Option (String × List Char) := if q = '"' then basicString cs else rawString cs

/-! ## Numbers and dates -/

/-- What the characters of a number or a date are taken for. -/
inductive NumberKind where
  | integer | float | date
  deriving DecidableEq, Repr

/-- A float from some place on. -/
def spanFloat (cs : List Char) : NumberKind × List Char × List Char :=
  let isPart := fun c : Char =>
    c.isDigit || c = '_' || c = '.' || c = '-' || c = '+' || c = 'e' || c = 'E'
  (.float, cs.takeWhile isPart, cs.dropWhile isPart)

/-- A date or a time from some place on. -/
def spanDate (cs : List Char) : NumberKind × List Char × List Char :=
  let isPart := fun c : Char =>
    c.isDigit || ['-', ':', 'T', 't', ' ', '.', 'Z', 'z', '+'].contains c
  (.date, cs.takeWhile isPart, cs.dropWhile isPart)

/-- Whether a float goes on at this place. -/
def startsFloat : List Char → Bool
  | c :: _ => c = '.' || c = 'e' || c = 'E'
  | [] => false

/-- A decimal number with underscores from some place on. -/
def spanDecimal (cs : List Char) : NumberKind × List Char × List Char :=
  let ds := cs.takeWhile fun c => c.isDigit || c = '_'
  let rest := cs.drop ds.length
  if startsFloat rest then
    let (kind, more, rest) := spanFloat rest
    (kind, ds ++ more, rest)
  else (.integer, ds, rest)

/-- A number or a date that starts with a digit. -/
def spanUnsigned (cs : List Char) : NumberKind × List Char × List Char :=
  let ds := cs.takeWhile Char.isDigit
  let rest := cs.drop ds.length
  let join := fun (x : NumberKind × List Char × List Char) => (x.1, ds ++ x.2.1, x.2.2)
  match rest with
  | c :: _ =>
    if c = '_' || startsFloat rest then join (spanDecimal rest)
    else if (c = '-' || c = ':') && (ds.length > 1 || ds.head? ≠ some '0') then
      join (spanDate rest)
    else (.integer, ds, rest)
  | [] => (.integer, ds, rest)

/-- The base that a letter after a zero stands for. -/
def baseOf? (c : Char) : Option Nat :=
  match c with
  | 'b' => some 2
  | 'o' => some 8
  | 'x' => some 16
  | _ => none

/-- A number or a date, and the text after it. -/
def spanNumber (cs : List Char) : Option (NumberKind × List Char × List Char) :=
  match cs with
  | '0' :: b :: rest =>
    match baseOf? b with
    | some base =>
      let isPart := fun c => (Text.digitValue? base c).isSome || c = '_'
      let ds := rest.takeWhile isPart
      match rest with
      | d :: _ =>
        if (Text.digitValue? base d).isSome then
          some (.integer, '0' :: b :: ds, rest.drop ds.length)
        else none
      | [] => none
    | none => some (spanUnsigned cs)
  | c :: rest =>
    if c.isDigit then some (spanUnsigned cs)
    else if c = '+' || c = '-' then
      match rest with
      | 'i' :: 'n' :: 'f' :: after => some (.float, c :: ['i', 'n', 'f'], after)
      | 'n' :: 'a' :: 'n' :: after => some (.float, c :: ['n', 'a', 'n'], after)
      | d :: after =>
        if d = '0' && (after.head?.bind baseOf?).isSome then none
        else if d.isDigit then
          let (kind, more, rest) := spanDecimal rest
          some (kind, c :: more, rest)
        else none
      | [] => none
    else none
  | [] => none

/-- Every underscore stands between characters that can be digits, and the last character can be
one. -/
def underscoresOk : (before : Bool) → List Char → Bool
  | before, [] => before
  | before, c :: cs => (c ≠ '_' || before) && underscoresOk (Text.isHex c) cs

/-- The number is written with a zero too many in front. -/
def leadingZero : List Char → Bool
  | '0' :: c :: _ => (baseOf? c).isNone
  | s :: '0' :: _ :: _ => s = '-' || s = '+'
  | _ => false

/-- The integer of its characters. -/
def integerOf? (cs : List Char) : Option Int :=
  if !underscoresOk false cs || leadingZero cs then none
  else
    match cs.filter (· ≠ '_') with
    | '0' :: b :: ds =>
      match baseOf? b with
      | some base => (Text.valueOf? base ds).bind (Text.int64? false)
      | none => none
    | '-' :: ds => (Text.valueOf? 10 ds).bind (Text.int64? true)
    | '+' :: ds => (Text.valueOf? 10 ds).bind (Text.int64? false)
    | ds => (Text.valueOf? 10 ds).bind (Text.int64? false)

/-- Every point is followed by a digit. -/
def pointsOk : List Char → Bool
  | '.' :: c :: cs => c.isDigit && pointsOk (c :: cs)
  | ['.'] => false
  | _ :: cs => pointsOk cs
  | [] => true

/-- The characters are a float. -/
def floatOk (cs : List Char) : Bool :=
  let special := [['i', 'n', 'f'], ['n', 'a', 'n']].contains (Text.dropSign cs).2
  let parts := (cs.splitBy fun a b => !(isMark a) && !(isMark b)).filter fun p =>
    !(p.all isMark)
  special ||
    (parts.all (underscoresOk false) && !(parts.head?.any leadingZero) && pointsOk cs &&
      (Text.Decimal.ofChars? (cs.filter (· ≠ '_'))).any Text.Decimal.isFinite)
where
  /-- A character that separates the parts of a float. -/
  isMark (c : Char) : Bool := c = '.' || c = 'e' || c = 'E'

/-! ## Dates -/

/-- Two digits as a number. -/
def twoDigits? (a b : Char) : Option Nat :=
  if a.isDigit && b.isDigit then Text.valueOf? 10 [a, b] else none

/-- The days of a month. -/
def daysIn (year month : Nat) : Nat :=
  if month = 2 then
    if year % 4 = 0 && (year % 100 ≠ 0 || year % 400 = 0) then 29 else 28
  else if month = 4 || month = 6 || month = 9 || month = 11 then 30
  else 31

/-- The text after a date at the start. -/
def afterDay? : List Char → Option (List Char)
  | y1 :: y2 :: y3 :: y4 :: '-' :: m1 :: m2 :: '-' :: d1 :: d2 :: rest => do
    let high ← twoDigits? y1 y2
    let low ← twoDigits? y3 y4
    let month ← twoDigits? m1 m2
    let day ← twoDigits? d1 d2
    let year := high * 100 + low
    if 1 ≤ month && month ≤ 12 && 1 ≤ day && day ≤ daysIn year month then some rest else none
  | _ => none

/-- The text after a time at the start, with any fraction of a second. -/
def afterTime? : List Char → Option (List Char)
  | h1 :: h2 :: ':' :: m1 :: m2 :: ':' :: s1 :: s2 :: rest => do
    let hour ← twoDigits? h1 h2
    let minute ← twoDigits? m1 m2
    let second ← twoDigits? s1 s2
    if hour < 24 && minute < 60 && second < 60 then
      match rest with
      | '.' :: d :: after => if d.isDigit then some (after.dropWhile Char.isDigit) else some rest
      | _ => some rest
    else none
  | _ => none

/-- The text is an offset from universal time. -/
def isOffset : List Char → Bool
  | ['Z'] => true
  | [s, h1, h2, ':', m1, m2] =>
    (s = '+' || s = '-') &&
      match twoDigits? h1 h2, twoDigits? m1 m2 with
      | some h, some m => h ≤ 24 && m ≤ 60
      | _, _ => false
  | _ => false

/-- The characters are a date, a time, or both, with an offset only if there are both. -/
def dateOk (cs : List Char) : Bool :=
  let cs := cs.map fun c => if c = 'z' then 'Z' else if c = 't' || c = ' ' then 'T' else c
  match afterDay? cs with
  | some [] => true
  | some ('T' :: rest) =>
    match afterTime? rest with
    | some [] => true
    | some offset => isOffset offset
    | none => false
  | some _ => false
  | none => afterTime? cs = some []

/-! ## Scalars -/

/-- A value that is neither an array nor a table. -/
inductive Scalar where
  | string (s : String)
  | integer (n : Int)
  | float
  | bool (b : Bool)
  | date
  deriving DecidableEq, Repr

/-- The number or date of its characters. -/
def scalarOf? (kind : NumberKind) (cs : List Char) : Option Scalar :=
  match kind with
  | .integer => (integerOf? cs).map .integer
  | .float => if floatOk cs then some .float else none
  | .date =>
    if dateOk ((cs.reverse.dropWhile (· = ' ')).reverse) then some .date else none

/-- A scalar at the start of a text, and the text after it. -/
def scalar? (cs : List Char) : Option (Scalar × List Char) :=
  match cs with
  | '"' :: rest => (stringAfterQuote '"' rest).map fun r => (.string r.1, r.2)
  | '\'' :: rest => (stringAfterQuote '\'' rest).map fun r => (.string r.1, r.2)
  | 't' :: 'r' :: 'u' :: 'e' :: rest => some (.bool true, rest)
  | 'f' :: 'a' :: 'l' :: 's' :: 'e' :: rest => some (.bool false, rest)
  | 'i' :: 'n' :: 'f' :: rest => some (.float, rest)
  | 'n' :: 'a' :: 'n' :: rest => some (.float, rest)
  | _ => do
    let (kind, chars, rest) ← spanNumber cs
    let s ← scalarOf? kind chars
    return (s, rest)

end PhpDecl.Toml
