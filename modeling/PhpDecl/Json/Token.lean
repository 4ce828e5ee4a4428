import PhpDecl.Text.Digit
import PhpDecl.Text.Utf8

/-!
# JSON tokens

* `Token`: what a JSON text is made of;
* `joinUnits`: the characters of a string from its characters and escaped UTF-16 units;
* `isNumber`: the grammar of numbers;
* `tokens`: the tokens of a text, up to the first place that has none.
-/

namespace PhpDecl.Json

/-- A token of a JSON text. -/
inductive Token where
  | openObject | closeObject | openArray | closeArray | comma | colon
  | null
  | bool (b : Bool)
  | number (chars : List Char)
  | string (s : String)
  /-- A place that starts no token. -/
  | bad
  deriving DecidableEq, Repr

/-! ## Strings -/

/-- A character of a string, or a UTF-16 unit that an escape names. -/
inductive Unit16 where
  | char (c : Char)
  | unit (n : Nat)

/-- The characters of a string: two units that form a surrogate pair are one character, and any
other surrogate is the replacement character. -/
def joinUnits : List Unit16 → List Char
  | [] => []
  | .char c :: rest => c :: joinUnits rest
  | .unit hi :: .unit lo :: rest =>
    if 0xD800 ≤ hi && hi < 0xDC00 && 0xDC00 ≤ lo && lo < 0xE000 then
      Char.ofNat (0x10000 + (hi - 0xD800) * 0x400 + (lo - 0xDC00)) :: joinUnits rest
    else if 0xD800 ≤ hi && hi < 0xE000 then Text.Utf8.replacement :: joinUnits (.unit lo :: rest)
    else Char.ofNat hi :: joinUnits (.unit lo :: rest)
  | .unit n :: rest =>
    if 0xD800 ≤ n && n < 0xE000 then Text.Utf8.replacement :: joinUnits rest
    else Char.ofNat n :: joinUnits rest

/-- The value of four hexadecimal digits. -/
def hexUnit? (a b c d : Char) : Option Nat := Text.valueOf? 16 [a, b, c, d]

/-- The character that a short escape stands for. -/
def shortEscape? (c : Char) : Option Char :=
  match c with
  | '"' | '\\' | '/' => some c
  | 'b' => some '\x08'
  | 'f' => some '\x0c'
  | 'n' => some '\n'
  | 'r' => some '\r'
  | 't' => some '\t'
  | _ => none

/-! ## Numbers -/

/-- The digits at the start of a list, and the rest. -/
def spanDigits (cs : List Char) : List Char × List Char := cs.span Char.isDigit

/-- Nothing, or an exponent. -/
def isExponent : List Char → Bool
  | [] => true
  | e :: rest =>
    (e = 'e' || e = 'E') &&
      match rest with
      | '+' :: ds | '-' :: ds => !ds.isEmpty && ds.all Char.isDigit
      | ds => !ds.isEmpty && ds.all Char.isDigit

/-- Nothing, or a fraction and an exponent, each of which may be missing. -/
def isFraction : List Char → Bool
  | '.' :: rest =>
    let (ds, after) := spanDigits rest
    !ds.isEmpty && isExponent after
  | rest => isExponent rest

/-- A number without a sign; its integer part has no leading zero. -/
def isUnsigned (cs : List Char) : Bool :=
  match cs with
  | '0' :: rest => isFraction rest
  | _ =>
    let (ds, after) := spanDigits cs
    !ds.isEmpty && isFraction after

/-- A number. -/
def isNumber : List Char → Bool
  | '-' :: rest => isUnsigned rest
  | cs => isUnsigned cs

/-- A character that can stand in a number. -/
def isNumberChar (c : Char) : Bool :=
  c.isDigit || c = '-' || c = '+' || c = '.' || c = 'e' || c = 'E'

/-- The token of the characters of a number. -/
def numberToken (cs : List Char) : Token := if isNumber cs then .number cs else .bad

/-! ## Tokens -/

/-- White space between tokens. -/
def isSpace (c : Char) : Bool := c = ' ' || c = '\t' || c = '\r' || c = '\n'

/-- What the next character belongs to; parts read so far are held in reverse order. -/
inductive Mode where
  | between
  | inString (read : List Unit16)
  | inNumber (read : List Char)

/-- The tokens of a text from a mode on. -/
def tokensFrom : Mode → List Char → List Token
  | .between, [] => []
  | .inString _, [] => [.bad]
  | .inNumber read, [] => [numberToken read.reverse]
  | .inString read, '"' :: cs =>
    .string (String.ofList (joinUnits read.reverse)) :: tokensFrom .between cs
  | .inString read, '\\' :: 'u' :: a :: b :: c :: d :: cs =>
    match hexUnit? a b c d with
    | some n => tokensFrom (.inString (.unit n :: read)) cs
    | none => [.bad]
  | .inString read, '\\' :: e :: cs =>
    match shortEscape? e with
    | some c => tokensFrom (.inString (.char c :: read)) cs
    | none => [.bad]
  | .inString read, c :: cs =>
    if c.toNat < 0x20 || c = '\\' then [.bad] else tokensFrom (.inString (.char c :: read)) cs
  | .inNumber read, c :: cs =>
    if isNumberChar c then tokensFrom (.inNumber (c :: read)) cs
    else
      numberToken read.reverse ::
        (match c with
        | ',' => .comma :: tokensFrom .between cs
        | ']' => .closeArray :: tokensFrom .between cs
        | '}' => .closeObject :: tokensFrom .between cs
        | _ => if isSpace c then tokensFrom .between cs else [.bad])
  | .between, 't' :: 'r' :: 'u' :: 'e' :: cs => .bool true :: tokensFrom .between cs
  | .between, 'f' :: 'a' :: 'l' :: 's' :: 'e' :: cs => .bool false :: tokensFrom .between cs
  | .between, 'n' :: 'u' :: 'l' :: 'l' :: cs => .null :: tokensFrom .between cs
  | .between, c :: cs =>
    if isSpace c then tokensFrom .between cs
    else if c.isDigit || c = '-' then tokensFrom (.inNumber [c]) cs
    else
      match c with
      | '{' => .openObject :: tokensFrom .between cs
      | '}' => .closeObject :: tokensFrom .between cs
      | '[' => .openArray :: tokensFrom .between cs
      | ']' => .closeArray :: tokensFrom .between cs
      | ',' => .comma :: tokensFrom .between cs
      | ':' => .colon :: tokensFrom .between cs
      | '"' => tokensFrom (.inString []) cs
      | _ => [.bad]

/-- The tokens of a text. -/
def tokens (cs : List Char) : List Token := tokensFrom .between cs

end PhpDecl.Json
