import PhpDecl.Json.Token

/-!
# JSON values

* `Value`: a JSON value, an object as its members in order;
* `Value.ofTokens?`: the value at the start of a list of tokens, whatever follows it.
-/

namespace PhpDecl.Json

/-- A JSON value. -/
inductive Value where
  | null
  | bool (b : Bool)
  | number (chars : List Char)
  | string (s : String)
  | array (items : List Value)
  | object (members : List (String × Value))
  deriving Inhabited

/-- A value that is not complete yet; parts read so far are held in reverse order. -/
inductive Frame where
  | array (items : List Value)
  | object (members : List (String × Value)) (key : String)

/-- The deepest nesting a value may have. -/
def maxNesting : Nat := 10000

namespace Value

mutual

/-- Read a value inside the frames. -/
def expect (frames : List Frame) : List Token → Option Value
  | .null :: rest => complete frames .null rest
  | .bool b :: rest => complete frames (.bool b) rest
  | .number cs :: rest => complete frames (.number cs) rest
  | .string s :: rest => complete frames (.string s) rest
  | .openArray :: .closeArray :: rest =>
    if frames.length < maxNesting then complete frames (.array []) rest else none
  | .openArray :: rest =>
    if frames.length < maxNesting then expect (.array [] :: frames) rest else none
  | .openObject :: .closeObject :: rest =>
    if frames.length < maxNesting then complete frames (.object []) rest else none
  | .openObject :: .string key :: .colon :: rest =>
    if frames.length < maxNesting then expect (.object [] key :: frames) rest else none
  | _ => none

/-- Go on after a complete value inside the frames. -/
def complete (frames : List Frame) (v : Value) (tokens : List Token) : Option Value :=
  match frames, tokens with
  | [], _ => some v
  | .array items :: outer, .comma :: rest => expect (.array (v :: items) :: outer) rest
  | .array items :: outer, .closeArray :: rest =>
    complete outer (.array (v :: items).reverse) rest
  | .object members key :: outer, .comma :: .string next :: .colon :: rest =>
    expect (.object ((key, v) :: members) next :: outer) rest
  | .object members key :: outer, .closeObject :: rest =>
    complete outer (.object ((key, v) :: members).reverse) rest
  | _, _ => none

end

/-- The value at the start of a list of tokens. -/
def ofTokens? (tokens : List Token) : Option Value := expect [] tokens

end Value

end PhpDecl.Json
