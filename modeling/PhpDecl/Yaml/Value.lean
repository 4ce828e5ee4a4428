import PhpDecl.Text.Base64
import PhpDecl.Text.Decimal
import PhpDecl.Text.Utf8
import PhpDecl.Yaml.Timestamp

/-!
# Values of YAML scalars

A scalar without quotes and tag is taken for what it looks like. A tag of a common type asks for a
value of that type, and any other tag makes a text.

* `FloatValue`, `Value`, `Value.tag`: values and the tags of their types;
* `integerOf?`, `floatOf?`: numbers;
* `plainValue`: what a scalar without quotes and tag looks like;
* `valueOf?`: the value of a scalar;
* `Value.int64?`, `Value.flag?`: values as integers of 64 bits and as flags.
-/

namespace PhpDecl.Yaml

/-- A float, given by a number that is next to it. -/
inductive FloatValue where
  | finite (d : Text.Decimal)
  | infinite (negative : Bool)
  | nan
  deriving DecidableEq, Repr

/-- The value of a scalar. -/
inductive Value where
  | null
  | bool (b : Bool)
  | integer (n : Int)
  | float (f : FloatValue)
  | time
  | text (s : String)
  deriving DecidableEq, Repr

/-- The tag of the type of a value. -/
def Value.tag : Value → String
  | .null => "!!null"
  | .bool _ => "!!bool"
  | .integer _ => "!!int"
  | .float _ => "!!float"
  | .time => "!!timestamp"
  | .text _ => "!!str"

/-! ## Words and numbers -/

/-- The words with a meaning. -/
def words : List (List String × Value) :=
  [(["true", "True", "TRUE"], .bool true),
    (["false", "False", "FALSE"], .bool false),
    (["", "~", "null", "Null", "NULL"], .null),
    ([".nan", ".NaN", ".NAN"], .float .nan),
    ([".inf", ".Inf", ".INF", "+.inf", "+.Inf", "+.INF"], .float (.infinite false)),
    (["-.inf", "-.Inf", "-.INF"], .float (.infinite true))]

/-- The meaning of a word. -/
def wordValue? (text : String) : Option Value :=
  (words.find? fun w => w.1.contains text).map (·.2)

/-- The base that a letter after a zero stands for. -/
def baseOf? (c : Char) : Option Nat :=
  match c with
  | 'b' | 'B' => some 2
  | 'o' | 'O' => some 8
  | 'x' | 'X' => some 16
  | _ => none

/-- The value of digits without a sign. A zero in front makes them octal, unless a letter gives
another base. -/
def magnitude? : List Char → Option Nat
  | ['0'] => some 0
  | '0' :: b :: ds =>
    match baseOf? b, ds with
    | some base, _ :: _ => Text.valueOf? base ds
    | _, _ => Text.valueOf? 8 (b :: ds)
  | ds => Text.valueOf? 10 ds

/-- The integer of its characters, if it fits in a signed word of 64 bits or, without a sign, in
an unsigned one. -/
def wordInteger? (cs : List Char) : Option Int := do
  let (negative, ds) := Text.dropSign cs
  let n ← magnitude? ds
  match Text.int64? negative n with
  | some i => return i
  | none => if ds.length = cs.length && n < Text.wordLimit then some n else none

/-- A sign may also stand behind the letter of a base of two or eight. -/
def innerSign? : List Char → Option Int
  | '0' :: b :: rest =>
    if b = 'b' || b = 'o' then do
      let (negative, n) ← Text.signedValue? (if b = 'b' then 2 else 8) rest
      Text.int64? negative n
    else none
  | _ => none

/-- The float of its characters. -/
def floatOf? (cs : List Char) : Option Value := do
  let d ← Text.Decimal.ofChars? cs
  if d.isFinite then some (.float (.finite d)) else none

/-- The number of its characters; underscores do not matter. -/
def numberOf? (cs : List Char) : Option Value :=
  let cs := cs.filter (· ≠ '_')
  match wordInteger? cs with
  | some n => some (.integer n)
  | none => (floatOf? cs).or ((innerSign? cs).map .integer)

/-- Every underscore stands between digits. -/
def underscoresInside : (afterDigit : Bool) → List Char → Bool
  | _, [] => true
  | afterDigit, '_' :: cs => afterDigit && cs.head?.any Char.isDigit && underscoresInside false cs
  | _, c :: cs => underscoresInside c.isDigit cs

/-- What a scalar without quotes and tag looks like. -/
def plainValue (text : String) : Value :=
  match wordValue? text with
  | some v => v
  | none =>
    let cs := text.toList
    match cs with
    | c :: _ =>
      if c = '.' then
        if underscoresInside false cs then (floatOf? (cs.filter (· ≠ '_'))).getD (.text text)
        else .text text
      else if c.isDigit || c = '+' || c = '-' then (numberOf? cs).getD (.text text)
      else .text text
    | [] => .text text

/-! ## Tags -/

/-- The common types of values that are not texts. -/
def typeTags : List String := ["!!null", "!!bool", "!!int", "!!float", "!!timestamp"]

/-- The value asked for by the tag of a common type. An integer in a signed word also makes a
float. -/
def typedValue? (tag text : String) : Option Value :=
  let v := if tag = "!!timestamp" && isTimestamp text then .time else plainValue text
  match v with
  | .integer n =>
    if tag = "!!float" && n < Text.signLimit then
      some (.float (.finite ⟨decide (n < 0), n.natAbs, 0⟩))
    else if tag = "!!int" then some v
    else none
  | v => if v.tag = tag then some v else none

/-- The value of a scalar with a tag, in short form and empty if there is none. -/
def valueOf? (tag : String) (plain : Bool) (text : String) : Option Value :=
  if tag = "" then some (if plain then plainValue text else .text text)
  else if tag = "!!binary" then do
    let bytes ← Text.base64Bytes? text
    return .text (String.ofList (Text.Utf8.decodeLossy bytes))
  else if typeTags.contains tag then typedValue? tag text
  else some (.text text)

/-! ## Values of fields -/

/-- The least signed integer of 64 bits. -/
def minInt64 : Int := -Text.signLimit

/-- The value as a signed integer of 64 bits. A float loses its fraction; the float one above the
largest integer, and all floats below the least one, become the least one. -/
def Value.int64? : Value → Option Int
  | .integer n => if minInt64 ≤ n && n < Text.signLimit then some n else none
  | .float (.finite d) =>
    if d.negative then some (max minInt64 (-(d.whole : Int)))
    else if d.whole < Text.signLimit then some d.whole
    else if d.whole = Text.signLimit then some minInt64
    else none
  | .float (.infinite true) => some minInt64
  | _ => none

/-- The value as a flag; some words are flags only where one is asked for. -/
def Value.flag? : Value → Option Bool
  | .bool b => some b
  | .text s =>
    if ["y", "Y", "yes", "Yes", "YES", "on", "On", "ON"].contains s then some true
    else if ["n", "N", "no", "No", "NO", "off", "Off", "OFF"].contains s then some false
    else none
  | _ => none

end PhpDecl.Yaml
