import PhpDecl.Text.Quoted

/-!
# Log lines

A line of the log gives a level, a message, and values with names. A value that is not made of
common characters alone is quoted, and one of several lines stands below its name.

* `Log.escape`, `Log.value`: how values are written;
* `Log.line`: a line of the log.
-/

namespace PhpDecl.Log

/-- A character that is shown as it is without quotes. -/
def isCommon (c : Char) : Bool := '-' ≤ c && c ≤ '~'

/-- How a character is written that is not printable. -/
def escapeHidden (c : Char) : List Char :=
  if c.toNat = 0x7F then '\\' :: 'u' :: Text.hexDigits 4 c.toNat else Text.escapeHidden c

/-- How a character of a value is written. -/
def escapeChar (quotes : Bool) (c : Char) : List Char :=
  if quotes && c = '"' then ['\\', '"']
  else if Text.isPrintable c then [c]
  else escapeHidden c

/-- A value without characters that cannot be shown, and without bare quotes if asked. -/
def escape (quotes : Bool) (cs : List Char) : List Char := cs.flatMap (escapeChar quotes)

/-- What stands before each line of a value of several lines. -/
def margin : List Char := [' ', ' ', '│', ' ']

/-- The lines of a value, each behind the margin. The last one ends the line only if it is empty,
or if something `follows`. -/
def lines (follows : Bool) : List Char → (current : List Char) → List Char
  | [], [] => []
  | [], current => margin ++ escape false current ++ (if follows then ['\n'] else [])
  | c :: rest, current =>
    if c = '\n' then margin ++ escape false current ++ ['\n'] ++ lines follows rest []
    else lines follows rest (current ++ [c])

/-- A value behind its name; `follows` says whether another value comes after it. -/
def field (follows : Bool) (name value : String) : String :=
  let cs := value.toList
  if cs.contains '\n' then "\n  " ++ name ++ "=\n" ++ String.ofList (lines follows cs [])
  else if cs.isEmpty then " " ++ name ++ "=\"\""
  else if cs.all isCommon then " " ++ name ++ "=" ++ value
  else " " ++ name ++ "=" ++ String.ofList ('"' :: escape true cs ++ ['"'])

/-- Values behind their names. -/
def fields : List (String × String) → String
  | [] => ""
  | (name, value) :: rest => field (!rest.isEmpty) name value ++ fields rest

/-- A line of the log. -/
def line (level message : String) (values : List (String × String)) : String :=
  level ++ " " ++ message ++ fields values ++ "\n"

end PhpDecl.Log
