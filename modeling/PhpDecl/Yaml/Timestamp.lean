import PhpDecl.Text.Digit

/-!
# YAML timestamps

* `daysIn`: the days of a month;
* `number?`: a number of one or two digits within bounds;
* `isTimestamp`: a date, or a date with a time of day.
-/

namespace PhpDecl.Yaml

/-- The days of a month. -/
def daysIn (year month : Nat) : Nat :=
  if month = 2 then
    if year % 4 = 0 && (year % 100 ≠ 0 || year % 400 = 0) then 29 else 28
  else if [4, 6, 9, 11].contains month then 30
  else 31

/-- A number of one or two digits between bounds, and the text after it. -/
def number? (least most : Nat) (cs : List Char) : Option (Nat × List Char) := do
  let ds := (cs.take 2).takeWhile Char.isDigit
  let n ← Text.valueOf? 10 ds
  if least ≤ n && n ≤ most then some (n, cs.drop ds.length) else none

/-- The text after a character. -/
def after? (c : Char) : List Char → Option (List Char)
  | x :: rest => if x = c then some rest else none
  | [] => none

/-- The text after a date at the start. -/
def afterDate? (cs : List Char) : Option (List Char) := do
  let digits := cs.takeWhile Char.isDigit
  if digits.length ≠ 4 then none
  let year ← Text.valueOf? 10 digits
  let cs ← after? '-' (cs.drop 4)
  let (month, cs) ← number? 1 12 cs
  let cs ← after? '-' cs
  let (_, cs) ← number? 1 (daysIn year month) cs
  return cs

/-- The text after a time of day at the start, with any fraction of a second. -/
def afterClock? (cs : List Char) : Option (List Char) := do
  let (_, cs) ← number? 0 23 cs
  let cs ← after? ':' cs
  let (_, cs) ← number? 0 59 cs
  let cs ← after? ':' cs
  let (_, cs) ← number? 0 59 cs
  match cs with
  | p :: d :: rest =>
    if (p = '.' || p = ',') && d.isDigit then return rest.dropWhile Char.isDigit else return cs
  | _ => return cs

/-- The text is an offset from universal time. -/
def isZone : List Char → Bool
  | ['Z'] => true
  | [sign, h, i, ':', m, n] =>
    (sign = '+' || sign = '-') && [h, i, m, n].all Char.isDigit &&
      (number? 0 24 [h, i]).isSome && (number? 0 60 [m, n]).isSome
  | _ => false

/-- The text is a date, a date and a time with an offset behind the letter T, or a date and a time
without one behind spaces. -/
def isTimestamp (text : String) : Bool :=
  match afterDate? text.toList with
  | none => false
  | some [] => true
  | some (c :: rest) =>
    if c = 'T' || c = 't' then (afterClock? rest).any isZone
    else if c = ' ' then afterClock? (rest.dropWhile (· = ' ')) = some []
    else false

end PhpDecl.Yaml
