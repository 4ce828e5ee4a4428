import PhpDecl.Text.Printable

/-!
# Quoted texts in messages

A message shows a text between double quotes on one line: the quote and the backslash are
escaped, control characters have short or hexadecimal escapes, and a character that is not
printable is spelled by its code point.

* `hexDigits`: a number in lower-case hexadecimal of a least width;
* `escapeChar`: how one character is written;
* `quoted`: the text between double quotes.
-/

namespace PhpDecl.Text

/-- `n` in lower-case hexadecimal, filled with zeros to `places` digits. -/
def hexDigits (places n : Nat) : List Char :=
  let digits := Nat.toDigits 16 n
  List.replicate (places - digits.length) '0' ++ digits

/-- The spelling of a character that a quoted text cannot show. -/
def escapeHidden (c : Char) : List Char :=
  match c.toNat with
  | 0x07 => ['\\', 'a']
  | 0x08 => ['\\', 'b']
  | 0x09 => ['\\', 't']
  | 0x0A => ['\\', 'n']
  | 0x0B => ['\\', 'v']
  | 0x0C => ['\\', 'f']
  | 0x0D => ['\\', 'r']
  | n =>
    if n < 0x20 || n == 0x7F then '\\' :: 'x' :: hexDigits 2 n
    else if n < 0x10000 then '\\' :: 'u' :: hexDigits 4 n
    else '\\' :: 'U' :: hexDigits 8 n

/-- How one character is written between double quotes. -/
def escapeChar (c : Char) : List Char :=
  if c = '"' || c = '\\' then ['\\', c]
  else if isPrintable c then [c]
  else escapeHidden c

/-- The text between double quotes. -/
def quoted (s : String) : String :=
  String.ofList ('"' :: s.toList.flatMap escapeChar ++ ['"'])

end PhpDecl.Text
