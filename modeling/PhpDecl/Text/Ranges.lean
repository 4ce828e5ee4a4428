/-!
# Ranges of code points

A character property is written as a table of inclusive ranges.

* `Ranges`, `Ranges.has`: a table and membership in it.
-/

namespace PhpDecl.Text

/-- Inclusive ranges of code points. -/
abbrev Ranges := List (Nat × Nat)

namespace Ranges

/-- Some range of the table holds the character. -/
def has (table : Ranges) (c : Char) : Bool :=
  table.any fun r => r.1 ≤ c.toNat && c.toNat ≤ r.2

end Ranges

end PhpDecl.Text
