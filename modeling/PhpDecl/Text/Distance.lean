/-!
# The distance of two words

* `nextRow`, `editDistance`: how many letters have to be put in, left out or replaced to get from
  one word to another.
-/

namespace PhpDecl.Text

variable {α : Type} [DecidableEq α]

/-- The distances of a word with one more letter `c` from the beginnings of another word `t`, after
the one to its left. `row` holds the distances without that letter. -/
def nextRow (c : α) : (t : List α) → (row : List Nat) → (left : Nat) → List Nat
  | d :: t, diagonal :: above :: row, left =>
    let n := if c = d then diagonal else min (min left above) diagonal + 1
    n :: nextRow c t (above :: row) n
  | _, _, _ => []

/-- The least number of letters to put in, leave out or replace to get from one word to another. -/
def editDistance (s t : List α) : Nat :=
  let first := List.range (t.length + 1)
  let last := s.foldl (fun row c =>
    let left := row.headD 0 + 1
    left :: nextRow c t row left) first
  last.getLastD 0

end PhpDecl.Text
