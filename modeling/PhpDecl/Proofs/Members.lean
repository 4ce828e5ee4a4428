import Mathlib.Tactic.Common
import PhpDecl.Render.Declaration

/-!
# The statements of a body

What a body looks like depends on a few facts about its statements, which do not depend on how they
are rendered.

* `Stmt.setApart`: one of the statements declares a class member, with **`separated_members`**;
* `Stmt.shown`: the number of statements that show anything;
* `length_members`: every statement is a member.
-/

namespace PhpDecl

/-- One of the statements is of a kind that is set apart by blank lines. -/
def Stmt.setApart (stmts : List (Option Stmt)) : Bool :=
  stmts.any fun s => s.any fun s => s.kind.setsApart

/-- The number of statements that show anything: all but those with neither code nor comments. -/
def Stmt.shown (stmts : List (Option Stmt)) : Nat :=
  stmts.countP fun s => s.any fun s => !(s.isNop && s.comments.isEmpty)

theorem length_members (style : Style) (stmts : List (Option Stmt)) :
    (members style stmts).length = stmts.length := by
  induction stmts with
  | nil => rfl
  | cons s stmts ih => rw [members, List.length_cons, ih, List.length_cons]

/-- **Whether members are set apart depends on the statements alone.** -/
theorem separated_members (style : Style) (stmts : List (Option Stmt)) :
    separated (members style stmts) = Stmt.setApart stmts := by
  induction stmts with
  | nil => rfl
  | cons s stmts ih =>
    rw [separated] at ih
    rw [members, separated, List.any_cons, ih, Stmt.setApart, Stmt.setApart, List.any_cons]
    cases s <;> rfl

end PhpDecl
