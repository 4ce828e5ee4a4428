import PhpDecl.Render.Item

/-!
# A printer with a depth of its own

A printer keeps its depth between uses. Whatever is printed a level deeper raises the depth on the
way in and lowers it on the way out, also when the way out is a failure.

* `Run`, `deeper`: what a use of a printer did, and the same one level deeper;
* `Printer`: uses of a printer with an answer or a failure, a monad that stops at the first failure
  and leaves the depth as it was there;
* `Printer.depth`, `Printer.reset`, `Printer.nested`: the depth read, set to the margin and raised;
* `Printer.lift`, `Printer.note`, `Printer.malformed`, `Printer.within`: what does not concern the
  depth;
* `Printer.newline`, `Printer.column`, `Printer.comments`: what only reads it.
-/

namespace PhpDecl

/-- What a use of a printer did: its notes, its answer, and the depth it leaves. -/
structure Run (α : Type) where
  notes : List Note
  answer : α
  depth : Int

/-- A use of a printer one level deeper; the level is taken back however it ends. -/
def deeper {α : Type} (f : Int → Run α) (depth : Int) : Run α :=
  let inner := f (depth + 1)
  { inner with depth := inner.depth - 1 }

/-- A use of a printer, from the depth it is found at. -/
def Printer (α : Type) : Type := Int → Run (Except Failure α)

namespace Printer

variable {α β : Type}

/-- Go on with the answer, if there is one, from the depth that was left. -/
def andThen (x : Printer α) (f : α → Printer β) : Printer β := fun depth =>
  let first := x depth
  match first.answer with
  | .ok a =>
    let more := f a first.depth
    ⟨first.notes ++ more.notes, more.answer, more.depth⟩
  | .error e => ⟨first.notes, .error e, first.depth⟩

instance : Monad Printer where
  pure a := fun depth => ⟨[], .ok a, depth⟩
  bind := andThen

/-! ## Without the depth -/

/-- A step that knows no depth. -/
def lift (x : Traced α) : Printer α := fun depth => ⟨x.notes, x.result, depth⟩

/-- Take a note. -/
def note (n : Note) : Printer Unit := lift (.note n)

/-- Fail because of the tree. -/
def malformed (cause : TreeError) : Printer α := lift (.malformed cause)

/-- Name the declaration around a fault of the tree. -/
def within (wrap : TreeError → TreeError) (x : Printer α) : Printer α := fun depth =>
  let inner := x depth
  match inner.answer with
  | .error (.malformed cause) => { inner with answer := .error (.malformed (wrap cause)) }
  | _ => inner

/-! ## With the depth -/

/-- The depth. -/
def depth : Printer Int := fun depth => ⟨[], .ok depth, depth⟩

/-- Back to the margin, from whatever depth. -/
def reset : Printer Unit := fun _ => ⟨[], .ok (), 0⟩

/-- One level deeper. -/
def nested (x : Printer α) : Printer α := deeper x

/-- A line break followed by the indentation of the depth. -/
def newline : Printer String := do
  lift (PhpDecl.newline (← depth))

/-- The column at which the text after `lead` starts, when `lead` is written at the beginning of
an indented line. -/
def column (lead : String) : Printer Int :=
  return columnAfter (← depth) lead

/-- Comments, every line of them on a line of its own. -/
def comments (cs : List Comment) : Printer String := do
  let nl ← newline
  return nl.intercalate (cs.flatMap fun c => c.lines.map String.ofList)

end Printer

end PhpDecl
