import PhpDecl.Tree.Error

/-!
# Rendering with notes

Rendering an element gives a text or a failure, and on the way it takes notes: the layout
decisions, and the questions put to a recorded style. Notes taken before a failure are kept.

* `Note`, `Note.logLine?`, `Failure`: what is noted, what of it is logged, and how rendering can
  fail;
* `Traced`: a result with its notes, a monad that keeps notes in the order they were taken;
* `Traced.note`, `Traced.fail`, `Traced.malformed`, `Traced.ofExcept`, `Traced.within`.
-/

namespace PhpDecl

/-- Something noted while rendering. -/
inductive Note where
  /-- A recorded style was asked for a parameter list. -/
  | askedParams (count : Nat) (column tail depth : Int)
  /-- A recorded style was asked for a body. -/
  | askedBody (count : Nat) (depth : Int)
  /-- A parameter list was wrapped. -/
  | wrapped (params : Nat) (column : Int)
  /-- The members of a body were set apart. -/
  | separated (members : Nat) (depth : Int)
  deriving DecidableEq, Repr

/-- The log line of a layout decision. -/
def Note.logLine? : Note → Option String
  | .wrapped params column =>
    some ("DEBU wrapped parameter list params=" ++ params.repr ++ " column=" ++ column.repr)
  | .separated members depth =>
    some ("DEBU separating body members members=" ++ members.repr ++ " depth=" ++ depth.repr)
  | _ => none

/-- How rendering can fail. -/
inductive Failure where
  | malformed (cause : TreeError)
  /-- A line was to be indented by a negative amount. -/
  | negativeIndent
  /-- Something was to be read through a null pointer. -/
  | nullPointer
  deriving DecidableEq, Repr

/-- The wording of a failure. -/
def Failure.message : Failure → String
  | .malformed cause => cause.message
  | .negativeIndent => "strings: negative Repeat count"
  | .nullPointer => "runtime error: invalid memory address or nil pointer dereference"

/-- A result with the notes taken on the way to it. -/
structure Traced (α : Type) where
  notes : List Note
  result : Except Failure α

namespace Traced

variable {α β : Type}

/-- A value without notes. -/
def ok (a : α) : Traced α := ⟨[], .ok a⟩

/-- Go on with the value, if there is one, keeping the notes in order. -/
def andThen (x : Traced α) (f : α → Traced β) : Traced β :=
  match x.result with
  | .ok a => ⟨x.notes ++ (f a).notes, (f a).result⟩
  | .error e => ⟨x.notes, .error e⟩

instance : Monad Traced where
  pure := ok
  bind := andThen

/-- Take a note. -/
def note (n : Note) : Traced Unit := ⟨[n], .ok ()⟩

/-- Fail without a note. -/
def fail (e : Failure) : Traced α := ⟨[], .error e⟩

/-- Fail because of the tree. -/
def malformed (cause : TreeError) : Traced α := fail (.malformed cause)

/-- The result of a step that takes no notes. -/
def ofExcept : Except TreeError α → Traced α
  | .ok a => ok a
  | .error cause => malformed cause

/-- Name the declaration around a fault of the tree. -/
def within (wrap : TreeError → TreeError) (x : Traced α) : Traced α :=
  match x.result with
  | .error (.malformed cause) => ⟨x.notes, .error (.malformed (wrap cause))⟩
  | _ => x

end Traced

end PhpDecl
