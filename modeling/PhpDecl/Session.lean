import PhpDecl.Printer.Tree

/-!
# Printing sessions

A session is a sequence of operations on one printer, which keeps a depth between them. A block
runs its steps one level deeper and takes the level back however it is left. Printing a list of
statements from the left margin sets the depth to zero wherever it happens, so that a block left
afterwards brings the depth below zero.

* `Operation`, `Operation.run`, `Outcome`: one operation on a printer at a depth;
* `Step`, `Exit`, `StepResult`: the steps of a session and what they answer;
* `Step.run`, `runSteps`: a step, and a sequence of steps, from a depth.
-/

namespace PhpDecl

/-! ## Operations -/

/-- An operation of a printer. -/
inductive Operation where
  | render (node : Option Node)
  | prettyPrint (stmts : List (Option StmtPointer))
  | compactBody (stmts : List (Option StmtPointer))
  | splitBody (stmts : List (Option StmtPointer))
  /-- A body as the style writes it. -/
  | styleBody (stmts : List (Option StmtPointer))
  /-- A parameter list as the style writes it. -/
  | styleParams (nodes : List (Option Node)) (column tail : Int)
  | decideLayout (nodes : List (Option Node)) (column : Int)
  | split (nodes : List (Option Node))
  | commaSeparated (nodes : List (Option Node))
  | commaSeparatedMultiline (nodes : List (Option Node)) (trailing : Bool)
  | maybeMultiline (nodes : List (Option Node)) (trailing : Bool)
  | comments (comments : List Comment)
  | column (lead : String)
  | newline

/-- What an operation answers. -/
inductive Answer where
  | text (text : String)
  | list (text : String) (layout : Layout)
  | column (n : Int)
  deriving DecidableEq, Repr

/-- A failed operation; a list operation that met a malformed tree also answers a layout. -/
structure Refusal where
  failure : Failure
  layout : Option Layout
  deriving DecidableEq, Repr

/-- What an operation did: its notes, its answer or refusal, and the depth it leaves. -/
structure Outcome where
  notes : List Note
  result : Except Refusal Answer
  depth : Int

namespace Outcome

/-- The outcome of an operation that answers a text. -/
def ofText (x : Run (Except Failure String)) : Outcome where
  notes := x.notes
  result :=
    match x.answer with
    | .ok s => .ok (.text s)
    | .error e => .error ⟨e, none⟩
  depth := x.depth

/-- The outcome of an operation that answers a list; `atFault` is the layout answered beside a
fault of the tree. -/
def ofList (atFault : Layout) (x : Run (Except Failure (String × Layout))) : Outcome where
  notes := x.notes
  result :=
    match x.answer with
    | .ok (s, layout) => .ok (.list s layout)
    | .error (.malformed cause) => .error ⟨.malformed cause, some atFault⟩
    | .error panic => .error ⟨panic, none⟩
  depth := x.depth

/-- The outcome of an operation that answers a column. -/
def ofColumn (x : Run (Except Failure Int)) : Outcome where
  notes := x.notes
  result :=
    match x.answer with
    | .ok n => .ok (.column n)
    | .error e => .error ⟨e, none⟩
  depth := x.depth

end Outcome

/-- The outcome of an operation on a printer at a depth. -/
def Operation.run (style : Style) (depth : Int) : Operation → Outcome
  | .render n => .ofText (Printer.optNode style n depth)
  | .prettyPrint stmts => .ofText (Printer.prettyPrint style stmts depth)
  | .compactBody stmts => .ofText (Printer.compactBody (Printer.pointerMembers style stmts) depth)
  | .splitBody stmts => .ofText (Printer.splitBody (Printer.pointerMembers style stmts) depth)
  | .styleBody stmts => .ofText (Printer.body style (Printer.pointerMembers style stmts) depth)
  | .styleParams nodes col tail =>
    .ofList .singleLine (Printer.paramList style (Printer.nodeItems style nodes) col tail depth)
  | .decideLayout nodes col =>
    .ofList (Printer.layoutAtFailure (Printer.nodeItems style nodes))
      (Printer.decideLayout (Printer.nodeItems style nodes) col depth)
  | .split nodes => .ofText (Printer.split (Printer.nodeItems style nodes) depth)
  | .commaSeparated nodes => .ofText (Printer.commaSeparated (Printer.nodeItems style nodes) depth)
  | .commaSeparatedMultiline nodes trailing =>
    .ofText (Printer.commaSeparatedMultiline (Printer.nodeItems style nodes) trailing depth)
  | .maybeMultiline nodes trailing =>
    .ofText (Printer.maybeMultiline (Printer.nodeItems style nodes) trailing depth)
  | .comments cs => .ofText (Printer.comments cs depth)
  | .column lead => .ofColumn (Printer.column lead depth)
  | .newline => .ofText (Printer.newline depth)

/-! ## Steps -/

/-- How a block is left after its steps. -/
inductive Exit where
  | normal | failure | panic
  deriving DecidableEq, Repr

/-- The message of a block that was not left normally. -/
def Exit.message? : Exit → Option String
  | .normal => none
  | .failure => some "nested failed"
  | .panic => some "nested panicked"

/-- A step of a session. -/
inductive Step where
  | op (o : Operation)
  /-- Steps one level deeper. -/
  | block (steps : List Step) (exit : Exit)

/-- What a step answers, with the depth after it. -/
inductive StepResult where
  | op (result : Except Refusal Answer) (depth : Int)
  | block (results : List StepResult) (exit : Exit) (depth : Int)

mutual

/-- One step from a depth. A failure inside a block is answered by its step, and the block goes
on. -/
def Step.run (style : Style) : Step → Int → Run StepResult
  | .op o, depth =>
    let out := o.run style depth
    ⟨out.notes, .op out.result out.depth, out.depth⟩
  | .block steps exit, depth =>
    let inner := deeper (runSteps style steps) depth
    ⟨inner.notes, .block inner.answer exit inner.depth, inner.depth⟩

/-- Steps one after the other. -/
def runSteps (style : Style) : List Step → Int → Run (List StepResult)
  | [], depth => ⟨[], [], depth⟩
  | s :: rest, depth =>
    let first := s.run style depth
    let more := runSteps style rest first.depth
    ⟨first.notes ++ more.notes, first.answer :: more.answer, more.depth⟩

end

end PhpDecl
