import PhpDecl.Proofs.NullPointers
import PhpDecl.Proofs.Restoration
import PhpDecl.Session

/-!
# The depth over a whole session

Only printing from the margin moves the depth of a printer. A session that does so in no block
never has a negative depth, so that its operations panic for null pointers alone, and since the
depth is all that a printer keeps, what went wrong before does not matter to an operation.

* `Operation.resets`, `Operation.meetsNull`, `Outcome.panic?`: going back to the margin, and panics;
* `Operation.frame_run`, `Operation.panic?_run`: what one operation leaves, and when it panics at a
  natural depth;
* `Step.depth_run`, `depth_runSteps`: the same of steps in which nothing goes back to the margin;
* `Visit`, `Step.visits`: the operations of a session with the depths they are found at;
* `Operation.inBlocks`, `listVisits_inBlocks`: an operation on a fresh printer brought to a depth;
* **`runSteps_depth_discipline`**: the depth over any session.
-/

namespace PhpDecl

open Traced

/-! ## Operations -/

/-- The operation goes back to the margin. -/
def Operation.resets : Operation → Bool
  | .prettyPrint _ => true
  | _ => false

/-- The operation reads something through a null pointer. -/
def Operation.meetsNull : Operation → Bool
  | .render n => Node.isBroken n
  | .prettyPrint stmts | .compactBody stmts | .splitBody stmts | .styleBody stmts =>
    Node.breaksLines (stmts.map (·.map StmtPointer.node))
  | .styleParams nodes _ _ | .decideLayout nodes _ | .maybeMultiline nodes _ =>
    Node.breaksSearch nodes || Node.breaksLines nodes
  | .split nodes | .commaSeparatedMultiline nodes _ => Node.breaksLines nodes
  | .commaSeparated nodes => Node.breaksLine nodes
  | .comments _ | .column _ | .newline => false

/-- The panic of an operation. A fault of the tree is none. -/
def Outcome.panic? (out : Outcome) : Option Failure :=
  match out.result with
  | .ok _ => none
  | .error ⟨.malformed _, _⟩ => none
  | .error ⟨panic, _⟩ => some panic

namespace Outcome

theorem panic?_ofText {r : Run (Except Failure String)} {y : Traced String}
    (h : r.answer = y.result) : (ofText r).panic? = y.panic? := by
  unfold panic? ofText Traced.panic?
  rw [h]
  cases y.result with
  | ok s => rfl
  | error e => cases e <;> rfl

theorem panic?_ofList {r : Run (Except Failure (String × Layout))} {y : Traced (String × Layout)}
    (atFault : Layout) (h : r.answer = y.result) : (ofList atFault r).panic? = y.panic? := by
  unfold panic? ofList Traced.panic?
  rw [h]
  cases y.result with
  | ok s => rfl
  | error e => cases e <;> rfl

end Outcome

namespace Operation

variable (style : Style)

theorem run_prettyPrint (stmts : List (Option StmtPointer)) (d : Int) :
    (prettyPrint stmts).run style d =
      .ofText ⟨(fromMargin style (pointerMembers style stmts)).notes,
        (fromMargin style (pointerMembers style stmts)).result, 0⟩ := by
  rw [run, Printer.prettyPrint_apply]

/-- **Every operation that does not go back to the margin leaves the depth as it was**, whatever
comes of it, and is never below that depth when it asks a style. -/
theorem frame_run {o : Operation} (h : o.resets = false) (d : Int) :
    (o.run style d).depth = d ∧ ∀ n ∈ (o.run style d).notes, n.AtLeast d := by
  have hitems := Printer.stays_nodeItems style
  have hmembers := Printer.stays_pointerMembers style
  cases o with
  | render n => exact (Printer.stays_optNode style n d).frame
  | prettyPrint stmts => exact nomatch h
  | compactBody stmts => exact (Printer.stays_compactBody (hmembers stmts)).frame
  | splitBody stmts => exact (Printer.stays_splitBody (hmembers stmts)).frame
  | styleBody stmts => exact (Printer.stays_body style (hmembers stmts)).frame
  | styleParams nodes column tail =>
    exact (Printer.stays_paramList style (hitems nodes) column tail).frame
  | decideLayout nodes column => exact (Printer.stays_decideLayout (hitems nodes) column).frame
  | split nodes => exact (Printer.stays_split (hitems nodes)).frame
  | commaSeparated nodes => exact (Printer.stays_commaSeparated (hitems nodes)).frame
  | commaSeparatedMultiline nodes trailing =>
    exact (Printer.stays_commaSeparatedMultiline trailing (hitems nodes)).frame
  | maybeMultiline nodes trailing =>
    exact (Printer.stays_maybeMultiline trailing (hitems nodes)).frame
  | comments cs => exact (Printer.Stays.comments cs).frame
  | column lead => exact ⟨rfl, nofun⟩
  | newline => exact Printer.Stays.newline.frame

/-- From a natural depth every operation leads to a natural depth, and asks at natural depths. -/
theorem frame_run_nonneg (o : Operation) {d : Int} (hd : 0 ≤ d) :
    0 ≤ (o.run style d).depth ∧ ∀ n ∈ (o.run style d).notes, n.AtLeast 0 := by
  cases hr : o.resets with
  | false =>
    obtain ⟨hdepth, hnotes⟩ := frame_run style hr d
    rw [hdepth]
    exact ⟨hd, fun n hn => (hnotes n hn).mono hd⟩
  | true =>
    cases o with
    | prettyPrint stmts =>
      rw [run_prettyPrint]
      exact ⟨Int.le_refl 0, (Printer.stays_margin style stmts).noted⟩
    | _ => exact nomatch hr

/-- **At a natural depth an operation panics exactly if it meets a null pointer.** -/
theorem panic?_run (n : Nat) (o : Operation) :
    (o.run style n).panic? = nullPanic o.meetsNull := by
  have hitems := Printer.stays_nodeItems style
  have hmembers := Printer.stays_pointerMembers style
  cases o with
  | render node =>
    rw [run, Outcome.panic?_ofText (Printer.stays_optNode style node n).answer_eq]
    exact panic?_nodeText style node n
  | prettyPrint stmts =>
    rw [run_prettyPrint, Outcome.panic?_ofText rfl]
    exact panic?_bind_pure (panic?_body style stmts 0) _
  | compactBody stmts =>
    rw [run, Outcome.panic?_ofText (Printer.stays_compactBody (hmembers stmts)).answer_eq]
    exact panic?_compactBody style stmts n
  | splitBody stmts =>
    rw [run, Outcome.panic?_ofText (Printer.stays_splitBody (hmembers stmts)).answer_eq]
    exact panic?_bind_pure (panic?_memberBlocks style stmts n) _
  | styleBody stmts =>
    rw [run, Outcome.panic?_ofText (Printer.stays_body style (hmembers stmts)).answer_eq]
    exact panic?_body style stmts n
  | styleParams nodes column tail =>
    have hlist := Printer.stays_paramList (d := n) style (hitems nodes) column tail
    rw [run, Outcome.panic?_ofList _ hlist.answer_eq]
    exact panic?_paramList style nodes n column tail
  | decideLayout nodes column =>
    have hlist := Printer.stays_decideLayout (d := n) (hitems nodes) column
    rw [run, Outcome.panic?_ofList _ hlist.answer_eq]
    exact panic?_decideLayout style nodes n column
  | split nodes =>
    rw [run, Outcome.panic?_ofText (Printer.stays_split (hitems nodes)).answer_eq]
    exact panic?_multilineBlock style nodes n true
  | commaSeparated nodes =>
    rw [run, Outcome.panic?_ofText (Printer.stays_commaSeparated (hitems nodes)).answer_eq]
    exact panic?_commaSeparated style nodes n
  | commaSeparatedMultiline nodes trailing =>
    have hlist := Printer.stays_commaSeparatedMultiline (d := n) trailing (hitems nodes)
    rw [run, Outcome.panic?_ofText hlist.answer_eq]
    exact panic?_itemLines style nodes (n + 1) trailing
  | maybeMultiline nodes trailing =>
    have hlist := Printer.stays_maybeMultiline (d := n) trailing (hitems nodes)
    rw [run, Outcome.panic?_ofText hlist.answer_eq]
    exact panic?_maybeMultiline style nodes n trailing
  | comments cs =>
    rw [run, Outcome.panic?_ofText (Printer.Stays.comments cs).answer_eq, commentText,
      newline_natCast]
    rfl
  | column lead => rfl
  | newline =>
    rw [run, Outcome.panic?_ofText Printer.Stays.newline.answer_eq, newline_natCast]
    rfl

end Operation

/-! ## Blocks -/

mutual

/-- The operations of a step, in order. -/
def Step.operations : Step → List Operation
  | .op o => [o]
  | .block steps _ => Step.listOperations steps

/-- The operations of steps, in order. -/
def Step.listOperations : List Step → List Operation
  | [] => []
  | s :: rest => s.operations ++ Step.listOperations rest

end

section Blocks

variable (style : Style)

mutual

/-- **A step in which nothing goes back to the margin leaves the depth as it was**: a block takes
back the level it added, however it is left. -/
theorem Step.depth_run : ∀ (s : Step), (∀ o ∈ s.operations, o.resets = false) → ∀ d : Int,
    (s.run style d).depth = d
  | .op o, h, d => by
    rw [Step.run]
    exact (o.frame_run style (h o (by rw [Step.operations]; exact List.mem_singleton_self o)) d).1
  | .block steps exit, h, d => by
    rw [Step.operations] at h
    simp only [Step.run, deeper, depth_runSteps steps h (d + 1), Int.add_sub_cancel]

theorem depth_runSteps : ∀ (steps : List Step),
    (∀ o ∈ Step.listOperations steps, o.resets = false) → ∀ d : Int,
    (runSteps style steps d).depth = d
  | [], _, d => by rw [runSteps]
  | s :: rest, h, d => by
    rw [Step.listOperations, List.forall_mem_append] at h
    simp only [runSteps, Step.depth_run s h.1 d, depth_runSteps rest h.2 d]

end

end Blocks

/-! ## Visits -/

/-- An operation of a session: the depth it is found at, and what it did. -/
structure Visit where
  operation : Operation
  before : Int
  outcome : Outcome

mutual

/-- The operations of a step from a depth. -/
def Step.visits (style : Style) : Step → Int → List Visit
  | .op o, d => [⟨o, d, o.run style d⟩]
  | .block steps _, d => Step.listVisits style steps (d + 1)

/-- The operations of steps from a depth. -/
def Step.listVisits (style : Style) : List Step → Int → List Visit
  | [], _ => []
  | s :: rest, d => s.visits style d ++ Step.listVisits style rest (s.run style d).depth

end

mutual

/-- What the operations of a step answered, with the depths they left. -/
def StepResult.answers : StepResult → List (Except Refusal Answer × Int)
  | .op result d => [(result, d)]
  | .block results _ _ => StepResult.listAnswers results

/-- What the operations of steps answered, with the depths they left. -/
def StepResult.listAnswers : List StepResult → List (Except Refusal Answer × Int)
  | [] => []
  | r :: rest => r.answers ++ StepResult.listAnswers rest

end

mutual

/-- The depths after a step and after every step in it. -/
def StepResult.depths : StepResult → List Int
  | .op _ d => [d]
  | .block results _ d => StepResult.listDepths results ++ [d]

/-- The depths after every one of the steps. -/
def StepResult.listDepths : List StepResult → List Int
  | [] => []
  | r :: rest => r.depths ++ StepResult.listDepths rest

end

section Visits

variable (style : Style)

mutual

theorem Step.answers_run : ∀ (s : Step) (d : Int),
    (s.run style d).answer.answers =
      (s.visits style d).map fun v => (v.outcome.result, v.outcome.depth)
  | .op o, d => by
    rw [Step.run, Step.visits, StepResult.answers]
    rfl
  | .block steps exit, d => by
    simp only [Step.run, Step.visits, StepResult.answers, deeper]
    exact listAnswers_runSteps steps (d + 1)

/-- **The answers of a session are those of its operations.** -/
theorem listAnswers_runSteps : ∀ (steps : List Step) (d : Int),
    StepResult.listAnswers (runSteps style steps d).answer =
      (Step.listVisits style steps d).map fun v => (v.outcome.result, v.outcome.depth)
  | [], _ => by
    rw [runSteps, StepResult.listAnswers, Step.listVisits]
    rfl
  | s :: rest, d => by
    simp only [runSteps, StepResult.listAnswers, Step.listVisits, List.map_append,
      Step.answers_run s d, listAnswers_runSteps rest]

end

mutual

theorem Step.notes_run : ∀ (s : Step) (d : Int),
    (s.run style d).notes = (s.visits style d).flatMap fun v => v.outcome.notes
  | .op o, d => by simp [Step.run, Step.visits]
  | .block steps exit, d => by
    simp only [Step.run, Step.visits, deeper]
    exact notes_runSteps steps (d + 1)

/-- **The notes of a session are those of its operations.** -/
theorem notes_runSteps : ∀ (steps : List Step) (d : Int),
    (runSteps style steps d).notes =
      (Step.listVisits style steps d).flatMap fun v => v.outcome.notes
  | [], _ => by
    rw [runSteps, Step.listVisits]
    rfl
  | s :: rest, d => by
    simp only [runSteps, Step.listVisits, List.flatMap_append, Step.notes_run s d,
      notes_runSteps rest]

end

mutual

theorem Step.outcome_of_mem_visits : ∀ (s : Step) (d : Int), ∀ v ∈ s.visits style d,
    v.outcome = v.operation.run style v.before
  | .op o, d, v, hv => by
    rw [Step.visits, List.mem_singleton] at hv
    subst hv
    rfl
  | .block steps exit, d, v, hv => by
    rw [Step.visits] at hv
    exact outcome_of_mem_listVisits steps (d + 1) v hv

theorem outcome_of_mem_listVisits : ∀ (steps : List Step) (d : Int),
    ∀ v ∈ Step.listVisits style steps d, v.outcome = v.operation.run style v.before
  | [], _, v, hv => by
    rw [Step.listVisits] at hv
    cases hv
  | s :: rest, d, v, hv => by
    rw [Step.listVisits, List.mem_append] at hv
    rcases hv with hv | hv
    · exact Step.outcome_of_mem_visits s d v hv
    · exact outcome_of_mem_listVisits rest _ v hv

end

/-- The operation in so many blocks, one in the other. -/
def Operation.inBlocks (o : Operation) : Nat → Step
  | 0 => .op o
  | n + 1 => .block [o.inBlocks n] .normal

theorem Operation.visits_inBlocks (o : Operation) : ∀ (n : Nat) (d : Int),
    (o.inBlocks n).visits style d = [⟨o, d + n, o.run style (d + n)⟩]
  | 0, d => by
    rw [inBlocks, Step.visits, Int.natCast_zero, Int.add_zero]
  | n + 1, d => by
    have hdepth : d + 1 + n = d + (n + 1 : Nat) := by omega
    rw [inBlocks, Step.visits, Step.listVisits, Step.listVisits, List.append_nil,
      visits_inBlocks o n (d + 1), hdepth]

/-- **A fresh printer brought to a depth** by blocks answers as any printer at that depth does. -/
theorem Operation.listVisits_inBlocks (o : Operation) (n : Nat) :
    Step.listVisits style [o.inBlocks n] 0 = [⟨o, n, o.run style n⟩] := by
  rw [Step.listVisits, Step.listVisits, List.append_nil, o.visits_inBlocks style, Int.zero_add]

end Visits

/-! ## Sessions that reset in no block -/

/-- Nothing goes back to the margin in a block. -/
def Step.ResetsOutside : Step → Prop
  | .op _ => True
  | .block steps _ => ∀ o ∈ listOperations steps, o.resets = false

section Sessions

variable (style : Style)

/-- Steps in which nothing goes back to the margin do not do so in a block either. -/
theorem resetsOutside_of_listOperations : ∀ {steps : List Step},
    (∀ o ∈ Step.listOperations steps, o.resets = false) → ∀ s ∈ steps, s.ResetsOutside
  | [], _, s, hs => nomatch hs
  | first :: rest, h, s, hs => by
    rw [Step.listOperations, List.forall_mem_append] at h
    rcases List.mem_cons.mp hs with rfl | hs
    · cases s with
      | op o => trivial
      | block steps exit =>
        rw [Step.operations] at h
        exact h.1
    · exact resetsOutside_of_listOperations h.2 s hs

/-- One step keeps the depth natural. -/
theorem Step.depth_run_nonneg {s : Step} (h : s.ResetsOutside) {d : Int} (hd : 0 ≤ d) :
    0 ≤ (s.run style d).depth := by
  cases s with
  | op o =>
    rw [Step.run]
    exact (o.frame_run_nonneg style hd).1
  | block steps exit =>
    rw [Step.depth_run style (.block steps exit) (by rw [Step.operations]; exact h) d]
    exact hd

mutual

theorem Step.depths_nonneg : ∀ (s : Step), s.ResetsOutside → ∀ {d : Int}, 0 ≤ d →
    (∀ k ∈ (s.run style d).answer.depths, 0 ≤ k) ∧ ∀ v ∈ s.visits style d, 0 ≤ v.before
  | .op o, h, d, hd => by
    have hafter := Step.depth_run_nonneg style h hd
    rw [Step.run] at hafter
    simp only [Step.run, Step.visits, StepResult.depths, List.mem_singleton, forall_eq]
    exact ⟨hafter, hd⟩
  | .block steps exit, h, d, hd => by
    have hafter := Step.depth_run_nonneg style h hd
    have hinner := listDepths_nonneg steps (resetsOutside_of_listOperations h) (d := d + 1)
      (by omega)
    simp only [Step.run, deeper] at hafter
    simp only [Step.run, Step.visits, StepResult.depths, deeper, List.forall_mem_append,
      List.mem_singleton, forall_eq]
    exact ⟨⟨hinner.1, hafter⟩, hinner.2⟩

/-- **The depth is natural after every step** of a session that goes back to the margin in no block,
and every operation is found at a natural depth. -/
theorem listDepths_nonneg : ∀ (steps : List Step), (∀ s ∈ steps, s.ResetsOutside) →
    ∀ {d : Int}, 0 ≤ d →
    (∀ k ∈ StepResult.listDepths (runSteps style steps d).answer, 0 ≤ k) ∧
      ∀ v ∈ Step.listVisits style steps d, 0 ≤ v.before
  | [], _, _, _ => by simp [runSteps, StepResult.listDepths, Step.listVisits]
  | s :: rest, h, d, hd => by
    rw [List.forall_mem_cons] at h
    have hfirst := Step.depths_nonneg s h.1 hd
    have hmore := listDepths_nonneg rest h.2 (Step.depth_run_nonneg style h.1 hd)
    simp only [runSteps, StepResult.listDepths, Step.listVisits, List.forall_mem_append]
    exact ⟨⟨hfirst.1, hmore.1⟩, hfirst.2, hmore.2⟩

end

/-- **Depth discipline over whole sessions.** An operation that does not go back to the margin
leaves any depth as it was, and so does a block in which none does, however it is left. A session
from a natural depth that goes back to the margin in no block has a natural depth after every step
and whenever it notes one. Each of its operations panics exactly if it meets a null pointer, and
does what it does on a fresh printer brought to its depth by blocks. -/
theorem runSteps_depth_discipline :
    (∀ (o : Operation) (d : Int), o.resets = false → (o.run style d).depth = d) ∧
    (∀ (steps : List Step) (exit : Exit) (d : Int),
      (∀ o ∈ Step.listOperations steps, o.resets = false) →
        ((Step.block steps exit).run style d).depth = d) ∧
    ∀ (steps : List Step) (d : Nat),
      (∀ inner exit, .block inner exit ∈ steps →
        ∀ o ∈ Step.listOperations inner, o.resets = false) →
      (∀ k ∈ StepResult.listDepths (runSteps style steps d).answer, 0 ≤ k) ∧
      (∀ n ∈ (runSteps style steps d).notes, n.AtLeast 0) ∧
      StepResult.listAnswers (runSteps style steps d).answer =
        ((Step.listVisits style steps d).map fun v => (v.outcome.result, v.outcome.depth)) ∧
      (runSteps style steps d).notes =
        ((Step.listVisits style steps d).flatMap fun v => v.outcome.notes) ∧
      ∀ v ∈ Step.listVisits style steps d,
        v.outcome.panic? = (if v.operation.meetsNull then some .nullPointer else none) ∧
        ∃ n : Nat, v.before = n ∧ Step.listVisits style [v.operation.inBlocks n] 0 = [v] := by
  refine ⟨fun o d h => (o.frame_run style h d).1, fun steps exit d h => ?_, fun steps d h => ?_⟩
  · exact Step.depth_run style (.block steps exit) (by rw [Step.operations]; exact h) d
  · have hout : ∀ s ∈ steps, s.ResetsOutside := by
      intro s hs
      cases s with
      | op o => trivial
      | block inner exit => exact h inner exit hs
    obtain ⟨hdepths, hbefore⟩ := listDepths_nonneg style steps hout (Int.natCast_nonneg d)
    have hdid := outcome_of_mem_listVisits style steps d
    refine ⟨hdepths, ?_, listAnswers_runSteps style steps d, notes_runSteps style steps d, ?_⟩
    · intro k hk
      rw [notes_runSteps] at hk
      obtain ⟨v, hv, hk⟩ := List.mem_flatMap.mp hk
      rw [hdid v hv] at hk
      exact (v.operation.frame_run_nonneg style (hbefore v hv)).2 k hk
    · intro v hv
      obtain ⟨n, hn⟩ := Int.eq_ofNat_of_zero_le (hbefore v hv)
      have hv := hdid v hv
      rw [hn] at hv
      refine ⟨by rw [hv]; exact v.operation.panic?_run style n, n, hn, ?_⟩
      rw [Operation.listVisits_inBlocks, ← hv, ← hn]

end Sessions

/-- A list of one class that is a null pointer panics in a block when its comments are asked for,
and is a fault of the tree where they are not. Neither matters to the line breaks that follow. -/
theorem runSteps_depth_discipline_after_panic :
    StepResult.listAnswers (runSteps (.extended .standard)
        [.block [.op (.split [some (.null (.stmt .classDecl))]), .op .newline] .panic,
          .op (.commaSeparated [some (.null (.stmt .classDecl))]), .op .newline] (1 : Nat)).answer =
      [(.error ⟨.nullPointer, none⟩, 2), (.ok (.text "\n        "), 2),
        (.error ⟨.malformed .nilClass, none⟩, 1), (.ok (.text "\n    "), 1)] ∧
    ∀ v ∈ Step.listVisits (.extended .standard)
        [.block [.op (.split [some (.null (.stmt .classDecl))]), .op .newline] .panic,
          .op (.commaSeparated [some (.null (.stmt .classDecl))]), .op .newline] (1 : Nat),
      v.outcome.panic? = (if v.operation.meetsNull then some .nullPointer else none) ∧
        ∃ n : Nat, v.before = n ∧
          Step.listVisits (.extended .standard) [v.operation.inBlocks n] 0 = [v] := by
  refine ⟨rfl, ((runSteps_depth_discipline (.extended .standard)).2.2 _ 1 ?_).2.2.2.2⟩
  intro inner exit h o ho
  rcases List.mem_cons.mp h with h | h
  · cases h
    rcases List.mem_cons.mp ho with rfl | ho
    · rfl
    · cases List.mem_singleton.mp ho
      rfl
  · simp at h

-- a block that goes back to the margin is left below it
example : (runSteps .standard [.block [.op (.prettyPrint [])] .normal] 0).depth = -1 := rfl

end PhpDecl
