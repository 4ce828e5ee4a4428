import Mathlib.Tactic.Common
import PhpDecl.Command.World

/-!
# Documents are rendered one after the other

What rendering adds to the output and to the log, the files it leaves and its error depend on the
files it finds and on nothing that was printed or logged before. So the documents at two lists of
paths are rendered by one command as by two, the second one finding the files that the first one
left. A document that cannot be rendered is found out before anything is done for it.

* `World.Effect`, `World.Uniform`: what a step adds to a world, and steps whose effect depends only
  on the files and on whether the output takes text;
* `World.Result.andThen`, **`World.Uniform.andThen`**: the same of one step after another;
* `World.uniform_renderPaths`, `World.renderPaths_append`: rendering documents at paths;
* `World.Unrenderable`, `World.renderPath_of_unrenderable`: a document that cannot be rendered;
* **`World.invoke_render_append`**: the command to render documents.
-/

namespace PhpDecl.World

variable {σ : Type}

/-! ## Effects -/

/-- What a step adds to a world: the files it leaves, what it prints and logs, and its error. -/
structure Effect (σ : Type) where
  files : σ
  printed : String := ""
  logged : String := ""
  error : Option CommandError := none

/-- An effect on a world. -/
def Effect.on (x : Effect σ) (w : World σ) : Result σ :=
  ({ w with files := x.files, output := w.output ++ x.printed, log := w.log ++ x.logged }, x.error)

/-- In worlds with these files, whose output has this fault, the step has this effect. -/
def HasEffect (f : World σ → Result σ) (files : σ) (fault : Option String) (x : Effect σ) : Prop :=
  ∀ w : World σ, w.files = files → w.outputFault = fault → f w = x.on w

/-- The effect of the step depends only on the files and on the fault of the output. -/
def Uniform (f : World σ → Result σ) : Prop := ∀ files fault, ∃ x, HasEffect f files fault x

/-- Go on unless there is an error. -/
def Result.andThen (r : Result σ) (g : World σ → Result σ) : Result σ :=
  match r with
  | (w, none) => g w
  | (w, some e) => (w, some e)

/-- **One step after the other**: the second finds the files of the first, and adds to what it
printed and logged. -/
theorem Uniform.andThen {f g : World σ → Result σ} (hf : Uniform f) (hg : Uniform g) :
    Uniform fun w => (f w).andThen g := by
  intro files fault
  obtain ⟨x, hx⟩ := hf files fault
  cases he : x.error with
  | some e =>
    refine ⟨x, fun w hw ho => ?_⟩
    simp only [hx w hw ho, Effect.on, he, Result.andThen]
  | none =>
    obtain ⟨y, hy⟩ := hg x.files fault
    refine ⟨⟨y.files, x.printed ++ y.printed, x.logged ++ y.logged, y.error⟩, fun w hw ho => ?_⟩
    have hsecond := hy (x.on w).1 rfl ho
    simp only [Effect.on] at hsecond
    simp only [hx w hw ho, Effect.on, he, Result.andThen, hsecond, String.append_assoc]

theorem uniform_return (e : Option CommandError) : Uniform fun w : World σ => (w, e) := by
  intro files fault
  refine ⟨{ files, error := e }, fun w hw ho => ?_⟩
  simp [Effect.on, ← hw]

/-! ## Rendering is uniform -/

section Rendering

variable [Storage σ]

theorem uniform_perform (a : Action) : Uniform fun w : World σ => w.perform a := by
  intro files fault
  cases a with
  | print text =>
    cases fault with
    | some message =>
      obtain ⟨x, hx⟩ := uniform_return (some (.output message)) files (some message)
      refine ⟨x, fun w hw ho => ?_⟩
      rw [← hx w hw ho]
      simp only [perform, ho]
    | none =>
      refine ⟨{ files, printed := text }, fun w hw ho => ?_⟩
      simp [perform, Effect.on, ho, ← hw]
  | makeDirectories path =>
    refine ⟨{ files := (Storage.makeDirectories files path).1,
              error := (Storage.makeDirectories files path).2.map .file }, fun w hw ho => ?_⟩
    simp [perform, Effect.on, hw]
  | write path text =>
    refine ⟨{ files := (Storage.write files path text.toUTF8.toList).1,
              error := (Storage.write files path text.toUTF8.toList).2.map .file },
      fun w hw ho => ?_⟩
    simp [perform, Effect.on, hw]
  | log line =>
    refine ⟨{ files, logged := line }, fun w hw ho => ?_⟩
    simp [perform, Effect.on, ← hw]

theorem uniform_performAll : ∀ actions : List Action,
    Uniform fun w : World σ => w.performAll actions
  | [] => uniform_return none
  | a :: rest => (uniform_perform a).andThen (uniform_performAll rest)

theorem uniform_carryOut (p : Plan) : Uniform fun w : World σ => w.carryOut p :=
  (uniform_performAll p.actions).andThen (uniform_return p.fault)

theorem uniform_renderPath (o : RenderOptions) (path : String) :
    Uniform fun w : World σ => w.renderPath o path := by
  intro files fault
  -- the plan is made from the files, so it is one plan for all these worlds
  cases hr : Storage.read files path with
  | error e =>
    obtain ⟨x, hx⟩ := uniform_return (some (.file e)) files fault
    refine ⟨x, fun w hw ho => ?_⟩
    rw [← hx w hw ho]
    simp only [renderPath, hw, hr]
  | ok content =>
    obtain ⟨x, hx⟩ := uniform_carryOut (planDocument o path content) files fault
    refine ⟨x, fun w hw ho => ?_⟩
    rw [← hx w hw ho]
    simp only [renderPath, hw, hr]

/-- **Rendering documents at paths** has one effect in all worlds with the same files. -/
theorem uniform_renderPaths (o : RenderOptions) : ∀ paths : List String,
    Uniform fun w : World σ => w.renderPaths o paths
  | [] => uniform_return none
  | path :: rest => (uniform_renderPath o path).andThen (uniform_renderPaths o rest)

theorem renderPaths_cons (o : RenderOptions) (w : World σ) (path : String) (rest : List String) :
    w.renderPaths o (path :: rest) =
      (w.renderPath o path).andThen fun w => w.renderPaths o rest := rfl

theorem renderPaths_append (o : RenderOptions) (w : World σ) (xs ys : List String) :
    w.renderPaths o (xs ++ ys) = (w.renderPaths o xs).andThen fun w => w.renderPaths o ys := by
  induction xs generalizing w with
  | nil => rfl
  | cons path rest ih =>
    rw [List.cons_append, renderPaths_cons, renderPaths_cons]
    match w.renderPath o path with
    | (w', some e) => rfl
    | (w', none) => exact ih w'

theorem invoke_render (version : String) (o : RenderOptions) (w : World σ) {paths : List String}
    (h : paths ≠ []) : w.invoke version (.render o paths) = w.renderPaths o paths := by
  cases paths with
  | nil => exact absurd rfl h
  | cons path rest => rfl

/-! ## Documents that cannot be rendered -/

/-- The document at a path cannot be rendered: its file cannot be opened, its format is not
supported, or it has no class or the class has no text. -/
inductive Unrenderable (o : RenderOptions) (files : σ) (path : String) : Prop
  | unopened {e : FileError} (h : Storage.read files path = .error e)
  | unsupported {e : FormatError} (h : o.formatOf path = .error e)
  | undecoded {content : Option (List UInt8)} {format : Format} {e : DocumentError}
      (hr : Storage.read files path = .ok content) (hf : o.formatOf path = .ok format)
      (hc : classOf format content = .error e)
  | unprinted {content : Option (List UInt8)} {format : Format} {c : ClassDecl} {e : Failure}
      (hr : Storage.read files path = .ok content) (hf : o.formatOf path = .ok format)
      (hc : classOf format content = .ok c)
      (hp : (printFile defaultStyle (some c.toStmt)).result = .error e)

theorem exists_noteActions (verbose : Bool) (notes : List Note) :
    ∃ lines : List String, noteActions verbose notes = lines.map .log := by
  unfold noteActions
  split_ifs
  · refine ⟨(notes.filterMap Note.logLine?).map (· ++ "\n"), ?_⟩
    rw [List.map_map]
    rfl
  · exact ⟨[], rfl⟩

theorem performAll_logs (w : World σ) (lines : List String) :
    w.performAll (lines.map .log) = ({ w with log := w.log ++ String.join lines }, none) := by
  induction lines generalizing w with
  | nil => simp [performAll]
  | cons line rest ih =>
    rw [List.map_cons, performAll, perform]
    simp only [ih, String.join_cons, String.append_assoc]

/-- A plan that only logs before it fails. -/
theorem carryOut_logs (w : World σ) (lines : List String) (e : CommandError) :
    w.carryOut { actions := lines.map .log, fault := some e } =
      ({ w with log := w.log ++ String.join lines }, some e) := by
  simp only [carryOut, performAll_logs]

/-- **A document that cannot be rendered leaves everything but the log as it was.** -/
theorem renderPath_of_unrenderable {o : RenderOptions} {w : World σ} {path : String}
    (h : Unrenderable o w.files path) :
    ∃ logged e, w.renderPath o path = ({ w with log := w.log ++ logged }, some e) := by
  have hfail : ∀ e, ∃ logged e', w.carryOut (.fail e) =
      ({ w with log := w.log ++ logged }, some e') := fun e => ⟨_, _, carryOut_logs w [] e⟩
  cases hr : Storage.read w.files path with
  | error e =>
    refine ⟨"", .file e, ?_⟩
    simp [renderPath, hr]
  | ok content =>
    simp only [renderPath, hr]
    cases h with
    | unopened h => cases hr.symm.trans h
    | unsupported h =>
      simp only [planDocument, h]
      exact hfail _
    | undecoded hr' hf hc =>
      cases hr.symm.trans hr'
      simp only [planDocument, hf, hc]
      exact hfail _
    | @unprinted _ _ c e hr' hf hc hp =>
      cases hr.symm.trans hr'
      obtain ⟨lines, hl⟩ :=
        exists_noteActions o.verbose (printFile defaultStyle (some c.toStmt)).notes
      simp only [planDocument, planClass, hf, hc, hp, hl]
      exact ⟨_, _, carryOut_logs w lines _⟩

/-! ## The command -/

/-- A world in which nothing has been printed or logged, and the output takes text. -/
def fresh (files : σ) (input : List UInt8) : World σ := { files, input }

/-- **Rendering is sequential, and all or nothing for each document.** One command for the documents
at two lists of paths does what two commands do, the second one only if the first one had no error,
and finding the files that it left. A document that cannot be rendered ends the command with an
error, and nothing but log lines is added to what those before it left. -/
theorem invoke_render_append (version : String) (o : RenderOptions) (files : σ)
    (input : List UInt8) :
    (∀ xs ys : List String, xs ≠ [] → ys ≠ [] →
      (fresh files input).invoke version (.render o (xs ++ ys)) =
        match (fresh files input).invoke version (.render o xs) with
        | (first, some e) => (first, some e)
        | (first, none) =>
          let (second, e) := (fresh first.files input).invoke version (.render o ys)
          ({ second with output := first.output ++ second.output,
                         log := first.log ++ second.log }, e)) ∧
    ∀ (before after : List String) (path : String) (w : World σ),
      (fresh files input).renderPaths o before = (w, none) → Unrenderable o w.files path →
      ∃ logged e, (fresh files input).invoke version (.render o (before ++ path :: after)) =
        ({ w with log := w.log ++ logged }, some e) := by
  refine ⟨fun xs ys hx hy => ?_, fun before after path w hw h => ?_⟩
  · rw [invoke_render version o _ (by simp [hx]), invoke_render version o _ hx,
      renderPaths_append]
    obtain ⟨x, hfirst⟩ := uniform_renderPaths o xs files none
    obtain ⟨y, hsecond⟩ := uniform_renderPaths o ys x.files none
    simp only [invoke_render version o _ hy, hfirst (fresh files input) rfl rfl, Effect.on,
      Result.andThen]
    cases x.error with
    | some e => rfl
    | none =>
      -- the second command in its own world, and in the one the first command left
      have halone := hsecond (fresh x.files input) rfl rfl
      have hafter := hsecond (x.on (fresh files input)).1 rfl rfl
      simp only [Effect.on] at halone hafter
      simp only [halone, hafter]
      simp [fresh]
  · obtain ⟨logged, e, hp⟩ := renderPath_of_unrenderable h
    refine ⟨logged, e, ?_⟩
    rw [invoke_render version o _ (by simp), renderPaths_append, hw]
    simp only [Result.andThen, renderPaths_cons, hp]

end Rendering

/-- A file system with one document. -/
def oneDocument : FileSystem :=
  (FileSystem.bare ["run"]).install "a.json"
    "\x7b\"class\":\x7b\"name\":\"C\"\x7d\x7d".toUTF8.toList

/-- The file that the first document was rendered to is no document itself. -/
theorem invoke_render_append_written_file :
    ((fresh oneDocument []).renderPaths { out := "out" } ["a.json"]).2 = none ∧
    ((fresh oneDocument []).invoke "dev" (.render { out := "out" } ["a.json", "a.json"])).2 =
      none ∧
    ∃ logged e, (fresh oneDocument []).invoke "dev"
        (.render { out := "out" } ["a.json", "out/C.php", "a.json"]) =
      ({ ((fresh oneDocument []).renderPaths { out := "out" } ["a.json"]).1 with
          log := ((fresh oneDocument []).renderPaths { out := "out" } ["a.json"]).1.log ++ logged },
        some e) := by
  have hfirst : ((fresh oneDocument []).renderPaths { out := "out" } ["a.json"]).2 = none := by
    decide +kernel
  have happend := invoke_render_append "dev" { out := "out" } oneDocument []
  refine ⟨hfirst, ?_, ?_⟩
  · have htwice := happend.1 ["a.json"] ["a.json"] (by decide) (by decide)
    rw [List.singleton_append] at htwice
    rw [htwice]
    decide +kernel
  · exact happend.2 ["a.json"] ["a.json"] "out/C.php" _ (Prod.ext rfl hfirst)
      (.unsupported rfl)

end PhpDecl.World
