import PhpDecl.Proofs.Places
import PhpDecl.Proofs.Sequencing

/-!
# What rendering does to the files

Rendering to a directory makes the directory, with those around it that are missing, and writes one
file for each class. The file of a class stands below the directory, unless the name of the class
climbs out of it: names are not checked, so such a file is written wherever its name leads.

* `FileSystem.lookup_insert_of_ne`, `FileSystem.Grown`: file systems that differ by new directories
  and by files;
* `FileSystem.grown_of_write`, `FileSystem.grown_makeChain`: writing files and making directories;
* `Rendering`, `RenderOptions.rendering?`, `planDocument_cases`: what is written for a document;
* `World.renderings`: what a command writes;
* `World.Renders`, `World.renders_renderPath`, **`World.renders_renderPaths`**: one document, and
  one after the other;
* **`World.invoke_render_places`**: the command to render documents to a directory.
-/

namespace PhpDecl

namespace FileSystem

/-! ## New directories and files -/

section Lookup

variable {fs : FileSystem} {p q : Place}

theorem lookup_filter_ne (h : q ≠ p) (entries : List (Place × Entry)) :
    (entries.filter fun x => x.1 ≠ p).lookup q = entries.lookup q := by
  induction entries with
  | nil => rfl
  | cons x entries ih =>
    obtain ⟨k, e⟩ := x
    rw [List.filter_cons]
    by_cases hk : k = p
    · have hq : (q == k) = false := beq_eq_false_iff_ne.mpr fun hq => h (hq.trans hk)
      rw [if_neg (by simpa using hk), ih, List.lookup_cons, hq]
    · rw [if_pos (by simpa using hk), List.lookup_cons, List.lookup_cons, ih]

theorem lookup_insert_of_ne (h : q ≠ p) (e : Entry) : (fs.insert p e).lookup q = fs.lookup q := by
  have hbeq : (q == p) = false := beq_eq_false_iff_ne.mpr h
  rw [lookup, lookup, insert, List.lookup_cons, hbeq, lookup_filter_ne h]

theorem lookup_insert_self (h : p ≠ []) (e : Entry) : (fs.insert p e).lookup p = some e := by
  rw [lookup, if_neg h, insert, List.lookup_cons_self]

end Lookup

/-- The second file system is the first one with new directories in empty places and with files in
places, as far as they are allowed there. -/
structure Grown (dirs : Place → Prop) (files : Place → List UInt8 → Prop)
    (before after : FileSystem) : Prop where
  current : after.current = before.current
  lookup : ∀ p, after.lookup p = before.lookup p ∨
    (before.lookup p = none ∧ after.lookup p = some .directory ∧ dirs p) ∨
    ∃ content, after.lookup p = some (.file content) ∧ files p content

namespace Grown

variable {dirs dirs' : Place → Prop} {files files' : Place → List UInt8 → Prop}
  {fs fs' fs'' : FileSystem}

theorem refl (fs : FileSystem) : Grown dirs files fs fs := ⟨rfl, fun _ => .inl rfl⟩

theorem mono (h : Grown dirs files fs fs') (hd : ∀ p, dirs p → dirs' p)
    (hf : ∀ p content, files p content → files' p content) : Grown dirs' files' fs fs' := by
  refine ⟨h.current, fun p => ?_⟩
  rcases h.lookup p with h | ⟨hnone, hdir, hp⟩ | ⟨content, hfile, hp⟩
  · exact .inl h
  · exact .inr (.inl ⟨hnone, hdir, hd p hp⟩)
  · exact .inr (.inr ⟨content, hfile, hf p content hp⟩)

theorem trans (h : Grown dirs files fs fs') (h' : Grown dirs files fs' fs'') :
    Grown dirs files fs fs'' := by
  refine ⟨h'.current.trans h.current, fun p => ?_⟩
  rcases h'.lookup p with he' | ⟨hnone', hdir', hp'⟩ | hfile'
  · rw [he']
    exact h.lookup p
  · -- what is empty after the first step was empty before it
    rcases h.lookup p with he | ⟨_, hdir, _⟩ | ⟨content, hfile, _⟩
    · exact .inr (.inl ⟨he ▸ hnone', hdir', hp'⟩)
    · rw [hdir] at hnone'
      cases hnone'
    · rw [hfile] at hnone'
      cases hnone'
  · exact .inr (.inr hfile')

/-- A file that is allowed stays one. -/
theorem file_stays (h : Grown dirs files fs fs') {p : Place}
    (hp : ∃ content, fs.lookup p = some (.file content) ∧ files p content) :
    ∃ content, fs'.lookup p = some (.file content) ∧ files p content := by
  rcases h.lookup p with he | ⟨hnone, _⟩ | hfile
  · rw [he]
    exact hp
  · obtain ⟨content, hp, _⟩ := hp
    rw [hnone] at hp
    cases hp
  · exact hfile

theorem place_eq (h : Grown dirs files fs fs') (path : String) :
    fs'.place path = fs.place path := by
  rw [place, place, h.current]

end Grown

/-! ## Operations -/

section Operations

variable {fs fs' : FileSystem} {path : String}

/-- **A file that is written** stands at the place of its path, and nothing else changes. -/
theorem grown_of_write {content : List UInt8} (h : fs.write path content = .ok fs') :
    Grown (fun _ => False) (fun p bytes => p = fs.place path ∧ bytes = content) fs fs' ∧
      fs'.lookup (fs.place path) = some (.file content) := by
  rw [write] at h
  cases hr : fs.resolve path with
  | error e =>
    rw [hr] at h
    cases h
  | ok p =>
    obtain ⟨-, rfl⟩ := eq_place_of_resolve hr
    rw [hr] at h
    have hne : fs.place path ≠ [] := by
      intro hroot
      rw [hroot] at h
      cases h
    have hinsert : fs' = fs.insert (fs.place path) (.file content) := by
      generalize fs.place path = p at h
      cases hl : fs.lookup p with
      | none =>
        simp only [bind, Except.bind, hl, named] at h
        cases h
        rfl
      | some e =>
        cases e with
        | directory =>
          simp only [bind, Except.bind, hl, named] at h
          cases h
        | file old =>
          simp only [bind, Except.bind, hl, named] at h
          cases h
          rfl
    subst hinsert
    refine ⟨⟨rfl, fun p => ?_⟩, lookup_insert_self hne _⟩
    by_cases hp : p = fs.place path
    · subst hp
      exact .inr (.inr ⟨content, lookup_insert_self hne _, rfl, rfl⟩)
    · exact .inl (lookup_insert_of_ne hp _)

/-- A directory that is made stands at the place of its path, which was empty. -/
theorem grown_of_makeDirectory (h : fs.makeDirectory path = .ok fs') :
    Grown (· = fs.place path) (fun _ _ => False) fs fs' := by
  rw [makeDirectory] at h
  cases hr : fs.resolve (trimSlashes path) with
  | error e =>
    rw [hr] at h
    cases h
  | ok p =>
    obtain ⟨hne, hplace⟩ := eq_place_of_resolve hr
    rw [place_trimSlashes fs hne] at hplace
    rw [hr] at h
    cases hl : fs.lookup p with
    | some e =>
      simp only [bind, Except.bind, hl, named] at h
      cases h
    | none =>
      simp only [bind, Except.bind, hl, named] at h
      cases h
      have hroot : p ≠ [] := by
        rintro rfl
        cases hl
      refine ⟨rfl, fun q => ?_⟩
      by_cases hq : q = p
      · subst hq
        exact .inr (.inl ⟨hl, lookup_insert_self hroot _, hplace⟩)
      · exact .inl (lookup_insert_of_ne hq _)

/-- **A chain of directories** grows in empty places that its paths lead to. -/
theorem grown_makeChain (fs : FileSystem) (paths : List String) :
    Grown (fun p => ∃ q ∈ paths, p = fs.place q) (fun _ _ => False) fs (fs.makeChain paths).1 := by
  induction paths with
  | nil => exact .refl fs
  | cons path around ih =>
    have haround : Grown (fun p => ∃ q ∈ path :: around, p = fs.place q) (fun _ _ => False) fs
        (fs.makeChain around).1 := by
      refine ih.mono ?_ fun _ _ h => h
      rintro p ⟨q, hq, rfl⟩
      exact ⟨q, List.mem_cons_of_mem _ hq, rfl⟩
    rw [makeChain]
    cases fs.stat path with
    | ok e => cases e <;> exact .refl fs
    | error e =>
      rcases hm : fs.makeChain around with ⟨made, fault⟩
      rw [hm] at haround
      cases fault with
      | some e => exact haround
      | none =>
        dsimp only
        cases hd : made.makeDirectory path with
        | error e => exact haround
        | ok made' =>
          refine haround.trans ((grown_of_makeDirectory hd).mono ?_ fun _ _ h => h)
          rintro p rfl
          exact ⟨path, List.mem_cons_self, haround.place_eq path⟩

end Operations

end FileSystem

/-! ## Classes that are written -/

/-- The name and the text of a class. -/
structure Rendering where
  className : String
  text : String
  deriving DecidableEq, Repr

/-- What is written for the document with a name and a content, if it can be rendered. -/
def RenderOptions.rendering? (o : RenderOptions) (name : String) (content : Option (List UInt8)) :
    Option Rendering :=
  match o.formatOf name with
  | .error _ => none
  | .ok format =>
    match classOf format content with
    | .error _ => none
    | .ok c =>
      match (printFile defaultStyle (some c.toStmt)).result with
      | .error _ => none
      | .ok text => some ⟨c.head.name, text⟩

/-- **The plan for a document** only logs before it fails, or it delivers the text of a class. -/
theorem planDocument_cases (o : RenderOptions) (name : String) (content : Option (List UInt8)) :
    (∃ (lines : List String) (e : CommandError), planDocument o name content =
      { actions := lines.map .log, fault := some e }) ∨
    ∃ (lines : List String) (c text : String), o.rendering? name content = some ⟨c, text⟩ ∧
      planDocument o name content = { actions := lines.map .log ++ deliver o name c text } := by
  unfold planDocument RenderOptions.rendering?
  cases o.formatOf name with
  | error e => exact .inl ⟨[], _, rfl⟩
  | ok format =>
    dsimp only
    cases classOf format content with
    | error e => exact .inl ⟨[], _, rfl⟩
    | ok c =>
      obtain ⟨lines, hl⟩ :=
        World.exists_noteActions o.verbose (printFile defaultStyle (some c.toStmt)).notes
      dsimp only
      rw [planClass]
      cases (printFile defaultStyle (some c.toStmt)).result with
      | error e => exact .inl ⟨lines, _, by rw [hl]⟩
      | ok text => exact .inr ⟨lines, c.head.name, text, rfl, by rw [hl]⟩

namespace World

section Renderings

variable {σ : Type} [Storage σ]

/-- What is written for the document at a path. -/
def renderingAt (o : RenderOptions) (w : World σ) (path : String) : Option Rendering :=
  match Storage.read w.files path with
  | .error _ => none
  | .ok content => o.rendering? path content

/-- What is written for the documents at paths, up to the first error. -/
def renderingsAlong (o : RenderOptions) : World σ → List String → List Rendering
  | _, [] => []
  | w, path :: rest =>
    match w.renderPath o path with
    | (_, some _) => []
    | (w', none) => (w.renderingAt o path).toList ++ renderingsAlong o w' rest

/-- What a command to render writes: the documents at paths, or the one on the input. -/
def renderings (o : RenderOptions) (w : World σ) (paths : List String) : List Rendering :=
  if paths.isEmpty then
    match w.carryOut (planInput o w.input) with
    | (_, some _) => []
    | (_, none) => (o.rendering? "stdin" (some w.input)).toList
  else w.renderingsAlong o paths

theorem performAll_append (w : World σ) (xs ys : List Action) :
    w.performAll (xs ++ ys) = (w.performAll xs).andThen fun w => w.performAll ys := by
  induction xs generalizing w with
  | nil => rfl
  | cons x xs ih =>
    rw [List.cons_append, performAll, performAll]
    rcases w.perform x with ⟨w', _ | e⟩
    · exact ih w'
    · rfl

end Renderings

/-! ## Rendering to a directory -/

section Rendering

variable {o : RenderOptions}

/-- The places of a directory and of those around it, as far as its text shows. -/
def onTheWay (files : FileSystem) (dir : String) (p : Place) : Prop :=
  ∃ q ∈ Path.ancestors dir, p = files.place q

/-- The place is that of the file of a class, and the content is its text. -/
def delivered (o : RenderOptions) (files : FileSystem) (rs : List Rendering) (p : Place)
    (content : List UInt8) : Prop :=
  ∃ r ∈ rs, p = files.place (o.destination r.className) ∧ content = r.text.toUTF8.toList

/-- What writing the classes may do to the files, and that each of them is written. -/
structure Renders (o : RenderOptions) (rs : List Rendering) (before after : FileSystem) : Prop where
  grown : before.Grown (onTheWay before o.out) (delivered o before rs) after
  written : ∀ r ∈ rs, ∃ content,
    after.lookup (before.place (o.destination r.className)) = some (.file content) ∧
      delivered o before rs (before.place (o.destination r.className)) content

theorem onTheWay_congr {files files' : FileSystem} (h : files'.current = files.current)
    (dir : String) : onTheWay files' dir = onTheWay files dir := by
  unfold onTheWay FileSystem.place
  rw [h]

theorem delivered_congr {files files' : FileSystem} (h : files'.current = files.current)
    (rs : List Rendering) : delivered o files' rs = delivered o files rs := by
  unfold delivered FileSystem.place
  rw [h]

namespace Renders

variable {rs more : List Rendering} {fs fs' fs'' : FileSystem}

theorem none (fs : FileSystem) : Renders o [] fs fs := ⟨.refl fs, nofun⟩

/-- One after the other. A file that is written twice keeps the second text. -/
theorem trans (h : Renders o rs fs fs') (h' : Renders o more fs' fs'') :
    Renders o (rs ++ more) fs fs'' := by
  have hc := h.grown.current
  have hleft : ∀ p content, delivered o fs rs p content →
      delivered o fs (rs ++ more) p content := by
    rintro p content ⟨r, hr, hp⟩
    exact ⟨r, List.mem_append_left _ hr, hp⟩
  have hright : ∀ p content, delivered o fs more p content →
      delivered o fs (rs ++ more) p content := by
    rintro p content ⟨r, hr, hp⟩
    exact ⟨r, List.mem_append_right _ hr, hp⟩
  have hsecond : fs'.Grown (onTheWay fs o.out) (delivered o fs (rs ++ more)) fs'' := by
    have hg := h'.grown
    rw [onTheWay_congr hc, delivered_congr hc] at hg
    exact hg.mono (fun _ hp => hp) hright
  refine ⟨(h.grown.mono (fun _ hp => hp) hleft).trans hsecond, ?_⟩
  intro r hr
  rcases List.mem_append.mp hr with hr | hr
  · obtain ⟨content, hfile, hd⟩ := h.written r hr
    exact hsecond.file_stays ⟨content, hfile, hleft _ _ hd⟩
  · obtain ⟨content, hfile, hd⟩ := h'.written r hr
    rw [h.grown.place_eq] at hfile hd
    rw [delivered_congr hc] at hd
    exact ⟨content, hfile, hright _ _ hd⟩

end Renders

/-- The text of a class is delivered: its directory is made, and then its file is written. -/
theorem performAll_deliver (hout : o.out ≠ "") (w : World) (name c text : String) :
    ∃ w' e, w.performAll (deliver o name c text) = (w', e) ∧
      (e = none → Renders o [⟨c, text⟩] w.files w'.files) ∧
      (e ≠ none → Renders o [] w.files w'.files) := by
  have hchain := w.files.grown_makeChain (Path.ancestors o.out)
  rw [deliver, if_neg hout]
  rcases hm : w.files.makeDirectories o.out with ⟨files, fault⟩
  have hmade : Renders o [] w.files files := by
    refine ⟨?_, fun r hr => absurd hr List.not_mem_nil⟩
    rw [← FileSystem.makeDirectories, hm] at hchain
    exact hchain.mono (fun _ h => h) fun _ _ h => h.elim
  have hmake : w.perform (.makeDirectories o.out) =
      ({ w with files }, fault.map CommandError.file) := by
    simp only [perform, Storage.makeDirectories, hm]
  cases fault with
  | some e =>
    refine ⟨{ w with files }, some (.file e), ?_, fun h => absurd h (Option.some_ne_none _),
      fun _ => hmade⟩
    rw [performAll, hmake]
    rfl
  | none =>
    cases hw : files.write (o.destination c) text.toUTF8.toList with
    | error e =>
      refine ⟨{ w with files }, some (.file e), ?_, fun h => absurd h (Option.some_ne_none _),
        fun _ => hmade⟩
      rw [performAll, hmake]
      simp only [Option.map_none, performAll, perform, Storage.write, hw, Option.map_some]
    | ok files' =>
      obtain ⟨hgrown, hfile⟩ := FileSystem.grown_of_write hw
      have hdelivered : delivered o files [⟨c, text⟩] (files.place (o.destination c))
          text.toUTF8.toList := ⟨⟨c, text⟩, List.mem_singleton_self _, rfl, rfl⟩
      have hwritten : Renders o [⟨c, text⟩] files files' := by
        refine ⟨hgrown.mono (fun _ h => h.elim) ?_, ?_⟩
        · rintro p content ⟨rfl, rfl⟩
          exact hdelivered
        · intro r hr
          obtain rfl := List.mem_singleton.mp hr
          exact ⟨_, hfile, hdelivered⟩
      let line := Log.line "INFO" "Rendered" [("src", name), ("dest", o.destination c)]
      refine ⟨{ w with files := files', log := w.log ++ line }, none, ?_,
        fun _ => hmade.trans hwritten, fun h => absurd rfl h⟩
      rw [performAll, hmake]
      simp only [Option.map_none, performAll, perform, Storage.write, hw]
      rfl

/-- **The plan for a document** writes the file of its class, or only makes directories. -/
theorem carryOut_planDocument (hout : o.out ≠ "") (w : World) (name : String)
    (content : Option (List UInt8)) :
    ∃ w' e, w.carryOut (planDocument o name content) = (w', e) ∧
      (e = none → Renders o (o.rendering? name content).toList w.files w'.files) ∧
      (e ≠ none → Renders o [] w.files w'.files) := by
  rcases planDocument_cases o name content with ⟨lines, e, hplan⟩ | ⟨lines, c, text, hc, hplan⟩
  · refine ⟨{ w with log := w.log ++ String.join lines }, some e, ?_, nofun, fun _ =>
      Renders.none w.files⟩
    rw [hplan, carryOut_logs]
  · obtain ⟨w', e, hperform, hok, herror⟩ := performAll_deliver hout
      { w with log := w.log ++ String.join lines } name c text
    refine ⟨w', e, ?_, ?_, herror⟩
    · rw [hplan, carryOut, performAll_append, performAll_logs]
      simp only [Result.andThen, hperform]
      cases e <;> rfl
    · rw [hc]
      exact hok

theorem renders_renderPath (hout : o.out ≠ "") (w : World) (path : String) :
    ∃ w' e, w.renderPath o path = (w', e) ∧
      (e = none → Renders o (w.renderingAt o path).toList w.files w'.files) ∧
      (e ≠ none → Renders o [] w.files w'.files) := by
  unfold renderPath renderingAt
  cases Storage.read w.files path with
  | error e => exact ⟨w, _, rfl, nofun, fun _ => Renders.none w.files⟩
  | ok content => exact carryOut_planDocument hout w path content

/-- **Documents at paths**: each step writes one class, and the run those of its steps. -/
theorem renders_renderPaths (hout : o.out ≠ "") (w : World) (paths : List String) :
    Renders o (w.renderingsAlong o paths) w.files (w.renderPaths o paths).1.files := by
  induction paths generalizing w with
  | nil => exact Renders.none w.files
  | cons path rest ih =>
    obtain ⟨w', e, hstep, hok, herror⟩ := renders_renderPath hout w path
    rw [renderingsAlong, renderPaths, hstep]
    cases e with
    | none => exact (hok rfl).trans (ih w')
    | some e => exact herror nofun

theorem renders_invoke (hout : o.out ≠ "") (version : String) (w : World) (paths : List String) :
    Renders o (w.renderings o paths) w.files (w.invoke version (.render o paths)).1.files := by
  cases paths with
  | cons path rest => exact renders_renderPaths hout w (path :: rest)
  | nil =>
    rw [invoke, renderings, List.isEmpty_nil, if_pos rfl, planInput]
    by_cases hformat : o.format = ""
    · rw [if_pos hformat]
      exact Renders.none w.files
    · rw [if_neg hformat]
      obtain ⟨w', e, hrun, hok, herror⟩ := carryOut_planDocument hout w "stdin" (some w.input)
      rw [hrun]
      cases e with
      | none => exact hok rfl
      | some e => exact herror nofun

end Rendering

/-- **What a command that renders to a directory changes.** The directory and those around it are
made where places are empty. Otherwise only the files of rendered classes change: each then holds
the text of its class, and stands below the directory unless the name of the class climbs out of it.
The file of every rendered class is written, wherever its name leads. -/
theorem invoke_render_places (version : String) (o : RenderOptions) (w : World)
    (paths : List String) (hout : o.out ≠ "") :
    (∀ p, (w.invoke version (.render o paths)).1.files.lookup p ≠ w.files.lookup p →
      (w.files.lookup p = none ∧
        (w.invoke version (.render o paths)).1.files.lookup p = some .directory ∧
        ∃ q ∈ Path.ancestors o.out, p = w.files.place q) ∨
      ∃ r ∈ w.renderings o paths, p = w.files.place (o.destination r.className) ∧
        (w.invoke version (.render o paths)).1.files.lookup p =
          some (.file r.text.toUTF8.toList) ∧
        (w.files.place o.out <+: p ∨ Path.climbs (r.className ++ ".php") = true)) ∧
    ∀ r ∈ w.renderings o paths, ∃ s ∈ w.renderings o paths,
      w.files.place (o.destination s.className) = w.files.place (o.destination r.className) ∧
        (w.invoke version (.render o paths)).1.files.lookup
          (w.files.place (o.destination r.className)) = some (.file s.text.toUTF8.toList) := by
  have hrun := renders_invoke hout version w paths
  refine ⟨fun p hchanged => ?_, fun r hr => ?_⟩
  · rcases hrun.grown.lookup p with he | hdir | ⟨content, hfile, r, hr, rfl, rfl⟩
    · exact absurd he hchanged
    · exact .inl hdir
    · refine .inr ⟨r, hr, rfl, hfile, ?_⟩
      cases hclimbs : Path.climbs (r.className ++ ".php") with
      | true => exact .inr rfl
      | false => exact .inl (w.files.place_isPrefix_place_join hout hclimbs)
  · obtain ⟨content, hfile, s, hs, hplace, rfl⟩ := hrun.written r hr
    exact ⟨s, hs, hplace.symm, hfile⟩

/-- A file system with a document whose class has a name that climbs. -/
def climbingDocument : FileSystem :=
  (FileSystem.bare ["run"]).install "a.json"
    "\x7b\"class\":\x7b\"name\":\"../evil\"\x7d\x7d".toUTF8.toList

/-- The file of a class with a name that climbs stands beside the directory. -/
theorem invoke_render_places_climbing :
    climbingDocument.lookup ["run", "evil.php"] = none ∧
    ¬ climbingDocument.place "out" <+: ["run", "evil.php"] ∧
    ∃ content, ((fresh climbingDocument []).invoke "dev"
      (.render { out := "out" } ["a.json"])).1.files.lookup ["run", "evil.php"] =
        some (.file content) := by
  have hrun := invoke_render_places "dev" { out := "out" } (fresh climbingDocument []) ["a.json"]
    (by decide)
  have hnames : ∃ r ∈ (fresh climbingDocument []).renderings { out := "out" } ["a.json"],
      r.className = "../evil" := by decide +kernel
  have hplace : climbingDocument.place (RenderOptions.destination { out := "out" } "../evil") =
      ["run", "evil.php"] := by decide +kernel
  obtain ⟨r, hr, hname⟩ := hnames
  obtain ⟨s, _, _, hfile⟩ := hrun.2 r hr
  refine ⟨by decide +kernel, by decide +kernel, s.text.toUTF8.toList, ?_⟩
  rw [← hplace, ← hname]
  exact hfile

end World

end PhpDecl
