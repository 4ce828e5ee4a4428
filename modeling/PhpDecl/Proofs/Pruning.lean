import Mathlib.Data.List.TakeWhile
import PhpDecl.Proofs.IdleStatements
import PhpDecl.Proofs.Lines
import PhpDecl.Proofs.Marks

/-!
# Printing without the idle statements

A printed list of statements starts with what shows first: idle statements above it are dropped with
the margin, and so are comments of white space. From there on, every idle statement of a compact
body is an empty line of the text that the pruned list does not have.

* `Stmt.unseen`, `Stmt.printedIdleWidth`: the characters that idle statements leave from the left
  margin on;
* `dropMargin`, `Trimmed`: texts without their margins, and those that differ by white space then;
* `isMargin_commentLines`, `shows_commentLines`: comments that show nothing, and those that do;
* `alike_compactBody_trimmed`, `alike_memberBlocks_trimmed`: the two ways to write the list;
* **`prettyPrint_listPruned`**: the printed list without its idle statements.
-/

namespace PhpDecl

open Traced

/-- The statement shows nothing but white space. -/
def Stmt.unseen (s : Stmt) : Bool :=
  s.isNop && s.comments.all fun c => c.text.toList.all Text.isBlank

/-- The characters that idle statements leave in a list printed from the left margin. The white
space in front of what shows first is dropped. -/
def Stmt.printedIdleWidth (style : Style) (stmts : List (Option Stmt)) : Nat :=
  Stmt.listIdleWidth style (style.separates && Stmt.setApart stmts)
    (stmts.dropWhile fun s => s.any Stmt.unseen) 0

theorem Stmt.not_isIdle_of_seen {s : Stmt} (h : s.unseen = false) : s.isIdle = false := by
  rw [Bool.eq_false_iff] at h ⊢
  intro hidle
  apply h
  rw [eq_nop_of_isIdle hidle]
  rfl

/-! ## Texts without their margins -/

/-- A text without the white space in front of what shows first. -/
def dropMargin (s : String) : String := String.ofList (s.toList.dropWhile isMargin)

theorem dropMargin_append_of_shows {s : String} (h : Shows s) (t : String) :
    dropMargin (s ++ t) = dropMargin s ++ t := by
  obtain ⟨c, hc, hm⟩ := h
  have hne : ¬ (s.toList.dropWhile isMargin).isEmpty = true := by
    intro he
    have hall := List.dropWhile_eq_nil_iff.mp (List.isEmpty_iff.mp he) c hc
    rw [hm] at hall
    cases hall
  rw [dropMargin, String.toList_append, List.dropWhile_append, if_neg hne, String.ofList_append,
    String.ofList_toList, dropMargin]

theorem dropMargin_append_of_margin {s : String} (h : ∀ c ∈ s.toList, isMargin c = true)
    (t : String) : dropMargin (s ++ t) = dropMargin t := by
  have he : (s.toList.dropWhile isMargin).isEmpty = true :=
    List.isEmpty_iff.mpr (List.dropWhile_eq_nil_iff.mpr h)
  rw [dropMargin, String.toList_append, List.dropWhile_append, if_pos he, dropMargin]

/-- Without their margins, the first text is the second one with `n` more spaces and line breaks. -/
def Trimmed (n : Nat) (a b : String) : Prop := Padded n (dropMargin a) (dropMargin b)

theorem Led.trimmed {n : Nat} {a b : String} (h : Led n a b) : Trimmed n a b := by
  obtain ⟨p, r, r', rfl, rfl, hp, hr⟩ := h
  unfold Trimmed
  rw [dropMargin_append_of_shows hp, dropMargin_append_of_shows hp]
  exact hr.prepend _

namespace Trimmed

variable {n : Nat} {a b x : String}

theorem refl (a : String) : Trimmed 0 a a := Padded.refl _

theorem margin_left (hx : ∀ c ∈ x.toList, isMargin c = true) (h : Trimmed n a b) :
    Trimmed n (x ++ a) b := by
  unfold Trimmed at h ⊢
  rwa [dropMargin_append_of_margin hx]

theorem margin (hx : ∀ c ∈ x.toList, isMargin c = true) (h : Trimmed n a b) :
    Trimmed n (x ++ a) (x ++ b) := by
  unfold Trimmed at h ⊢
  rwa [dropMargin_append_of_margin hx, dropMargin_append_of_margin hx]

end Trimmed

/-! ## Comments that show nothing, and those that do -/

theorem isMargin_append {s t : String} (hs : ∀ c ∈ s.toList, isMargin c = true)
    (ht : ∀ c ∈ t.toList, isMargin c = true) : ∀ c ∈ (s ++ t).toList, isMargin c = true := by
  rw [String.toList_append]
  exact List.forall_mem_append.mpr ⟨hs, ht⟩

theorem isMargin_newline : ∀ c ∈ "\n".toList, isMargin c = true := by
  intro c hc
  have hc : c = '\n' := by simpa using hc
  rw [hc]
  rfl

theorem isMargin_lineBreak (d : Nat) : ∀ c ∈ (lineBreak d).toList, isMargin c = true := by
  refine isMargin_append isMargin_newline fun c hc => ?_
  rw [indentation, String.toList_ofList] at hc
  rw [List.eq_of_mem_replicate hc]
  decide

theorem Comment.textAt_of_blank {c : Comment} (h : c.text.toList.all Text.isBlank = true)
    (d : Nat) : c.textAt d = "" := by
  have hstart : Text.trimStart c.text.toList = [] :=
    List.dropWhile_eq_nil_iff.mpr (List.all_eq_true.mp h)
  rw [Comment.textAt, Comment.lines, Text.trimChars, hstart, Text.trimEnd_nil, List.splitOn_nil]
  rfl

theorem Comment.shows_textAt {c : Comment} (h : c.text.toList.all Text.isBlank = false)
    (d : Nat) : Shows (c.textAt d) := by
  obtain ⟨a, ha, hblank⟩ := List.all_eq_false.mp h
  have hne := Text.trimChars_ne_nil ha (Bool.eq_false_iff.mpr hblank)
  obtain ⟨b, rest, ht⟩ := List.exists_cons_of_ne_nil hne
  obtain ⟨tail, hc⟩ := Comment.exists_textAt_cons ht d
  exact ⟨b, hc ▸ List.mem_cons_self, c.head_textAt d hc⟩

/-- Comments of white space leave white space. -/
theorem isMargin_commentLines {cs : List Comment} (d : Nat)
    (h : ∀ c ∈ cs, c.text.toList.all Text.isBlank = true) :
    ∀ c ∈ (commentLines cs d).toList, isMargin c = true := by
  induction cs with
  | nil => exact fun c hc => nomatch hc
  | cons c cs ih =>
    rw [List.forall_mem_cons] at h
    rw [commentLines_cons, c.textAt_of_blank h.1, String.append_empty]
    exact isMargin_append (isMargin_lineBreak d) (ih h.2)

/-- Other comments show something. -/
theorem shows_commentLines {cs : List Comment} (d : Nat)
    (h : ∃ c ∈ cs, c.text.toList.all Text.isBlank = false) : Shows (commentLines cs d) := by
  obtain ⟨c, hc, hblank⟩ := h
  obtain ⟨before, after, rfl⟩ := List.append_of_mem hc
  have happ : commentLines (before ++ c :: after) d =
      commentLines before d ++ commentLines (c :: after) d := by
    rw [commentLines, List.map_append, String.join_append]
    rfl
  rw [happ, commentLines_cons]
  exact (((c.shows_textAt hblank d).append_left _).append_right _).append_left _

namespace Stmt

theorem isNop_of_unseen {s : Stmt} (h : s.unseen = true) : s.isNop = true :=
  (Bool.and_eq_true_iff.mp h).1

theorem isMargin_of_unseen {s : Stmt} (h : s.unseen = true) (d : Nat) :
    ∀ c ∈ (commentLines s.comments d).toList, isMargin c = true :=
  isMargin_commentLines d (List.all_eq_true.mp (Bool.and_eq_true_iff.mp h).2)

theorem shows_of_seen {s : Stmt} (h : s.unseen = false) (hn : s.isNop = true) (d : Nat) :
    Shows (commentLines s.comments d) := by
  rw [unseen, hn, Bool.true_and, List.all_eq_false] at h
  obtain ⟨c, hc, hblank⟩ := h
  exact shows_commentLines d ⟨c, hc, Bool.eq_false_iff.mpr hblank⟩

end Stmt

/-! ## Lists from the left margin -/

section Lists

variable {style : Style} {d : Nat}

/-- A compact body from a statement that shows something. -/
theorem alike_compactBody_led {s : Stmt} (h : s.unseen = false) (rest : List (Option Stmt)) :
    Alike (Led (Stmt.listIdleWidth style false (some s :: rest) d))
      (compactBody (members style (some s :: rest)) d)
      (compactBody (members style (Stmt.listPruned (some s :: rest))) d) := by
  have hidle := Stmt.not_isIdle_of_seen h
  have hrest := alike_compactBody_pruned (ledStmts style rest d)
  rw [Stmt.listPruned, Stmt.listIdleWidth, if_neg (by rw [hidle]; decide),
    if_neg (by rw [hidle]; decide)]
  refine Alike.congr ?_ (result_compactBody_cons s rest) (result_compactBody_cons _ _)
  obtain ⟨hcomments, _, hnop⟩ := s.role_pruned
  rw [hcomments, hnop, Stmt.isNop_and_commented hidle]
  cases hn : s.isNop with
  | true =>
    rw [if_pos rfl, if_pos rfl, idleWidth_of_isNop hn]
    exact hrest.bind fun a b hab => .pure ((Led.of_shows (Stmt.shows_of_seen h hn d)).append hab)
  | false =>
    rw [if_neg (by decide), if_neg (by decide)]
    refine (ledStmt style s d hn).bind fun a b hab => ?_
    exact hrest.bind fun r r' hr => .pure ((hab.prepend _).append hr)

/-- **A compact list from the left margin without its idle statements.** -/
theorem alike_compactBody_trimmed (stmts : List (Option Stmt)) :
    Alike (Trimmed (Stmt.listIdleWidth style false (stmts.dropWhile fun s => s.any Stmt.unseen) d))
      (compactBody (members style stmts) d)
      (compactBody (members style (Stmt.listPruned stmts)) d) := by
  induction stmts with
  | nil => exact .pure (.refl "")
  | cons s stmts ih =>
    cases s with
    | none => exact .malformed _
    | some s =>
      rw [List.dropWhile_cons, Option.any_some]
      cases hu : s.unseen with
      | false =>
        rw [if_neg (by decide)]
        exact (alike_compactBody_led hu stmts).mono fun a b hab => hab.trimmed
      | true =>
        rw [if_pos rfl, Stmt.listPruned]
        by_cases hidle : s.isIdle = true
        · rw [if_pos hidle]
          obtain rfl := Stmt.eq_nop_of_isIdle hidle
          refine Alike.congr ?_ (result_compactBody_idle stmts) rfl
          exact ih.bind_pure_left fun a b hab => hab.margin_left (isMargin_lineBreak d)
        · have hn := Stmt.isNop_of_unseen hu
          rw [if_neg hidle]
          refine Alike.congr ?_ (result_compactBody_cons s stmts) (result_compactBody_cons _ _)
          obtain ⟨hcomments, _, hnop⟩ := s.role_pruned
          rw [hcomments, hnop, Stmt.isNop_and_commented (Bool.eq_false_iff.mpr hidle), if_pos hn,
            if_pos hn]
          exact ih.bind fun a b hab => .pure (hab.margin (Stmt.isMargin_of_unseen hu d))

/-- Blocks that differ by `n` spaces and line breaks in all without the margin; there are some in
both lists or in neither. -/
structure BlocksTrimmed (n : Nat) (as bs : List String) : Prop where
  isEmpty : as = [] ↔ bs = []
  trimmed : Trimmed n ("\n".intercalate as) ("\n".intercalate bs)

/-- Blocks of which the first ones start alike. -/
theorem BlocksPadded.trimmed {m n : Nat} {a b : String} {as bs : List String} (h : Led m a b)
    (hr : BlocksPadded n as bs) : BlocksTrimmed (m + n) (a :: as) (b :: bs) := by
  refine ⟨⟨nofun, nofun⟩, Led.trimmed ?_⟩
  cases hr with
  | nil =>
    rw [String.intercalate_singleton, String.intercalate_singleton]
    exact h
  | cons block rest =>
    rw [String.intercalate_cons_cons, String.intercalate_cons_cons]
    exact (h.append (.refl "\n")).append (BlocksPadded.cons block rest).intercalate

/-- A block of white space in front. -/
theorem BlocksTrimmed.margin {n : Nat} {x : String} {as bs : List String}
    (hx : ∀ c ∈ x.toList, isMargin c = true) (h : BlocksTrimmed n as bs) :
    BlocksTrimmed n (x :: as) (x :: bs) := by
  refine ⟨⟨nofun, nofun⟩, ?_⟩
  have htrimmed := h.trimmed
  by_cases has : as = []
  · rw [h.isEmpty.mp has, has, String.intercalate_nil] at htrimmed
    have hmargin := htrimmed.margin hx
    rw [String.append_empty] at hmargin
    rw [h.isEmpty.mp has, has, String.intercalate_singleton]
    exact hmargin
  · have hbs : bs ≠ [] := fun hbs => has (h.isEmpty.mpr hbs)
    rw [String.intercalate_cons_of_ne_nil has, String.intercalate_cons_of_ne_nil hbs]
    exact htrimmed.margin (isMargin_append hx isMargin_newline)

/-- The blocks from a statement that shows something. -/
theorem alike_memberBlocks_led {s : Stmt} (h : s.unseen = false) (rest : List (Option Stmt)) :
    Alike (BlocksTrimmed (Stmt.listIdleWidth style true (some s :: rest) d))
      (memberBlocks (members style (some s :: rest)) d)
      (memberBlocks (members style (Stmt.listPruned (some s :: rest))) d) := by
  have hidle := Stmt.not_isIdle_of_seen h
  have hrest := alike_memberBlocks_pruned (ledStmts style rest d)
  rw [Stmt.listPruned, Stmt.listIdleWidth, if_neg (by rw [hidle]; decide),
    if_neg (by rw [hidle]; decide)]
  refine Alike.congr ?_ (result_memberBlocks_cons s rest) (result_memberBlocks_cons _ _)
  obtain ⟨hcomments, _, hnop⟩ := s.role_pruned
  rw [hcomments, hnop]
  cases hn : s.isNop with
  | true =>
    have hshows := Stmt.shows_of_seen h hn d
    have hne : ¬ (commentLines s.comments d).isEmpty = true := by
      intro he
      obtain ⟨c, hc, _⟩ := hshows
      rw [String.isEmpty_iff.mp he] at hc
      cases hc
    rw [if_pos rfl, if_pos rfl, idleWidth_of_isNop hn]
    refine hrest.bind fun as bs hab => .pure ?_
    rw [if_neg hne, if_neg hne]
    exact hab.trimmed (Led.of_shows hshows)
  | false =>
    rw [if_neg (by decide), if_neg (by decide)]
    refine (ledStmt style s d hn).bind fun a b hab => ?_
    exact hrest.bind fun as bs hr => .pure (hr.trimmed (hab.prepend _))

/-- **The blocks of a list from the left margin without its idle statements.** -/
theorem alike_memberBlocks_trimmed (stmts : List (Option Stmt)) :
    Alike
      (BlocksTrimmed
        (Stmt.listIdleWidth style true (stmts.dropWhile fun s => s.any Stmt.unseen) d))
      (memberBlocks (members style stmts) d)
      (memberBlocks (members style (Stmt.listPruned stmts)) d) := by
  induction stmts with
  | nil => exact .pure ⟨Iff.rfl, .refl _⟩
  | cons s stmts ih =>
    cases s with
    | none => exact .malformed _
    | some s =>
      rw [List.dropWhile_cons, Option.any_some]
      cases hu : s.unseen with
      | false =>
        rw [if_neg (by decide)]
        exact alike_memberBlocks_led hu stmts
      | true =>
        rw [if_pos rfl, Stmt.listPruned]
        by_cases hidle : s.isIdle = true
        · rw [if_pos hidle]
          obtain rfl := Stmt.eq_nop_of_isIdle hidle
          refine Alike.congr ?_ (result_memberBlocks_cons _ stmts) rfl
          exact ih.bind_pure_left fun a b hab => hab
        · have hn := Stmt.isNop_of_unseen hu
          rw [if_neg hidle]
          refine Alike.congr ?_ (result_memberBlocks_cons s stmts) (result_memberBlocks_cons _ _)
          obtain ⟨hcomments, _, hnop⟩ := s.role_pruned
          rw [hcomments, hnop, if_pos hn, if_pos hn]
          refine ih.bind fun as bs hab => .pure ?_
          split_ifs
          · exact hab
          · exact hab.margin (Stmt.isMargin_of_unseen hu d)

end Lists

/-- A printed list and the list without its idle statements. -/
theorem alike_prettyPrint_listPruned (style : Style) (stmts : List (Option Stmt)) :
    Alike (Padded (Stmt.printedIdleWidth style stmts)) (prettyPrint style stmts)
      (prettyPrint style (Stmt.listPruned stmts)) := by
  have htrimmed : Alike (Trimmed (Stmt.printedIdleWidth style stmts))
      (style.body (members style stmts) 0)
      (style.body (members style (Stmt.listPruned stmts)) 0) := by
    apply alike_body_listPruned (T := fun apart => Trimmed
      (Stmt.listIdleWidth style apart (stmts.dropWhile fun s => s.any Stmt.unseen) 0))
    · exact (alike_memberBlocks_trimmed stmts).bind fun as bs hab => .pure hab.trimmed
    · exact alike_compactBody_trimmed stmts
  exact htrimmed.bind fun a b hab => .pure hab

/-- **A printed list without its idle statements is the same, or fails the same way, exactly if no
idle statement leaves anything.** In general the list has that many spaces and line breaks more. -/
theorem prettyPrint_listPruned (style : Style) (stmts : List (Option Stmt)) :
    ((prettyPrint style (Stmt.listPruned stmts)).result = (prettyPrint style stmts).result ↔
      Stmt.allWellFormed stmts = false ∨ Stmt.printedIdleWidth style stmts = 0) ∧
    ∀ text, (prettyPrint style stmts).result = .ok text →
      ∃ rest, (prettyPrint style (Stmt.listPruned stmts)).result = .ok rest ∧
        Padded (Stmt.printedIdleWidth style stmts) text rest := by
  have halike := alike_prettyPrint_listPruned style stmts
  refine ⟨?_, fun text htext => halike.exists_ok htext⟩
  have hsucceeds := succeeds_prettyPrint style stmts
  unfold Traced.succeeds at hsucceeds
  cases hr : (prettyPrint style stmts).result with
  | ok text =>
    obtain ⟨rest, hrest, hpadded⟩ := halike.exists_ok hr
    rw [hr] at hsucceeds
    rw [hrest, ← hsucceeds, Except.ok.injEq, hpadded.eq_iff]
    simp [Except.toBool]
  | error e =>
    rw [hr] at hsucceeds
    unfold Alike at halike
    rw [hr] at halike
    generalize (prettyPrint style (Stmt.listPruned stmts)).result = r at halike
    cases halike with
    | malformed c => exact iff_of_true rfl (.inl hsucceeds.symm)

/-- An idle statement between two others is an empty line of the text. -/
example : (prettyPrint .standard
    [some (.ret [] none), some (.nop []), some (.ret [] none)]).result =
      .ok "return;\n\nreturn;" := by decide

end PhpDecl
