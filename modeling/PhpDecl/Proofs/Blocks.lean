import PhpDecl.Proofs.IdleStatements
import PhpDecl.Proofs.Restoration

/-!
# Compact bodies and bodies set apart

A body is written compactly or with blank lines between its members. Where every member has code or
comments, both ways write the same blocks, one for each member, and differ in what stands between
them.

* `LawfulMonad Printer`: uses of a printer can be regrouped;
* **`Printer.compactBody_eq_join`**: a compact body is its blocks one after the other, however the
  members are printed;
* `IsBlock`: the block of a statement, with `IsBlock.starts_line`;
* `forall₂_isBlock`: the blocks of a body are those of its statements, in order;
* **`Printer.compactBody_splitBody`**: the two ways to write a body.
-/

namespace PhpDecl

open Traced

/-! ## Any members -/

namespace Printer

variable {α β γ : Type}

theorem bind_pure_apply (x : Printer α) (d : Int) : (x >>= fun a => pure a) d = x d := by
  cases hx : x d with
  | mk notes answer depth =>
    cases answer with
    | error e => rw [bind_apply_error hx rfl]
    | ok a =>
      rw [bind_apply_ok hx rfl]
      simp only [pure, List.append_nil]

theorem bind_bind_apply (x : Printer α) (f : α → Printer β) (g : β → Printer γ) (d : Int) :
    (x >>= f >>= g) d = (x >>= fun a => f a >>= g) d := by
  cases hx : x d with
  | mk notes answer depth =>
    cases answer with
    | error e => rw [bind_apply_error (bind_apply_error hx rfl) rfl, bind_apply_error hx rfl]
    | ok a =>
      rw [bind_apply_ok hx rfl]
      cases hf : f a depth with
      | mk notes' answer depth' =>
        cases answer with
        | error e =>
          rw [bind_apply_error (bind_apply_ok hx rfl) (congrArg Run.answer hf),
            bind_apply_error hf rfl, hf]
        | ok b =>
          rw [bind_apply_ok (bind_apply_ok hx rfl) (congrArg Run.answer hf),
            bind_apply_ok hf rfl, hf, List.append_assoc]

instance : LawfulMonad Printer := LawfulMonad.mk' Printer
  (fun x => funext (bind_pure_apply x))
  (fun _ _ => rfl)
  (fun x f g => funext (bind_bind_apply x f g))

theorem readComments_none_bind (f : List Comment → Printer β) :
    readComments none >>= f = fun depth => ⟨[], .error .nullPointer, depth⟩ := rfl

@[simp] theorem readComments_some_bind (cs : List Comment) (f : List Comment → Printer β) :
    readComments (some cs) >>= f = f cs := rfl

/-- **A compact body is its blocks one after the other**, unless a member has neither code nor
comments. -/
theorem compactBody_eq_join {ms : List (Option Member)}
    (h : ∀ m, some m ∈ ms → m.isNop = true → m.comments ≠ some []) :
    compactBody ms = do
      let blocks ← memberBlocks ms
      return String.join blocks := by
  induction ms with
  | nil => rfl
  | cons m ms ih =>
    have hrest := ih fun m hm => h m (List.mem_cons_of_mem _ hm)
    cases m with
    | none => rfl
    | some m =>
      have hm := h m List.mem_cons_self
      rw [compactBody, memberBlocks, hrest, bind_assoc]
      cases hcs : m.comments with
      | none => rw [readComments_none_bind, readComments_none_bind]
      | some cs =>
      rw [readComments_some_bind, readComments_some_bind, bind_assoc]
      refine bind_congr fun above => ?_
      by_cases hn : m.isNop = true
      · have hne : cs.isEmpty = false := by simpa [hcs] using hm hn
        rw [hn, hne]
        simp only [Bool.not_false, Bool.and_self, if_true, bind_assoc, pure_bind]
        refine bind_congr fun blocks => ?_
        -- without comments there would be nothing to join either
        split_ifs with habove
        · rw [String.isEmpty_iff.mp habove, String.empty_append]
        · rw [String.join_cons]
      · rw [Bool.not_eq_true] at hn
        simp only [hn, Bool.false_and, Bool.false_eq_true, if_false, bind_assoc, pure_bind,
          String.join_cons]

end Printer

/-! ## Blocks of statements -/

/-- The block of a statement at a depth: its comments, every one on a new line, and below them its
code, if it has any, on a new line. -/
def IsBlock (style : Style) (d : Nat) (s : Stmt) (block : String) : Prop :=
  if s.isNop then block = commentLines s.comments d
  else ∃ text, (Printer.stmt style s d).answer = .ok text ∧
    block = commentLines s.comments d ++ lineBreak d ++ text

section Blocks

variable {style : Style} {d : Nat}

/-- Comments start on a new line at their depth. -/
theorem commentLines_starts_line {cs : List Comment} (h : cs.isEmpty = false) :
    ∃ rest, commentLines cs d = lineBreak d ++ rest := by
  cases cs with
  | nil => cases h
  | cons c cs =>
    refine ⟨c.textAt d ++ commentLines cs d, ?_⟩
    rw [commentLines_cons, String.append_assoc]

/-- A block starts on a new line at its depth. -/
theorem IsBlock.starts_line {s : Stmt} {block : String} (h : IsBlock style d s block)
    (hidle : s.isIdle = false) : ∃ rest, block = lineBreak d ++ rest := by
  unfold IsBlock at h
  split_ifs at h with hn
  · subst h
    rw [Stmt.isIdle, hn, Bool.true_and] at hidle
    exact commentLines_starts_line hidle
  · obtain ⟨text, _, rfl⟩ := h
    cases hcomments : s.comments.isEmpty with
    | true =>
      refine ⟨text, ?_⟩
      rw [List.isEmpty_iff.mp hcomments, commentLines_nil, String.empty_append]
    | false =>
      obtain ⟨rest, hrest⟩ := commentLines_starts_line (d := d) hcomments
      refine ⟨rest ++ lineBreak d ++ text, ?_⟩
      rw [hrest]
      simp only [String.append_assoc]

/-- **The blocks of a body are those of its statements, in order.** -/
theorem forall₂_isBlock {stmts : List (Option Stmt)} {blocks : List String}
    (hidle : ∀ s, some s ∈ stmts → s.isIdle = false)
    (h : (memberBlocks (members style stmts) d).result = .ok blocks) :
    List.Forall₂ (fun s block => ∃ t ∈ s, IsBlock style d t block) stmts blocks := by
  induction stmts generalizing blocks with
  | nil =>
    cases h
    exact .nil
  | cons s stmts ih =>
    have hrest := fun bs => @ih bs fun s hs => hidle s (List.mem_cons_of_mem _ hs)
    cases s with
    | none => cases h
    | some s =>
      rw [result_memberBlocks_cons] at h
      by_cases hn : s.isNop = true
      · have hcomments : s.comments.isEmpty = false := by
          have hs := hidle s List.mem_cons_self
          rwa [Stmt.isIdle, hn, Bool.true_and] at hs
        rw [if_pos hn, isEmpty_commentLines, hcomments] at h
        obtain ⟨more, hm, h⟩ := result_bind_eq_ok.mp h
        cases h
        refine .cons ⟨s, rfl, ?_⟩ (hrest more hm)
        exact (if_pos hn).mpr rfl
      · rw [if_neg hn] at h
        obtain ⟨text, ht, h⟩ := result_bind_eq_ok.mp h
        obtain ⟨more, hm, h⟩ := result_bind_eq_ok.mp h
        cases h
        have htext : (Printer.stmt style s d).answer = .ok text :=
          (Printer.stays_stmt style s d).answer_eq.trans ht
        refine .cons ⟨s, rfl, ?_⟩ (hrest more hm)
        exact (if_neg hn).mpr ⟨text, htext, rfl⟩

theorem starts_line_of_mem {stmts : List (Option Stmt)} {blocks : List String}
    (hidle : ∀ s, some s ∈ stmts → s.isIdle = false)
    (h : List.Forall₂ (fun s block => ∃ t ∈ s, IsBlock style d t block) stmts blocks) :
    ∀ block ∈ blocks, ∃ rest, block = lineBreak d ++ rest := by
  induction h with
  | nil => exact nofun
  | cons hblock _ ih =>
    obtain ⟨t, rfl, ht⟩ := hblock
    refine List.forall_mem_cons.mpr ⟨ht.starts_line (hidle t List.mem_cons_self), ?_⟩
    exact ih fun s hs => hidle s (List.mem_cons_of_mem _ hs)

end Blocks

/-! ## The two ways to write a body -/

namespace Printer

theorem not_isIdle_members {style : Style} {stmts : List (Option Stmt)}
    (h : ∀ s, some s ∈ stmts → s.isIdle = false) :
    ∀ m, some m ∈ members style stmts → m.isNop = true → m.comments ≠ some [] := by
  induction stmts with
  | nil =>
    intro m hm
    cases hm
  | cons s stmts ih =>
    intro m hm hn
    rw [members, List.mem_cons] at hm
    rcases hm with hm | hm
    · cases s with
      | none => cases hm
      | some s =>
        cases hm
        have hs := h s List.mem_cons_self
        change s.isNop = true at hn
        rw [Stmt.isIdle, hn, Bool.true_and] at hs
        simpa using hs
    · exact ih (fun s hs => h s (List.mem_cons_of_mem _ hs)) m hm hn

/-- **Compact bodies and bodies set apart have the same blocks.** Where no statement has neither
code nor comments, either both ways to write a body fail with the same failure, or the statements
have one block each, every one on a new line at the depth: the compact body is the blocks one after
the other, and the body that is set apart has a bare line break between them. -/
theorem compactBody_splitBody (style : Style) (stmts : List (Option Stmt)) (d : Nat)
    (h : ∀ s, some s ∈ stmts → s.isIdle = false) :
    (∃ e, (compactBody (members style stmts) (d : Int)).answer = .error e ∧
      (splitBody (members style stmts) (d : Int)).answer = .error e) ∨
    ∃ blocks : List String,
      List.Forall₂ (fun s block => ∃ t ∈ s, IsBlock style d t block) stmts blocks ∧
      (∀ block ∈ blocks, ∃ rest, block = lineBreak d ++ rest) ∧
      (compactBody (members style stmts) (d : Int)).answer = .ok (String.join blocks) ∧
      (splitBody (members style stmts) (d : Int)).answer = .ok ("\n".intercalate blocks) := by
  have hstays := stays_memberBlocks (d := d) (stays_members style stmts)
  rw [compactBody_eq_join (not_isIdle_members h), splitBody]
  cases hb : (PhpDecl.memberBlocks (PhpDecl.members style stmts) d).result with
  | error e =>
    refine .inl ⟨e, ?_, ?_⟩
    · rw [bind_apply_error hstays.run hb]
    · rw [bind_apply_error hstays.run hb]
  | ok blocks =>
    have hblocks := forall₂_isBlock h hb
    refine .inr ⟨blocks, hblocks, starts_line_of_mem h hblocks, ?_, ?_⟩
    · rw [bind_apply_ok hstays.run hb]
      rfl
    · rw [bind_apply_ok hstays.run hb]
      rfl

/-- A statement that is only a comment, and a return below it, one level deep: two blocks. -/
theorem compactBody_splitBody_lone_comment :
    (∀ s, some s ∈ [some (Stmt.nop [⟨"// a"⟩]), some (.ret [] none)] → s.isIdle = false) ∧
    ∃ blocks : List String, blocks.length = 2 ∧
      (compactBody (members (.extended .standard)
        [some (.nop [⟨"// a"⟩]), some (.ret [] none)]) (1 : Nat)).answer =
          .ok (String.join blocks) ∧
      String.join blocks = "\n    // a\n    return;" ∧
      (splitBody (members (.extended .standard)
        [some (.nop [⟨"// a"⟩]), some (.ret [] none)]) (1 : Nat)).answer =
          .ok ("\n".intercalate blocks) ∧
      "\n".intercalate blocks = "\n    // a\n\n    return;" := by
  have hidle : ∀ s, some s ∈ [some (Stmt.nop [⟨"// a"⟩]), some (.ret [] none)] →
      s.isIdle = false := by
    intro s hs
    simp only [List.mem_cons, Option.some.injEq, List.not_mem_nil, or_false] at hs
    rcases hs with rfl | rfl <;> rfl
  have hcompact : (compactBody (members (.extended .standard)
      [some (.nop [⟨"// a"⟩]), some (.ret [] none)]) (1 : Nat)).answer =
        .ok "\n    // a\n    return;" := by decide +kernel
  have hsplit : (splitBody (members (.extended .standard)
      [some (.nop [⟨"// a"⟩]), some (.ret [] none)]) (1 : Nat)).answer =
        .ok "\n    // a\n\n    return;" := by decide +kernel
  refine ⟨hidle, ?_⟩
  rcases compactBody_splitBody (.extended .standard) _ 1 hidle with
    ⟨e, he, _⟩ | ⟨blocks, hblocks, _, hjoin, hintercalate⟩
  · rw [hcompact] at he
    cases he
  · refine ⟨blocks, hblocks.length_eq.symm, hjoin, ?_, hintercalate, ?_⟩
    · rw [hcompact] at hjoin
      exact (Except.ok.inj hjoin).symm
    · rw [hsplit] at hintercalate
      exact (Except.ok.inj hintercalate).symm

end Printer

end PhpDecl
