import PhpDecl.Proofs.Lines
import PhpDecl.Proofs.Likeness

/-!
# Empty lines

A line is empty if a line break stands right after another one. Away from the left margin every line
break is followed by indentation, so only a few places of a text can leave a line empty.

* `emptyLines`, `gaps`: the empty lines of a text, and the line breaks right after another one, with
  **`emptyLines_eq_gaps`**;
* `HasGaps`, `HasGapsAbove`: the gaps that a text adds in front of anything, and in front of a line
  break;
* `BodyGaps`, `BlocksGap`: the same for bodies and for blocks with a blank line between them, with
  **`BlocksGap.intercalate`**;
* `marginless`, **`gives_marginless`**: below the left margin no part of a declaration adds a gap.
-/

namespace PhpDecl

/-! ## Lines and gaps -/

/-- The number of empty lines of a text. What follows its last line break is not a line. -/
def emptyLines (s : String) : Nat := (s.toList.splitOn '\n').dropLast.count []

/-- The number of line breaks right after another one; if `fresh`, the text itself starts right
after one. -/
def gaps : Bool → List Char → Nat
  | _, [] => 0
  | fresh, c :: cs => if c = '\n' then fresh.toNat + gaps true cs else gaps false cs

section Gaps

variable {fresh : Bool} {c : Char} {cs : List Char}

@[simp] theorem gaps_break : gaps fresh ('\n' :: cs) = fresh.toNat + gaps true cs := by
  rw [gaps, if_pos rfl]

theorem gaps_cons_of_ne (h : c ≠ '\n') : gaps fresh (c :: cs) = gaps false cs := by
  rw [gaps, if_neg h]

/-- The empty lines of a text, and those after its first line. -/
theorem count_nil_splitOn : ∀ cs : List Char,
    (cs.splitOn '\n').dropLast.count [] = gaps true cs ∧
      (cs.splitOn '\n').tail.dropLast.count [] = gaps false cs
  | [] => by
    rw [List.splitOn_nil]
    exact ⟨rfl, rfl⟩
  | c :: cs => by
    obtain ⟨first, rest, hs⟩ := List.exists_cons_of_ne_nil (List.splitOn_ne_nil '\n' cs)
    -- whether the first line counts depends on what stands in front of it, so both counts go along
    have ih := count_nil_splitOn cs
    rw [hs] at ih
    rw [List.splitOn_cons_eq_if_modifyHead, hs]
    by_cases hc : c = '\n'
    · subst hc
      rw [if_pos (beq_self_eq_true _), gaps_break, gaps_break, ← ih.1]
      simp [Nat.add_comm]
    · rw [if_neg (by simpa using hc), gaps_cons_of_ne hc, gaps_cons_of_ne hc, ← ih.2]
      cases rest <;> simp

/-- **An empty line is a line break at the start of a line.** -/
theorem emptyLines_eq_gaps (s : String) : emptyLines s = gaps true s.toList :=
  (count_nil_splitOn s.toList).1

end Gaps

/-! ## Gaps of a part of a text -/

/-- In front of any text, these lines add `n` gaps. -/
def HasGaps (n : Nat) (s : String) : Prop :=
  ∀ rest, gaps false (s.toList ++ rest) = n + gaps false rest

/-- In front of a line break, these lines add `n` gaps. -/
def HasGapsAbove (n : Nat) (s : String) : Prop :=
  ∀ rest, gaps false (s.toList ++ '\n' :: rest) = n + gaps true rest

section Parts

variable {m n d : Nat} {s t : String}

theorem HasGaps.append (hs : HasGaps m s) (ht : HasGaps n t) : HasGaps (m + n) (s ++ t) := by
  intro rest
  rw [String.toList_append, List.append_assoc, hs, ht, Nat.add_assoc]

theorem HasGaps.above (h : HasGaps n s) : HasGapsAbove n s := by
  intro rest
  rw [h, gaps_break, Bool.toNat_false, Nat.zero_add]

theorem HasGaps.append_above (hs : HasGaps m s) (ht : HasGapsAbove n t) :
    HasGapsAbove (m + n) (s ++ t) := by
  intro rest
  rw [String.toList_append, List.append_assoc, hs, ht, Nat.add_assoc]

/-- Text on one line adds no gaps. -/
theorem HasGaps.of_oneLine (h : '\n' ∉ s.toList) : HasGaps 0 s := by
  intro rest
  rw [Nat.zero_add]
  generalize s.toList = cs at h
  induction cs with
  | nil => rfl
  | cons c cs ih =>
    rw [List.mem_cons, not_or] at h
    rw [List.cons_append, gaps_cons_of_ne (Ne.symm h.1), ih h.2]

theorem toList_break_append (s : String) (rest : List Char) :
    ("\n" ++ s).toList ++ rest = '\n' :: (s.toList ++ rest) := by
  rw [String.toList_append]
  rfl

/-- A line break in front of a line does not matter. -/
theorem hasGaps_break_append {c : Char} {cs : List Char} (hs : s.toList = c :: cs) (hc : c ≠ '\n') :
    HasGaps n ("\n" ++ s) ↔ HasGaps n s := by
  have h : ∀ rest, gaps false (("\n" ++ s).toList ++ rest) = gaps false (s.toList ++ rest) := by
    intro rest
    rw [toList_break_append, hs, gaps_break, List.cons_append, gaps_cons_of_ne hc,
      gaps_cons_of_ne hc]
    exact Nat.zero_add _
  unfold HasGaps
  simp only [h]

theorem HasGaps.break_oneLine (hn : '\n' ∉ s.toList) (hs : s ≠ "") : HasGaps 0 ("\n" ++ s) := by
  obtain ⟨c, cs, hc⟩ := List.exists_cons_of_ne_nil fun h => hs (String.toList_eq_nil_iff.mp h)
  rw [hc, List.mem_cons, not_or] at hn
  refine (hasGaps_break_append hc (Ne.symm hn.1)).mpr (.of_oneLine ?_)
  rw [hc, List.mem_cons, not_or]
  exact hn

/-- A line at a depth adds no gaps, if it is not empty or there is indentation. -/
theorem hasGaps_line {line : List Char} (hn : '\n' ∉ line) (h : 0 < d ∨ line ≠ []) :
    HasGaps 0 (lineBreak d ++ String.ofList line) := by
  rw [lineBreak, String.append_assoc]
  refine .break_oneLine ?_ fun he => ?_
  · rw [String.toList_append, String.toList_ofList, List.mem_append, not_or]
    exact ⟨newline_not_mem_indentation d, hn⟩
  · have hl := congrArg (List.length ∘ String.toList) he
    simp only [indentation, indentWidth, Function.comp_apply, String.toList_append,
      String.toList_ofList, List.length_append, List.length_replicate, String.toList_empty,
      List.length_nil] at hl
    rcases h with hd | hne
    · omega
    · exact hne (List.length_eq_zero_iff.mp (by omega))

theorem hasGaps_lineBreak (hd : 0 < d) : HasGaps 0 (lineBreak d) := by
  have h := @hasGaps_line d [] List.not_mem_nil (.inl hd)
  rwa [String.ofList_nil, String.append_empty] at h

/-- **Comments add no gaps**, if none of their lines is empty or there is indentation. -/
theorem hasGaps_commentLines (cs : List Comment)
    (h : 0 < d ∨ ∀ c ∈ cs, ∀ line ∈ c.lines, line ≠ []) : HasGaps 0 (commentLines cs d) := by
  rw [commentLines_eq_join]
  have hl : ∀ l ∈ cs.flatMap fun c => c.lines.map String.ofList, HasGaps 0 (lineBreak d ++ l) := by
    intro l hl
    obtain ⟨c, hc, hl⟩ := List.mem_flatMap.mp hl
    obtain ⟨line, hline, rfl⟩ := List.mem_map.mp hl
    exact hasGaps_line (Comment.newline_not_mem_lines hline)
      (h.imp_right fun h => h c hc line hline)
  generalize (cs.flatMap fun c => c.lines.map String.ofList) = ls at hl ⊢
  induction ls with
  | nil => exact .of_oneLine List.not_mem_nil
  | cons l ls ih =>
    rw [List.forall_mem_cons] at hl
    rw [List.map_cons, String.join_cons]
    exact hl.1.append (ih hl.2)

theorem HasGaps.intercalate_cons {sep : String} {rest : List String} (hsep : '\n' ∉ sep.toList)
    (hs : HasGaps 0 s) (ht : HasGaps 0 (sep.intercalate rest)) :
    HasGaps 0 (sep.intercalate (s :: rest)) := by
  cases rest with
  | nil =>
    rw [String.intercalate_singleton]
    exact hs
  | cons t rest =>
    rw [String.intercalate_cons_cons]
    exact (hs.append (of_oneLine hsep)).append ht

theorem HasGaps.spaced (h : HasGaps 0 s) : HasGaps 0 (spaced s) := by
  rw [PhpDecl.spaced]
  split_ifs
  · exact .of_oneLine List.not_mem_nil
  · exact (of_oneLine (by decide)).append h

end Parts

/-! ## Bodies and blocks -/

/-- A text that starts on a new line and adds `n` gaps in front of a line break. -/
structure BodyGaps (n : Nat) (s : String) : Prop where
  starts : ∀ c ∈ s.toList.head?, c = '\n'
  above : HasGapsAbove n s

section Bodies

variable {m n d : Nat} {s t body : String}

theorem starts_break (s : String) : ∀ c ∈ ("\n" ++ s).toList.head?, c = '\n' := by
  intro c hc
  rw [String.toList_append] at hc
  exact (Option.some.inj hc).symm

theorem starts_append (hs : ∀ c ∈ s.toList.head?, c = '\n')
    (ht : ∀ c ∈ t.toList.head?, c = '\n') : ∀ c ∈ (s ++ t).toList.head?, c = '\n' := by
  rw [String.toList_append, List.head?_append]
  generalize s.toList = cs at hs
  cases cs with
  | nil => exact ht
  | cons c cs => exact hs

theorem BodyGaps.empty : BodyGaps 0 "" := ⟨nofun, (HasGaps.of_oneLine (by decide)).above⟩

theorem BodyGaps.exists_cons (h : BodyGaps n body) (rest : List Char) :
    ∃ cs, body.toList ++ '\n' :: rest = '\n' :: cs := by
  cases hs : body.toList with
  | nil => exact ⟨rest, rfl⟩
  | cons c cs =>
    have hc : c = '\n' := h.starts c (by rw [hs]; rfl)
    exact ⟨cs ++ '\n' :: rest, by rw [hc]; rfl⟩

/-- A body is below whatever stands in front of it. -/
theorem HasGapsAbove.append (hs : HasGapsAbove m s) (hb : BodyGaps n body) :
    HasGapsAbove (m + n) (s ++ body) := by
  intro rest
  obtain ⟨cs, hcs⟩ := hb.exists_cons rest
  have hn := hb.above rest
  rw [hcs, gaps_break, Bool.toNat_false, Nat.zero_add] at hn
  rw [String.toList_append, List.append_assoc, hcs, hs, hn, Nat.add_assoc]

theorem BodyGaps.append (hs : BodyGaps m s) (ht : BodyGaps n t) : BodyGaps (m + n) (s ++ t) :=
  ⟨starts_append hs.starts ht.starts, hs.above.append ht⟩

/-- A body and the line after it. -/
theorem HasGapsAbove.append_break (hs : HasGapsAbove m s) (ht : HasGaps n ("\n" ++ t)) :
    HasGaps (m + n) (s ++ ("\n" ++ t)) := by
  intro rest
  have hn := ht rest
  rw [toList_break_append, gaps_break, Bool.toNat_false, Nat.zero_add] at hn
  rw [String.toList_append, List.append_assoc, toList_break_append, hs, hn, Nat.add_assoc]

/-- A line break at the end is one gap more in front of another one. -/
theorem HasGaps.break_above (hs : HasGaps n s) : HasGapsAbove (n + 1) (s ++ "\n") := by
  intro rest
  rw [String.toList_append, List.append_assoc, hs]
  change n + gaps false ('\n' :: '\n' :: rest) = _
  rw [gaps_break, gaps_break, Bool.toNat_false, Bool.toNat_true]
  omega

/-- A body between braces. -/
theorem hasGaps_block (hs : HasGaps 0 s) (hb : BodyGaps n body) (d : Nat) :
    HasGaps n (s ++ body ++ lineBreak d ++ "\x7d") := by
  have hclose : HasGaps 0 (lineBreak d ++ "\x7d") :=
    @hasGaps_line d ['\x7d'] (by decide) (.inr (by decide))
  rw [lineBreak, String.append_assoc] at hclose
  have h := hs.append (hb.above.append_break hclose)
  rw [Nat.zero_add, Nat.add_zero] at h
  simpa only [lineBreak, String.append_assoc] using h

/-- Blocks that add `n` gaps in all. -/
inductive BlocksGap : Nat → List String → Prop
  | nil : BlocksGap 0 []
  | cons {m n : Nat} {b : String} {bs : List String} (block : BodyGaps m b)
    (rest : BlocksGap n bs) : BlocksGap (m + n) (b :: bs)

/-- **A blank line between blocks is one gap more for each block but the first.** -/
theorem BlocksGap.intercalate {bs : List String} (h : BlocksGap n bs) :
    BodyGaps (n + (bs.length - 1)) ("\n".intercalate bs) := by
  induction h with
  | nil => exact .empty
  | @cons m n b bs block rest ih =>
    cases rest with
    | nil =>
      rw [String.intercalate_singleton]
      exact block
    | @cons k l b' bs _ _ =>
      rw [String.intercalate_cons_cons, String.append_assoc]
      constructor
      · exact starts_append block.starts (starts_break _)
      · intro more
        -- the separator stands right above the line break that the next block starts with
        obtain ⟨cs, hcs⟩ := ih.exists_cons more
        have hn := ih.above more
        rw [hcs, gaps_break, Bool.toNat_false, Nat.zero_add] at hn
        rw [String.toList_append, List.append_assoc, toList_break_append, hcs, block.above,
          gaps_break, Bool.toNat_true, hn]
        simp only [List.length_cons]
        omega

end Bodies

/-! ## Below the left margin -/

/-- Below the left margin, where names and string values do not break a line, every text is made of
parts that add no gaps. -/
def marginless : Likeness where
  Depths d e := d = e ∧ 0 < d
  Leaf s := '\n' ∉ s.toList
  Texts a b := a = b ∧ HasGaps 0 a
  deeper h := by omega
  append := by
    rintro a b _ _ ⟨rfl, ha⟩ ⟨rfl, hb⟩
    exact ⟨rfl, ha.append hb⟩
  plain h := ⟨rfl, .of_oneLine (Text.newline_not_mem_of_plain h)⟩
  leaf h := ⟨rfl, .of_oneLine h⟩
  literal h := ⟨rfl, .of_oneLine (Text.newline_not_mem_literal h)⟩
  breaks := by
    rintro d _ ⟨rfl, hd⟩
    exact ⟨rfl, hasGaps_lineBreak hd⟩
  comments := by
    rintro d _ cs ⟨rfl, hd⟩
    exact ⟨rfl, hasGaps_commentLines cs (.inl hd)⟩

/-- **What is rendered below the left margin adds no gaps.** -/
theorem gives_marginless {x : Traced String} (h : Traced.Alike marginless.Texts x x) :
    x.Gives (HasGaps 0) :=
  fun _ ht => (h.self ht).2

end PhpDecl
