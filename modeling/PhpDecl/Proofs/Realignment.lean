import Mathlib.Data.List.DropRight
import PhpDecl.Proofs.Lines
import PhpDecl.Proofs.Marks
import PhpDecl.Proofs.Restoration

/-!
# Comments are realigned once

A printed comment may be taken for the text of a comment and printed again, at the same depth or at
another one. Its indentation and alignment are then found and put back as they were, so the second
print is what the first text gives.

* `Text.ink`: the characters that are not white space, with `Text.ink_trimChars`;
* `Text.trimChars_append_of_blank`, `Text.trimChars_eq_self`: white space in front, and none at the
  ends;
* `Comment.printedLine`: a line as it is printed, with `Comment.realign_printedLine` and
  `Comment.ink_printedLine`;
* `Comment.exists_lines`: the lines of a comment and of the printed comment;
* `Comment.trimChars_textAt`: a printed comment has no white space at its ends;
* **`Comment.lines_textAt`**: a printed comment has the lines of the comment;
* **`Printer.comments_reread`**: a printed comment is printed as the comment was.
-/

namespace PhpDecl

/-! ## White space at the ends -/

namespace Text

/-- The characters of a text that are not white space. -/
def ink (cs : List Char) : List Char := cs.filter fun c => !isBlank c

theorem ink_append (as bs : List Char) : ink (as ++ bs) = ink as ++ ink bs := List.filter_append ..

theorem ink_of_blank {cs : List Char} (h : ∀ c ∈ cs, isBlank c = true) : ink cs = [] := by
  refine List.filter_eq_nil_iff.mpr fun c hc => ?_
  simp [h c hc]

/-- Trimming a text leaves a part of it and takes white space only. -/
theorem exists_eq_trimChars (cs : List Char) :
    ∃ before after, cs = before ++ trimChars cs ++ after ∧
      (∀ c ∈ before, isBlank c = true) ∧ ∀ c ∈ after, isBlank c = true := by
  refine ⟨cs.takeWhile isBlank, (trimStart cs).rtakeWhile isBlank, ?_, ?_, ?_⟩
  · have hend : trimChars cs ++ (trimStart cs).rtakeWhile isBlank = trimStart cs :=
      List.rdropWhile_append_rtakeWhile
    rw [List.append_assoc, hend]
    exact List.takeWhile_append_dropWhile.symm
  · exact fun c hc => List.mem_takeWhile_imp hc
  · exact fun c hc => List.mem_rtakeWhile_imp hc

/-- **Trimming takes no ink.** -/
theorem ink_trimChars (cs : List Char) : ink (trimChars cs) = ink cs := by
  obtain ⟨before, after, hcs, hbefore, hafter⟩ := exists_eq_trimChars cs
  conv_rhs => rw [hcs]
  rw [ink_append, ink_append, ink_of_blank hbefore, ink_of_blank hafter, List.nil_append,
    List.append_nil]

/-- White space in front of a text is trimmed. -/
theorem trimChars_append_of_blank {bs : List Char} (h : ∀ c ∈ bs, isBlank c = true)
    (cs : List Char) : trimChars (bs ++ cs) = trimChars cs := by
  unfold trimChars trimStart
  rw [List.dropWhile_append_of_pos h]

theorem trimStart_eq_self {cs : List Char} (h : ∀ c ∈ cs.head?, isBlank c = false) :
    trimStart cs = cs := by
  cases cs with
  | nil => rfl
  | cons c cs => exact List.dropWhile_cons_of_neg (by simp [h c rfl])

/-- A text without white space at its ends is not trimmed. -/
theorem trimChars_eq_self {cs : List Char} (hhead : ∀ c ∈ cs.head?, isBlank c = false)
    (hlast : ∀ c ∈ cs.getLast?, isBlank c = false) : trimChars cs = cs := by
  have hend : List.rdropWhile isBlank cs = cs := by
    refine List.rdropWhile_eq_self_iff.mpr fun hne => ?_
    rw [hlast _ (List.getLast?_eq_some_getLast hne)]
    exact Bool.false_ne_true
  rw [trimChars, trimStart_eq_self hhead]
  exact hend

theorem head?_trimChars (cs : List Char) : ∀ c ∈ (trimChars cs).head?, isBlank c = false := by
  intro c hc
  cases ht : trimChars cs with
  | nil =>
    rw [ht] at hc
    cases hc
  | cons a rest =>
    rw [ht] at hc
    cases hc
    exact head_trimChars ht

theorem getLast?_trimChars (cs : List Char) : ∀ c ∈ (trimChars cs).getLast?, isBlank c = false := by
  intro c hc
  have hne : trimChars cs ≠ [] := by
    intro h
    rw [h] at hc
    cases hc
  have hlast : ¬isBlank ((trimChars cs).getLast hne) = true :=
    List.rdropWhile_last_not isBlank (trimStart cs) hne
  rw [List.getLast?_eq_some_getLast hne, Option.mem_def, Option.some.injEq] at hc
  rwa [hc, Bool.not_eq_true] at hlast

theorem trimChars_trimChars (cs : List Char) : trimChars (trimChars cs) = trimChars cs :=
  trimChars_eq_self (head?_trimChars cs) (getLast?_trimChars cs)

end Text

theorem isBlank_of_mem_indentation (d : Nat) :
    ∀ c ∈ (indentation d).toList, Text.isBlank c = true := by
  intro c hc
  rw [indentation, String.toList_ofList] at hc
  rw [List.eq_of_mem_replicate hc]
  decide

/-! ## Lines -/

section Joined

variable {a : Char}

/-- Text in front of joined lines belongs to the first of them. -/
theorem append_intercalate_cons (before line : List Char) (lines : List (List Char)) :
    before ++ [a].intercalate (line :: lines) = [a].intercalate ((before ++ line) :: lines) := by
  cases lines with
  | nil => simp
  | cons next lines => simp

/-- What follows every separator belongs to the line after it. -/
theorem intercalate_cons_eq (sep line : List Char) (lines : List (List Char)) :
    (a :: sep).intercalate (line :: lines) = [a].intercalate (line :: lines.map (sep ++ ·)) := by
  induction lines generalizing line with
  | nil => simp
  | cons next lines ih =>
    rw [List.map_cons, List.intercalate_cons_cons, List.intercalate_cons_cons, ih,
      ← append_intercalate_cons]
    simp

/-- Joined lines end in the last of them. -/
theorem exists_intercalate_concat (first : List Char) (lines : List (List Char))
    (last : List Char) :
    ∃ before, [a].intercalate (first :: (lines ++ [last])) = before ++ a :: last := by
  induction lines generalizing first with
  | nil => exact ⟨first, by simp⟩
  | cons line lines ih =>
    obtain ⟨before, h⟩ := ih line
    refine ⟨first ++ a :: before, ?_⟩
    rw [List.cons_append, List.intercalate_cons_cons, h]
    simp

end Joined

/-- The ink of joined lines is that of the lines. -/
theorem Text.ink_intercalate (lines : List (List Char)) :
    ink (['\n'].intercalate lines) = lines.flatMap ink := by
  induction lines with
  | nil => rfl
  | cons line lines ih =>
    cases lines with
    | nil => simp
    | cons next lines =>
      have hbreak : ink ['\n'] = [] := by decide
      rw [List.flatMap_cons, List.intercalate_cons_cons, ink_append, ink_append, ih, hbreak,
        List.append_nil]

namespace Comment

/-- A realigned line is the trimmed line, with white space in front at most. -/
theorem exists_realign_eq (cs : List Char) :
    ∃ bs, (∀ c ∈ bs, Text.isBlank c = true) ∧ realign cs = bs ++ Text.trimChars cs := by
  unfold realign
  split
  · rename_i rest hr
    refine ⟨[' '], ?_, ?_⟩
    · intro c hc
      rw [List.mem_singleton.mp hc]
      decide
    · rw [hr]
      rfl
  · exact ⟨[], nofun, rfl⟩

/-- A line after the first as it is printed at a depth. -/
def printedLine (d : Nat) (cs : List Char) : List Char := (indentation d).toList ++ realign cs

theorem exists_printedLine_eq (d : Nat) (cs : List Char) :
    ∃ bs, (∀ c ∈ bs, Text.isBlank c = true) ∧ printedLine d cs = bs ++ Text.trimChars cs := by
  obtain ⟨bs, hbs, h⟩ := exists_realign_eq cs
  refine ⟨(indentation d).toList ++ bs, ?_, ?_⟩
  · exact List.forall_mem_append.mpr ⟨isBlank_of_mem_indentation d, hbs⟩
  · rw [printedLine, h, List.append_assoc]

/-- **A printed line is realigned as the line was.** -/
theorem realign_printedLine (d : Nat) (cs : List Char) :
    realign (printedLine d cs) = realign cs := by
  obtain ⟨bs, hbs, h⟩ := exists_printedLine_eq d cs
  have htrim : Text.trimChars (printedLine d cs) = Text.trimChars cs := by
    rw [h, Text.trimChars_append_of_blank hbs, Text.trimChars_trimChars]
  unfold realign
  rw [htrim]

theorem ink_printedLine (d : Nat) (cs : List Char) :
    Text.ink (printedLine d cs) = Text.ink cs := by
  obtain ⟨bs, hbs, h⟩ := exists_printedLine_eq d cs
  rw [h, Text.ink_append, Text.ink_of_blank hbs, List.nil_append, Text.ink_trimChars]

/-- A printed line does not end in white space, if the line is not blank. -/
theorem getLast?_printedLine (d : Nat) {cs : List Char} (h : Text.trimChars cs ≠ []) :
    (printedLine d cs).getLast? = (Text.trimChars cs).getLast? := by
  obtain ⟨bs, _, heq⟩ := exists_printedLine_eq d cs
  rw [heq, List.getLast?_append_of_ne_nil bs h]

/-- A printed line that starts with a star stands one column to the right of the indentation. -/
theorem exists_star_eq {d : Nat} {cs : List Char}
    (h : (Text.trimStart (printedLine d cs)).head? = some '*') :
    ∃ rest, printedLine d cs = List.replicate (4 * d + 1) ' ' ++ '*' :: rest := by
  have hstart : Text.trimStart (printedLine d cs) = Text.trimStart (realign cs) :=
    List.dropWhile_append_of_pos (isBlank_of_mem_indentation d)
  rw [hstart] at h
  unfold printedLine
  unfold realign at h ⊢
  split at h
  · rename_i rest hr
    refine ⟨rest, ?_⟩
    rw [indentation, String.toList_ofList, indentWidth, Nat.mul_comm, List.replicate_succ',
      List.append_assoc]
    rfl
  · rename_i hno
    rw [Text.trimStart_eq_self (Text.head?_trimChars cs)] at h
    obtain ⟨rest, hr⟩ := List.head?_eq_some_iff.mp h
    exact absurd hr (hno rest)

/-! ## Printed comments -/

section Printed

variable (c : Comment)

/-- The text of a printed comment, from its lines. -/
theorem toList_textAt {first : List Char} {rest : List (List Char)} (h : c.lines = first :: rest)
    (d : Nat) :
    (c.textAt d).toList = ['\n'].intercalate (first :: rest.map ((indentation d).toList ++ ·)) := by
  have hbreak : (lineBreak d).toList = '\n' :: (indentation d).toList := by
    rw [lineBreak, String.toList_append]
    rfl
  have hlines : (c.lines.map String.ofList).map String.toList = first :: rest := by
    simp [h, Function.comp_def]
  rw [textAt, String.toList_intercalate, hlines, hbreak, intercalate_cons_eq]

/-- **The lines of a comment**: those of its trimmed text, those that it has when it is realigned,
and those of the printed comment. -/
theorem exists_lines : ∃ first rest,
    ['\n'].intercalate (first :: rest) = Text.trimChars c.text.toList ∧
    c.lines = first :: rest.map realign ∧
    ∀ d, (c.textAt d).toList = ['\n'].intercalate (first :: rest.map (printedLine d)) ∧
      (c.textAt d).toList.splitOn '\n' = first :: rest.map (printedLine d) := by
  obtain ⟨first, rest, hs⟩ :=
    List.exists_cons_of_ne_nil (List.splitOn_ne_nil '\n' (Text.trimChars c.text.toList))
  have hlines : c.lines = first :: rest.map realign := by rw [lines, hs, realignTail]
  refine ⟨first, rest, ?_, hlines, fun d => ?_⟩
  · rw [← hs]
    exact List.intercalate_splitOn '\n'
  · have hn : ∀ line ∈ first :: rest.map realign, '\n' ∉ line := fun line hline =>
      newline_not_mem_lines (hlines ▸ hline)
    rw [List.forall_mem_cons, List.forall_mem_map] at hn
    have hn' : ∀ line ∈ first :: rest.map (printedLine d), '\n' ∉ line := by
      rw [List.forall_mem_cons, List.forall_mem_map]
      refine ⟨hn.1, fun line hline => ?_⟩
      rw [printedLine, List.mem_append, not_or]
      exact ⟨newline_not_mem_indentation d, hn.2 line hline⟩
    have hjoined : (c.textAt d).toList = ['\n'].intercalate (first :: rest.map (printedLine d)) := by
      rw [c.toList_textAt hlines, List.map_map]
      rfl
    refine ⟨hjoined, ?_⟩
    rw [hjoined]
    exact List.splitOn_intercalate '\n' hn' (List.cons_ne_nil _ _)

variable (d : Nat)

theorem getLast?_textAt : ∀ a ∈ (c.textAt d).toList.getLast?, Text.isBlank a = false := by
  have hlast := Text.getLast?_trimChars c.text.toList
  obtain ⟨first, rest, htrimmed, _, hprinted⟩ := c.exists_lines
  rw [(hprinted d).1]
  rw [← htrimmed] at hlast
  rcases List.eq_nil_or_concat rest with rfl | ⟨init, line, rfl⟩
  · exact hlast
  · obtain ⟨before, hb⟩ := exists_intercalate_concat (a := '\n') first init line
    obtain ⟨before', hb'⟩ := exists_intercalate_concat (a := '\n') first
      (init.map (printedLine d)) (printedLine d line)
    rw [List.concat_eq_append, hb, List.getLast?_append_cons] at hlast
    -- the last line has ink, since the trimmed text does not end in a line break
    have hne : Text.trimChars line ≠ [] := by
      cases line with
      | nil => exact absurd (hlast '\n' rfl) (by decide)
      | cons a line =>
        rw [List.getLast?_cons_cons, List.getLast?_eq_some_getLast (List.cons_ne_nil a line)] at hlast
        exact Text.trimChars_ne_nil (List.getLast_mem _) (hlast _ rfl)
    have hne' : printedLine d line ≠ [] := by
      obtain ⟨bs, _, h⟩ := exists_printedLine_eq d line
      simp [h, hne]
    rw [List.concat_eq_append, List.map_append, List.map_singleton, hb', List.append_cons,
      List.getLast?_append_of_ne_nil _ hne', getLast?_printedLine d hne]
    exact Text.getLast?_trimChars line

/-- A printed comment has no white space at its ends. -/
theorem trimChars_textAt : Text.trimChars (c.textAt d).toList = (c.textAt d).toList := by
  refine Text.trimChars_eq_self ?_ (c.getLast?_textAt d)
  intro a ha
  obtain ⟨rest, hr⟩ := List.head?_eq_some_iff.mp ha
  exact c.isBlank_head_textAt d hr

/-- **A printed comment has the lines of the comment.** -/
theorem lines_textAt : (Comment.mk (c.textAt d)).lines = c.lines := by
  obtain ⟨first, rest, _, hlines, hprinted⟩ := c.exists_lines
  have hrest : (rest.map (printedLine d)).map realign = rest.map realign := by
    simp only [List.map_map, Function.comp_def, realign_printedLine]
  rw [lines, trimChars_textAt, (hprinted d).2, realignTail, hrest, hlines]

/-- **A printed comment has the ink of the comment.** -/
theorem ink_textAt : Text.ink (c.textAt d).toList = Text.ink c.text.toList := by
  obtain ⟨first, rest, htrimmed, _, hprinted⟩ := c.exists_lines
  have hrest : (rest.map (printedLine d)).flatMap Text.ink = rest.flatMap Text.ink := by
    simp only [List.flatMap_map, ink_printedLine]
  calc Text.ink (c.textAt d).toList
      = Text.ink first ++ (rest.map (printedLine d)).flatMap Text.ink := by
        rw [(hprinted d).1, Text.ink_intercalate, List.flatMap_cons]
    _ = Text.ink (['\n'].intercalate (first :: rest)) := by
        rw [hrest, Text.ink_intercalate, List.flatMap_cons]
    _ = Text.ink c.text.toList := by rw [htrimmed, Text.ink_trimChars]

end Printed

end Comment

/-! ## On a printer -/

namespace Printer

theorem comments_singleton (c : Comment) (d : Nat) :
    (comments [c] (d : Int)).answer = .ok (c.textAt d) := by
  rw [(Stays.comments [c]).answer_eq, commentText, newline_natCast, List.flatMap_singleton]
  rfl

/-- **A printed comment is printed again as the comment was.** A comment is printed at every depth.
Taken for a comment, the printed text is printed at any depth as the first one; it has the
characters of the comment that are not white space; and its lines after the first that start with a
star are indented by the depth and one space. -/
theorem comments_reread (t : String) (d d' : Nat) :
    ∃ r r', (comments [⟨t⟩] (d : Int)).answer = .ok r ∧
      (comments [⟨t⟩] (d' : Int)).answer = .ok r' ∧
      (comments [⟨r⟩] (d' : Int)).answer = .ok r' ∧
      Text.ink r.toList = Text.ink t.toList ∧
      ∀ line ∈ (r.toList.splitOn '\n').tail, (Text.trimStart line).head? = some '*' →
        ∃ rest, line = List.replicate (4 * d + 1) ' ' ++ '*' :: rest := by
  refine ⟨(Comment.mk t).textAt d, (Comment.mk t).textAt d', comments_singleton _ d,
    comments_singleton _ d', ?_, Comment.ink_textAt _ d, ?_⟩
  · rw [comments_singleton, Comment.textAt, Comment.lines_textAt]
    rfl
  · obtain ⟨first, rest, _, _, hprinted⟩ := (Comment.mk t).exists_lines
    intro line hline hstar
    rw [(hprinted d).2, List.tail_cons] at hline
    obtain ⟨l, _, rfl⟩ := List.mem_map.mp hline
    exact Comment.exists_star_eq hstar

end Printer

end PhpDecl
