import Mathlib.Data.List.TakeWhile
import Mathlib.Tactic.Common
import PhpDecl.Render.Item
import PhpDecl.Text.Literal

/-!
# Texts on one line

Nothing that a printed line is made of holds a line break: no line of a comment does, and no
literal of a value that has none.

* `not_mem_of_mem_splitOn`: the pieces of a split do not hold the separator;
* `Text.mem_of_mem_trimChars`, `Text.trimChars_ne_nil`: trimmed texts;
* `Text.newline_not_mem_literal`, `newline_not_mem_indentation`: literals and indentation;
* **`Comment.newline_not_mem_lines`**: the realigned lines of a comment are lines.
-/

namespace PhpDecl

/-- No piece of a split holds the separator. -/
theorem not_mem_of_mem_splitOn {a : Char} : ∀ {cs piece : List Char},
    piece ∈ cs.splitOn a → a ∉ piece
  | [], piece, h => by
    rw [List.splitOn_nil, List.mem_singleton] at h
    rw [h]
    exact List.not_mem_nil
  | c :: cs, piece, h => by
    obtain ⟨first, rest, hs⟩ := List.exists_cons_of_ne_nil (List.splitOn_ne_nil a cs)
    have ih : ∀ l ∈ first :: rest, a ∉ l := fun l hl => not_mem_of_mem_splitOn (hs ▸ hl)
    rw [List.splitOn_cons_eq_if_modifyHead, hs] at h
    split_ifs at h with hc
    · rcases List.mem_cons.mp h with rfl | h
      · exact List.not_mem_nil
      · exact ih piece h
    · rcases List.mem_cons.mp h with rfl | h
      · intro hm
        rcases List.mem_cons.mp hm with rfl | hm
        · exact hc (beq_self_eq_true _)
        · exact ih first List.mem_cons_self hm
      · exact ih piece (List.mem_cons_of_mem _ h)

namespace Text

theorem mem_of_mem_trimChars {c : Char} {cs : List Char} (h : c ∈ trimChars cs) : c ∈ cs := by
  have hs : c ∈ trimStart cs :=
    List.mem_reverse.mp ((List.dropWhile_suffix _).mem (List.mem_reverse.mp h))
  exact (List.dropWhile_suffix _).mem hs

/-- Something is left of a text that is not blank. -/
theorem trimChars_ne_nil {c : Char} {cs : List Char} (hc : c ∈ cs) (hb : isBlank c = false) :
    trimChars cs ≠ [] := by
  intro h
  have hall : ∀ a ∈ trimStart cs, isBlank a = true := fun a ha =>
    List.dropWhile_eq_nil_iff.mp (List.reverse_eq_nil_iff.mp h) a (List.mem_reverse.mpr ha)
  have hd := List.head?_dropWhile_not isBlank cs
  rw [← trimStart] at hd
  cases hs : trimStart cs with
  | nil =>
    rw [List.dropWhile_eq_nil_iff.mp hs c hc] at hb
    cases hb
  | cons a rest =>
    rw [hs] at hd hall
    change isBlank a = false at hd
    rw [hall a List.mem_cons_self] at hd
    cases hd

theorem newline_not_mem_literalBody {cs : List Char} (h : '\n' ∉ cs) : '\n' ∉ literalBody cs := by
  induction cs with
  | nil => exact h
  | cons a cs ih =>
    rw [List.mem_cons, not_or] at h
    have hr := ih h.2
    rw [literalBody]
    split_ifs
    · simp [h.1, hr]
    · simp [h.1, hr]

/-- The literal of a value without line breaks has none. -/
theorem newline_not_mem_literal {s : String} (h : '\n' ∉ s.toList) :
    '\n' ∉ (literal s).toList := by
  have hb := newline_not_mem_literalBody h
  rw [literal, String.toList_ofList]
  simp [hb]

end Text

theorem newline_not_mem_indentation (d : Nat) : '\n' ∉ (indentation d).toList := by
  intro h
  rw [indentation, String.toList_ofList] at h
  exact absurd (List.eq_of_mem_replicate h) (by decide)

namespace Comment

theorem newline_not_mem_realign {cs : List Char} (h : '\n' ∉ cs) : '\n' ∉ realign cs := by
  have ht : '\n' ∉ Text.trimChars cs := fun hm => h (Text.mem_of_mem_trimChars hm)
  rw [realign]
  split
  · rename_i rest hr
    rw [hr] at ht
    simpa using ht
  · exact ht

/-- **The lines of a comment hold no line breaks.** -/
theorem newline_not_mem_lines {c : Comment} {line : List Char} (h : line ∈ c.lines) :
    '\n' ∉ line := by
  rw [Comment.lines] at h
  obtain ⟨first, rest, hs⟩ :=
    List.exists_cons_of_ne_nil (List.splitOn_ne_nil '\n' (Text.trimChars c.text.toList))
  have hn : ∀ l ∈ first :: rest, '\n' ∉ l := fun l hl => not_mem_of_mem_splitOn (hs ▸ hl)
  rw [hs, realignTail, List.mem_cons, List.mem_map] at h
  rcases h with rfl | ⟨l, hl, rfl⟩
  · exact hn _ List.mem_cons_self
  · exact newline_not_mem_realign (hn l (List.mem_cons_of_mem _ hl))

end Comment

end PhpDecl
