import Mathlib.Data.List.DropRight
import PhpDecl.Proofs.Lines
import PhpDecl.Tree.Type

/-!
# The source of a type

Reading a type drops white space and nothing else. What is left, put together again with its
question marks and bars, is a text that is read as the same type, missing parts included.

* `TypeExpr.chars`, `TypeExpr.partChars`, `TypeExpr.source`: a type as a text;
* `ofPiece_partChars`, `mem_of_mem_ofPiece`: a piece between bars is read again, and holds no new
  character;
* **`TypeExpr.ofText_source`**: a type that was read is read again from its source.
-/

namespace PhpDecl

mutual

/-- The characters of a type as it was read. A missing part has none. -/
def TypeExpr.chars : TypeExpr → List Char
  | .named _ name => name.toList
  | .nullable _ inner => '?' :: TypeExpr.partChars inner
  | .union _ parts => ['|'].intercalate (TypeExpr.allChars parts)
  | .foreign _ _ => []

/-- The characters of a part that may be missing. -/
def TypeExpr.partChars : Option TypeExpr → List Char
  | none => []
  | some t => t.chars

/-- The characters of the parts of a union. -/
def TypeExpr.allChars : List (Option TypeExpr) → List (List Char)
  | [] => []
  | t :: rest => TypeExpr.partChars t :: TypeExpr.allChars rest

end

/-- The text of a type as it was read. -/
def TypeExpr.source (t : Option TypeExpr) : String := String.ofList (TypeExpr.partChars t)

theorem allChars_eq_map (ts : List (Option TypeExpr)) :
    TypeExpr.allChars ts = ts.map TypeExpr.partChars := by
  induction ts with
  | nil => rfl
  | cons t ts ih => rw [TypeExpr.allChars, ih, List.map_cons]

theorem Text.trimEnd_cons {c : Char} (hc : Text.isBlank c = false) (cs : List Char) :
    Text.trimEnd (c :: cs) = c :: Text.trimEnd cs := by
  rw [Text.trimEnd, List.reverse_cons, List.dropWhile_append]
  split_ifs with h
  · have hcs : cs.reverse.dropWhile Text.isBlank = [] := List.isEmpty_iff.mp h
    rw [List.dropWhile_cons_of_neg (by simp [hc]), Text.trimEnd, hcs]
    rfl
  · rw [List.reverse_append]
    rfl

/-- A piece of a type is read again from what was read of it. -/
theorem ofPiece_partChars (cs : List Char) :
    TypeExpr.ofPiece (TypeExpr.partChars (TypeExpr.ofPiece cs)) = TypeExpr.ofPiece cs := by
  induction cs with
  | nil => rfl
  | cons c cs ih =>
    rw [TypeExpr.ofPiece]
    split_ifs with hb hq
    · exact ih
    · rw [TypeExpr.partChars, TypeExpr.chars, TypeExpr.ofPiece, if_neg (by decide), if_pos rfl, ih]
    · have hc : Text.isBlank c = false := Bool.eq_false_iff.mpr hb
      have ht := Text.trimEnd_cons hc cs
      rw [TypeExpr.partChars, TypeExpr.chars, String.toList_ofList, ht, TypeExpr.ofPiece,
        if_neg hb, if_neg hq, ← ht]
      exact congrArg (fun l => some (TypeExpr.named [] (String.ofList l)))
        (List.rdropWhile_idempotent Text.isBlank (c :: cs))

/-- Reading a piece brings in no character. -/
theorem mem_of_mem_ofPiece {a : Char} {cs : List Char}
    (h : a ∈ TypeExpr.partChars (TypeExpr.ofPiece cs)) : a ∈ cs := by
  induction cs with
  | nil => exact h
  | cons c cs ih =>
    rw [TypeExpr.ofPiece] at h
    split_ifs at h with hb hq
    · exact List.mem_cons_of_mem c (ih h)
    · rw [TypeExpr.partChars, TypeExpr.chars, ← hq] at h
      rcases List.mem_cons.mp h with rfl | h
      · exact List.mem_cons_self
      · exact List.mem_cons_of_mem c (ih h)
    · rw [TypeExpr.partChars, TypeExpr.chars, String.toList_ofList] at h
      exact (List.rdropWhile_prefix Text.isBlank (c :: cs)).mem h

theorem bar_not_mem_ofPiece {cs piece : List Char} (h : piece ∈ cs.splitOn '|') :
    '|' ∉ TypeExpr.partChars (TypeExpr.ofPiece piece) :=
  fun hm => not_mem_of_mem_splitOn h (mem_of_mem_ofPiece hm)

/-- **A type that was read is read again from its source.** -/
theorem TypeExpr.ofText_source (s : String) : ofText (source (ofText s)) = ofText s := by
  rw [source, ofText, ofText, String.toList_ofList]
  generalize s.toList = cs
  by_cases hbar : '|' ∈ cs
  · have hread : ofChars cs = some (.union [] ((cs.splitOn '|').map ofPiece)) := if_pos hbar
    rw [hread, partChars, chars, allChars_eq_map, List.map_map]
    have hsplit : (['|'].intercalate ((cs.splitOn '|').map (partChars ∘ ofPiece))).splitOn '|' =
        (cs.splitOn '|').map (partChars ∘ ofPiece) := by
      refine List.splitOn_intercalate '|' (fun l hl => ?_) ?_
      · obtain ⟨piece, hp, rfl⟩ := List.mem_map.mp hl
        exact bar_not_mem_ofPiece hp
      · simp [List.splitOn_ne_nil]
    -- a single piece would be the whole text, which holds a bar
    have hmem : '|' ∈ ['|'].intercalate ((cs.splitOn '|').map (partChars ∘ ofPiece)) := by
      by_contra hno
      rw [List.splitOn_eq_singleton hno] at hsplit
      obtain ⟨piece, hp⟩ : ∃ piece, cs.splitOn '|' = [piece] := by
        have hlen := congrArg List.length hsplit
        rw [List.length_map] at hlen
        exact List.length_eq_one_iff.mp hlen.symm
      have hcs : ['|'].intercalate (cs.splitOn '|') = cs := List.intercalate_splitOn '|'
      rw [hp, List.intercalate_singleton] at hcs
      have hno := not_mem_of_mem_splitOn (hp ▸ List.mem_singleton_self piece)
      rw [hcs] at hno
      exact hno hbar
    rw [ofChars, if_pos hmem, hsplit, List.map_map]
    congr 2
    refine List.map_congr_left fun piece _ => ?_
    exact ofPiece_partChars piece
  · have hread : ofChars cs = ofPiece cs := if_neg hbar
    have hno : '|' ∉ partChars (ofPiece cs) := fun hm => hbar (mem_of_mem_ofPiece hm)
    rw [hread, ofChars, if_neg hno, ofPiece_partChars]

end PhpDecl
