import PhpDecl.Printer.Tree
import PhpDecl.Proofs.TypeSource
import PhpDecl.Proofs.Unprintable

/-!
# The written form of a type

A type that was read from a text is printed without the white space of the text: none is left
around a piece between bars, nor around the question marks in front of its name. The printed form
is read as the same type, so printing and reading again changes nothing more.

* `TypeExpr.tidiedPiece`, `TypeExpr.tidied`: a text of a type without that white space;
* `partText_ofPiece`, `partTexts_ofPiece`: what is printed for a piece, and for pieces;
* `TypeExpr.text_of_ofText`: what is printed for a text that was read;
* `TypeExpr.ofText_tidied`: the tidied text is read as the same type;
* **`Printer.node_type_tidied`**: reading and printing types.
-/

namespace PhpDecl

open Document

/-! ## Tidied texts -/

namespace TypeExpr

/-- What may stand in front of the name in a piece: white space and question marks. -/
def isLead (c : Char) : Bool := Text.isBlank c || c == '?'

/-- A piece without the white space around it and around its leading question marks. -/
def tidiedPiece (cs : List Char) : List Char :=
  (cs.takeWhile isLead).filter (· == '?') ++ Text.trimEnd (cs.dropWhile isLead)

/-- A text of a type with every piece between bars tidied. -/
def tidied (s : String) : String :=
  String.ofList (['|'].intercalate ((s.toList.splitOn '|').map tidiedPiece))

theorem tidiedPiece_cons_of_blank {c : Char} (h : Text.isBlank c = true) (cs : List Char) :
    tidiedPiece (c :: cs) = tidiedPiece cs := by
  have hlead : isLead c = true := by rw [isLead, h, Bool.true_or]
  have hmark : c ≠ '?' := by
    rintro rfl
    cases h
  unfold tidiedPiece
  rw [List.takeWhile_cons_of_pos hlead, List.dropWhile_cons_of_pos hlead,
    List.filter_cons_of_neg (by simpa using hmark)]

theorem tidiedPiece_cons_mark (cs : List Char) :
    tidiedPiece ('?' :: cs) = '?' :: tidiedPiece cs := by
  have hlead : isLead '?' = true := by decide
  unfold tidiedPiece
  rw [List.takeWhile_cons_of_pos hlead, List.dropWhile_cons_of_pos hlead,
    List.filter_cons_of_pos (by decide), List.cons_append]

theorem tidiedPiece_cons_of_name {c : Char} (hb : ¬Text.isBlank c = true) (hq : c ≠ '?')
    (cs : List Char) : tidiedPiece (c :: cs) = Text.trimEnd (c :: cs) := by
  have hlead : ¬isLead c = true := by simp [isLead, hb, hq]
  unfold tidiedPiece
  rw [List.takeWhile_cons_of_neg hlead, List.dropWhile_cons_of_neg hlead, List.filter_nil,
    List.nil_append]

end TypeExpr

open TypeExpr

/-! ## Pieces -/

/-- What was read of a piece is the tidied piece. -/
theorem partChars_ofPiece (cs : List Char) : partChars (ofPiece cs) = tidiedPiece cs := by
  induction cs with
  | nil => rfl
  | cons c cs ih =>
    rw [ofPiece]
    split_ifs with hb hq
    · rw [ih, tidiedPiece_cons_of_blank hb]
    · subst hq
      rw [partChars, chars, ih, tidiedPiece_cons_mark]
    · rw [partChars, chars, String.toList_ofList, tidiedPiece_cons_of_name hb hq]

/-- **What is printed for a piece**: the tidied piece, unless it names nothing. -/
theorem partText_ofPiece (cs : List Char) :
    partText (ofPiece cs) =
      if namesNothing cs then .error .nilType else .ok (String.ofList (tidiedPiece cs)) := by
  induction cs with
  | nil => rfl
  | cons c cs ih =>
    rw [ofPiece, namesNothing, List.all_cons]
    by_cases hb : Text.isBlank c = true
    · rw [if_pos hb, ih, hb, Bool.true_or, Bool.true_and, tidiedPiece_cons_of_blank hb]
      rfl
    · by_cases hq : c = '?'
      · subst hq
        rw [if_neg hb, if_pos rfl, partText, text, ih, tidiedPiece_cons_mark, beq_self_eq_true,
          Bool.or_true, Bool.true_and, ← namesNothing]
        cases namesNothing cs with
        | true => rfl
        | false =>
          change Except.ok ("?" ++ String.ofList (tidiedPiece cs)) = .ok _
          rw [String.ofList_cons]
          rfl
      · rw [if_neg hb, if_neg hq, partText, text, tidiedPiece_cons_of_name hb hq,
          Bool.eq_false_iff.mpr hb, beq_false_of_ne hq]
        rfl

/-- What is printed for the pieces of a union: all of them, unless one names nothing. -/
theorem partTexts_ofPiece (pieces : List (List Char)) :
    partTexts (pieces.map ofPiece) =
      if pieces.any namesNothing then .error .nilType
      else .ok (pieces.map fun piece => String.ofList (tidiedPiece piece)) := by
  induction pieces with
  | nil => rfl
  | cons piece pieces ih =>
    rw [List.map_cons, partTexts, partText_ofPiece, ih, List.any_cons]
    cases namesNothing piece with
    | true => rfl
    | false =>
      cases pieces.any namesNothing with
      | true => rfl
      | false => rfl

/-! ## Types -/

namespace TypeExpr

/-- A text without bars is one piece. -/
theorem tidied_of_no_bar {s : String} (h : '|' ∉ s.toList) :
    tidied s = String.ofList (tidiedPiece s.toList) := by
  rw [tidied, List.splitOn_eq_singleton h, List.map_singleton, List.intercalate_singleton]

/-- **What is printed for a text that was read**: the tidied text, unless a piece of it names
nothing. -/
theorem text_of_ofText {s : String} {t : TypeExpr} (h : ofText s = some t) :
    t.text = if (s.toList.splitOn '|').any namesNothing then .error .nilType
      else .ok (tidied s) := by
  rw [ofText, ofChars] at h
  split_ifs at h with hbar
  · cases h
    rw [text, partTexts_ofPiece]
    cases (s.toList.splitOn '|').any namesNothing with
    | true => rfl
    | false =>
      have hpieces : ((s.toList.splitOn '|').map fun piece =>
          String.ofList (tidiedPiece piece)).map String.toList =
            (s.toList.splitOn '|').map tidiedPiece := by
        simp only [List.map_map, Function.comp_def, String.toList_ofList]
      refine congrArg Except.ok (String.toList_inj.mp ?_)
      rw [String.toList_intercalate, hpieces, tidied, String.toList_ofList, String.toList_ofList]
  · have hpiece := partText_ofPiece s.toList
    rw [h, partText] at hpiece
    rw [hpiece, List.splitOn_eq_singleton hbar, List.any_cons, List.any_nil, Bool.or_false,
      tidied_of_no_bar hbar]

/-- What was read of a text is the tidied text. -/
theorem source_ofText (s : String) : source (ofText s) = tidied s := by
  rw [source, ofText, ofChars]
  split_ifs with hbar
  · rw [partChars, chars, allChars_eq_map, List.map_map, tidied]
    congr 2
    refine List.map_congr_left fun piece _ => ?_
    exact partChars_ofPiece piece
  · rw [partChars_ofPiece, tidied_of_no_bar hbar]

/-- **The tidied text is read as the same type.** -/
theorem ofText_tidied (s : String) : ofText (tidied s) = ofText s := by
  rw [← source_ofText, ofText_source]

theorem ofText_eq_none_iff (s : String) :
    ofText s = none ↔ s.toList.all Text.isBlank = true := by
  rw [ofText, ofChars]
  split_ifs with hbar
  · refine iff_of_false not_false ?_
    intro hblank
    exact absurd (List.all_eq_true.mp hblank '|' hbar) (by decide)
  · exact ofPiece_eq_none_iff s.toList

end TypeExpr

namespace Printer

/-- **Reading and printing types.** No type is read from a text exactly if it is blank. The type of
any other text prints, in every style and at every depth, exactly if every piece between bars names
something. The printed text is then the text that was read without the white space around its
pieces and around their leading question marks, and it is read as the same type. -/
theorem node_type_tidied (style : Style) (s : String) (d : Int) :
    (ofText s = none ↔ s.toList.all Text.isBlank = true) ∧
    ∀ t, ofText s = some t →
      ((∃ r, (node style (.type t) d).answer = .ok r) ↔
        ∀ piece ∈ s.toList.splitOn '|', namesNothing piece = false) ∧
      ∀ r, (node style (.type t) d).answer = .ok r → r = tidied s ∧ ofText r = ofText s := by
  refine ⟨ofText_eq_none_iff s, fun t ht => ?_⟩
  have hanswer : (node style (.type t) d).answer = (Traced.ofExcept t.text).result := rfl
  rw [hanswer, text_of_ofText ht]
  cases hany : (s.toList.splitOn '|').any namesNothing with
  | true =>
    obtain ⟨piece, hpiece, hnothing⟩ := List.any_eq_true.mp hany
    refine ⟨iff_of_false ?_ ?_, ?_⟩
    · rintro ⟨r, hr⟩
      cases hr
    · intro hall
      rw [hall piece hpiece] at hnothing
      cases hnothing
    · intro r hr
      cases hr
  | false =>
    refine ⟨iff_of_true ⟨tidied s, rfl⟩ ?_, ?_⟩
    · intro piece hpiece
      exact Bool.eq_false_iff.mpr (List.any_eq_false.mp hany piece hpiece)
    · intro r hr
      cases hr
      exact ⟨rfl, ofText_tidied s⟩

/-- White space around a bar, and between two question marks. -/
theorem node_type_tidied_spaced :
    ∃ t, ofText " ? ?a b |\tc" = some t ∧
      (node .standard (.type t) 0).answer = .ok "??a b|c" ∧ ofText "??a b|c" = some t := by
  have hform := node_type_tidied .standard " ? ?a b |\tc" 0
  obtain ⟨t, ht⟩ : ∃ t, ofText " ? ?a b |\tc" = some t := ⟨_, rfl⟩
  have hpieces : ∀ piece ∈ " ? ?a b |\tc".toList.splitOn '|', namesNothing piece = false := by
    decide +kernel
  obtain ⟨r, hr⟩ := ((hform.2 t ht).1).mpr hpieces
  obtain ⟨htidied, hread⟩ := (hform.2 t ht).2 r hr
  obtain rfl : r = "??a b|c" := htidied.trans (by decide +kernel)
  exact ⟨t, ht, hr, hread.trans ht⟩

end Printer

end PhpDecl
