import PhpDecl.Printer.Tree
import PhpDecl.Proofs.Tokens

/-!
# Literals are read back

Between the quotes of a literal a backslash may take away the meaning of the character after it.
What a literal spells, where it ends and what follows it are determined by the text, and a printed
string is read back as the string it was, whatever stands behind it.

* `Text.Spells`: how the characters between the quotes stand for a value;
* `Text.readLiteralBody_eq_some_iff`: reading finds the value that is spelled up to the closing
  quote;
* `Text.readLiteral_literal`: a literal is read back;
* **`Printer.readings_of_string`**: a printed string in front of any text has one reading.
-/

namespace PhpDecl

namespace Text

/-- How the characters between the quotes of a literal stand for its value. A backslash stands for
itself unless a backslash or a quote follows it, so none stands in front of the closing quote. -/
inductive Spells : List Char → List Char → Prop
  | nil : Spells [] []
  | escaped {c : Char} {body value : List Char} (hc : c = '\\' ∨ c = '\'')
      (rest : Spells body value) : Spells ('\\' :: c :: body) (c :: value)
  | plain {c : Char} {body value : List Char} (hslash : c ≠ '\\') (hquote : c ≠ '\'')
      (rest : Spells body value) : Spells (c :: body) (c :: value)
  | backslash {c : Char} {body value : List Char} (hslash : c ≠ '\\') (hquote : c ≠ '\'')
      (rest : Spells (c :: body) value) : Spells ('\\' :: c :: body) ('\\' :: value)

/-- What a literal spells is read, up to the quote that closes it. -/
theorem Spells.readLiteralBody_eq {body value : List Char} (h : Spells body value)
    (rest : List Char) : readLiteralBody (body ++ '\'' :: rest) = some (value, rest) := by
  induction h with
  | nil => rfl
  | escaped hc _ ih =>
    rcases hc with rfl | rfl
    · rw [List.cons_append, List.cons_append, readLiteralBody, ih]
      rfl
    · rw [List.cons_append, List.cons_append, readLiteralBody, ih]
      rfl
  | plain hslash hquote _ ih =>
    rw [List.cons_append, readLiteralBody, ih]
    · rfl
    · exact hquote
    · exact fun _ h => absurd h hslash
    · exact fun _ h => absurd h hslash
  | backslash hslash hquote _ ih =>
    rw [List.cons_append] at ih
    rw [List.cons_append, List.cons_append, readLiteralBody, ih]
    · rfl
    · decide
    · intro _ _ h
      exact hslash (List.cons.inj h).1
    · intro _ _ h
      exact hquote (List.cons.inj h).1

/-- What is read is spelled by the characters in front of the closing quote. -/
theorem exists_spells_of_readLiteralBody {cs value rest : List Char}
    (h : readLiteralBody cs = some (value, rest)) :
    ∃ body, cs = body ++ '\'' :: rest ∧ Spells body value := by
  fun_induction readLiteralBody cs generalizing value with
  | case1 => cases h
  | case2 cs =>
    cases h
    exact ⟨[], rfl, .nil⟩
  | case3 cs ih =>
    obtain ⟨⟨v, r⟩, hr, hv⟩ := Option.map_eq_some_iff.mp h
    cases hv
    obtain ⟨body, rfl, hbody⟩ := ih hr
    exact ⟨'\\' :: '\\' :: body, rfl, .escaped (.inl rfl) hbody⟩
  | case4 cs ih =>
    obtain ⟨⟨v, r⟩, hr, hv⟩ := Option.map_eq_some_iff.mp h
    cases hv
    obtain ⟨body, rfl, hbody⟩ := ih hr
    exact ⟨'\\' :: '\'' :: body, rfl, .escaped (.inr rfl) hbody⟩
  | case5 c cs hquote hslashes hescape ih =>
    obtain ⟨⟨v, r⟩, hr, hv⟩ := Option.map_eq_some_iff.mp h
    cases hv
    obtain ⟨body, rfl, hbody⟩ := ih hr
    refine ⟨c :: body, rfl, ?_⟩
    by_cases hc : c = '\\'
    · subst hc
      -- the backslash is not in front of the closing quote, nor of a backslash or another quote
      cases body with
      | nil => exact absurd rfl (hescape r rfl)
      | cons a body =>
        refine .backslash ?_ ?_ hbody
        · rintro rfl
          exact hslashes _ rfl rfl
        · rintro rfl
          exact hescape _ rfl rfl
    · exact .plain hc hquote hbody

theorem readLiteralBody_eq_some_iff {cs value rest : List Char} :
    readLiteralBody cs = some (value, rest) ↔
      ∃ body, cs = body ++ '\'' :: rest ∧ Spells body value := by
  refine ⟨exists_spells_of_readLiteralBody, ?_⟩
  rintro ⟨body, rfl, h⟩
  exact h.readLiteralBody_eq rest

theorem spells_literalBody (cs : List Char) : Spells (literalBody cs) cs := by
  have hread := readLiteralBody_literalBody cs []
  obtain ⟨body, hbody, h⟩ := readLiteralBody_eq_some_iff.mp hread
  rwa [List.append_cancel_right hbody]

theorem toList_literal_append (s t : String) :
    (literal s ++ t).toList = '\'' :: (literalBody s.toList ++ '\'' :: t.toList) := by
  simp [literal]

/-- A literal is read back, and what follows it is left. -/
theorem readLiteral_literal (s t : String) : readLiteral (literal s ++ t) = some (s, t) := by
  unfold readLiteral
  rw [toList_literal_append]
  simp only [readLiteralBody_literalBody, Option.map_some, String.ofList_toList]

/-- **A literal in front of any text is a literal in one way only.** -/
theorem reading_unique {s t : String} {body value rest : List Char}
    (h : (literal s ++ t).toList = '\'' :: (body ++ '\'' :: rest)) (hbody : Spells body value) :
    body = literalBody s.toList ∧ value = s.toList ∧ rest = t.toList := by
  rw [toList_literal_append, List.cons.injEq] at h
  have hread := hbody.readLiteralBody_eq rest
  rw [← h.2, readLiteralBody_literalBody, Option.some.injEq, Prod.mk.injEq] at hread
  obtain ⟨rfl, rfl⟩ := hread
  exact ⟨(List.append_cancel_right h.2).symm, rfl, rfl⟩

end Text

namespace Printer

/-- **A printed string in front of any text has one reading.** A string is printed as its literal in
every style and at every depth. Whatever follows, reading the literal gives the string back and
leaves what follows, and no other opening quote, spelling and closing quote make up the text. -/
theorem readings_of_string (style : Style) (comments : List Comment) (s t : String) (d : Int) :
    (node style (.expr (.string comments s)) d).answer = .ok (Text.literal s) ∧
    Text.readLiteral (Text.literal s ++ t) = some (s, t) ∧
    ∀ body value rest : List Char,
      (Text.literal s ++ t).toList = '\'' :: (body ++ '\'' :: rest) ∧ Text.Spells body value ↔
        '\'' :: (body ++ ['\'']) = (Text.literal s).toList ∧ value = s.toList ∧
          rest = t.toList := by
  refine ⟨rfl, Text.readLiteral_literal s t, fun body value rest => ⟨?_, ?_⟩⟩
  · rintro ⟨h, hbody⟩
    obtain ⟨rfl, hvalue, hrest⟩ := Text.reading_unique h hbody
    refine ⟨?_, hvalue, hrest⟩
    simp [Text.literal]
  · rintro ⟨h, rfl, rfl⟩
    have hbody : body = Text.literalBody s.toList := by
      simpa [Text.literal] using h
    subst hbody
    exact ⟨Text.toList_literal_append s t, Text.spells_literalBody s.toList⟩

end Printer

end PhpDecl
