import Mathlib.Tactic.Common
import PhpDecl.Text.Literal

/-!
# Names, literals and numbers in a text

A name, a string literal and a number each tell where they end: a name and a number at the first
character that is not one of theirs, a literal at its closing quote. So they can be read off the
start of a text in one way only.

* `isIdentifier`, `Identifier`: names;
* `append_inj_of_span`, `Breaks`: runs of characters of one kind;
* **`Identifier.append_inj`**, **`Text.literalBody_append_inj`**, **`intRepr_append_inj`**: names,
  literals and numbers at the start of a text.
-/

namespace PhpDecl

/-! ## Names -/

/-- A letter or an underscore. -/
def isNameStart (c : Char) : Bool := c.isAlpha || c = '_'

/-- A letter, a digit or an underscore. -/
def isNameChar (c : Char) : Bool := c.isAlphanum || c = '_'

/-- A name that does not start with a digit. -/
def isIdentifier (s : String) : Bool :=
  match s.toList with
  | [] => false
  | c :: cs => isNameStart c && cs.all isNameChar

/-- An identifier. -/
structure Identifier where
  text : String
  valid : isIdentifier text = true

namespace Identifier

instance : Inhabited Identifier := ⟨⟨"_", by decide⟩⟩

/-- A text as an identifier; what is none stands for some identifier. -/
def ofText (s : String) : Identifier := if h : isIdentifier s = true then ⟨s, h⟩ else default

theorem text_ofText {s : String} (h : isIdentifier s = true) : (ofText s).text = s := by
  rw [ofText, dif_pos h]

theorem ext {n m : Identifier} (h : n.text.toList = m.text.toList) : n = m := by
  obtain ⟨n, hn⟩ := n
  obtain ⟨m, hm⟩ := m
  obtain rfl : n = m := String.toList_inj.mp h
  rfl

/-- The characters of an identifier. -/
def chars (n : Identifier) : List Char := n.text.toList

theorem exists_chars_cons (n : Identifier) :
    ∃ c cs, n.chars = c :: cs ∧ isNameStart c = true ∧ ∀ a ∈ cs, isNameChar a = true := by
  have hvalid := n.valid
  unfold isIdentifier at hvalid
  unfold chars
  cases hn : n.text.toList with
  | nil =>
    rw [hn] at hvalid
    cases hvalid
  | cons c cs =>
    rw [hn, Bool.and_eq_true] at hvalid
    exact ⟨c, cs, rfl, hvalid.1, List.all_eq_true.mp hvalid.2⟩

theorem isNameChar_of_isNameStart {c : Char} (h : isNameStart c = true) : isNameChar c = true := by
  unfold isNameStart at h
  unfold isNameChar Char.isAlphanum
  rw [Bool.or_eq_true] at h
  rcases h with h | h
  · rw [h]
    rfl
  · rw [h, Bool.or_true]

theorem isNameChar_of_mem (n : Identifier) : ∀ c ∈ n.chars, isNameChar c = true := by
  obtain ⟨c, cs, hn, hstart, hrest⟩ := n.exists_chars_cons
  rw [hn]
  exact List.forall_mem_cons.mpr ⟨isNameChar_of_isNameStart hstart, hrest⟩

end Identifier

/-! ## Where names, literals and numbers end -/

/-- Two runs of characters of one kind that are followed by none of them are the same if the texts
are. -/
theorem append_inj_of_span {p : Char → Bool} {as bs xs ys : List Char}
    (ha : ∀ c ∈ as, p c = true) (hb : ∀ c ∈ bs, p c = true) (hx : ∀ c ∈ xs.head?, p c = false)
    (hy : ∀ c ∈ ys.head?, p c = false) (h : as ++ xs = bs ++ ys) : as = bs ∧ xs = ys := by
  induction as generalizing bs with
  | nil =>
    cases bs with
    | nil => exact ⟨rfl, h⟩
    | cons b bs =>
      rw [List.nil_append] at h
      have hstop := hx b (by rw [h]; rfl)
      rw [hb b List.mem_cons_self] at hstop
      cases hstop
  | cons a as ih =>
    rw [List.forall_mem_cons] at ha
    cases bs with
    | nil =>
      rw [List.nil_append] at h
      have hstop := hy a (by rw [← h]; rfl)
      rw [ha.1] at hstop
      cases hstop
    | cons b bs =>
      rw [List.forall_mem_cons] at hb
      obtain ⟨rfl, hrest⟩ := List.cons.inj h
      obtain ⟨rfl, rfl⟩ := ih ha.2 hb.2 hrest
      exact ⟨rfl, rfl⟩

/-- The text does not go on with a name or a number. -/
def Breaks (r : List Char) : Prop := ∀ c ∈ r.head?, isNameChar c = false

theorem breaks_cons {c : Char} (h : isNameChar c = false) (rest : List Char) :
    Breaks (c :: rest) := by
  intro a ha
  cases ha
  exact h

/-- A name ends where its characters end. -/
theorem Identifier.append_inj {n m : Identifier} {xs ys : List Char} (hx : Breaks xs)
    (hy : Breaks ys) (h : n.chars ++ xs = m.chars ++ ys) : n = m ∧ xs = ys := by
  obtain ⟨hn, hr⟩ := append_inj_of_span n.isNameChar_of_mem m.isNameChar_of_mem hx hy h
  exact ⟨Identifier.ext hn, hr⟩

namespace Text

/-- Reading a literal after its opening quote gives its value back, and what follows it. -/
theorem readLiteralBody_literalBody (cs rest : List Char) :
    readLiteralBody (literalBody cs ++ '\'' :: rest) = some (cs, rest) := by
  induction cs with
  | nil => rfl
  | cons c cs ih =>
    rw [literalBody]
    by_cases hslash : c = '\\'
    · subst hslash
      rw [if_pos (by decide), List.cons_append, List.cons_append, readLiteralBody, ih]
      rfl
    · by_cases hquote : c = '\''
      · subst hquote
        rw [if_pos (by decide), List.cons_append, List.cons_append, readLiteralBody, ih]
        rfl
      · rw [if_neg (by simp [hslash, hquote]), List.cons_append, readLiteralBody, ih]
        · rfl
        · exact hquote
        · exact fun _ h => absurd h hslash
        · exact fun _ h => absurd h hslash

theorem literalBody_append_inj {as bs xs ys : List Char}
    (h : literalBody as ++ '\'' :: xs = literalBody bs ++ '\'' :: ys) : as = bs ∧ xs = ys := by
  have hread := readLiteralBody_literalBody as xs
  rw [h, readLiteralBody_literalBody, Option.some.injEq, Prod.mk.injEq] at hread
  exact ⟨hread.1.symm, hread.2.symm⟩

end Text

theorem isNameChar_of_isDigit {c : Char} (h : c.isDigit = true) : isNameChar c = true := by
  unfold isNameChar Char.isAlphanum
  rw [h, Bool.or_true]
  rfl

theorem isDigit_of_mem_repr (n : Nat) : ∀ c ∈ n.repr.toList, c.isDigit = true := by
  intro c hc
  rw [Nat.toList_repr] at hc
  exact Nat.isDigit_of_mem_toDigits (by decide) (by decide) hc

theorem repr_ne_nil (n : Nat) : n.repr.toList ≠ [] := by
  rw [Nat.toList_repr]
  exact Nat.toDigits_ne_nil

theorem natRepr_append_inj {n m : Nat} {xs ys : List Char} (hx : Breaks xs) (hy : Breaks ys)
    (h : n.repr.toList ++ xs = m.repr.toList ++ ys) : n = m ∧ xs = ys := by
  obtain ⟨hn, hr⟩ := append_inj_of_span
    (fun c hc => isNameChar_of_isDigit (isDigit_of_mem_repr n c hc))
    (fun c hc => isNameChar_of_isDigit (isDigit_of_mem_repr m c hc)) hx hy h
  rw [Nat.toList_repr, Nat.toList_repr] at hn
  have hvalue : Nat.ofDigitChars 10 (Nat.toDigits 10 n) 0 =
      Nat.ofDigitChars 10 (Nat.toDigits 10 m) 0 := by rw [hn]
  rw [Nat.ofDigitChars_ten_toDigits, Nat.ofDigitChars_ten_toDigits] at hvalue
  exact ⟨hvalue, hr⟩

/-- The text of a number starts with a digit or with a sign. -/
theorem exists_intRepr_cons (n : Int) :
    ∃ c cs, n.repr.toList = c :: cs ∧ (c.isDigit || c = '-') = true := by
  cases n with
  | ofNat m =>
    obtain ⟨c, cs, hc⟩ := List.exists_cons_of_ne_nil (repr_ne_nil m)
    refine ⟨c, cs, hc, ?_⟩
    rw [isDigit_of_mem_repr m c (hc ▸ List.mem_cons_self)]
    rfl
  | negSucc m =>
    refine ⟨'-', m.succ.repr.toList, ?_, rfl⟩
    change ("-" ++ m.succ.repr).toList = _
    rw [String.toList_append]
    rfl

/-- A number ends where its digits end. -/
theorem intRepr_append_inj {n m : Int} {xs ys : List Char} (hx : Breaks xs) (hy : Breaks ys)
    (h : n.repr.toList ++ xs = m.repr.toList ++ ys) : n = m ∧ xs = ys := by
  have hneg : ∀ k : Nat, (Int.negSucc k).repr.toList = '-' :: k.succ.repr.toList := by
    intro k
    change ("-" ++ k.succ.repr).toList = _
    rw [String.toList_append]
    rfl
  have hsign : ∀ (k : Nat) (l zs ws : List Char), k.repr.toList ++ zs ≠ '-' :: l ++ ws := by
    intro k l zs ws heq
    obtain ⟨c, cs, hc⟩ := List.exists_cons_of_ne_nil (repr_ne_nil k)
    have hdigit := isDigit_of_mem_repr k c (hc ▸ List.mem_cons_self)
    rw [hc] at heq
    obtain ⟨rfl, -⟩ := List.cons.inj heq
    cases hdigit
  cases n with
  | ofNat n =>
    cases m with
    | ofNat m =>
      obtain ⟨rfl, rfl⟩ := natRepr_append_inj hx hy h
      exact ⟨rfl, rfl⟩
    | negSucc m =>
      rw [hneg] at h
      exact absurd h (hsign n _ _ _)
  | negSucc n =>
    rw [hneg] at h
    cases m with
    | ofNat m => exact absurd h.symm (hsign m _ _ _)
    | negSucc m =>
      rw [hneg] at h
      obtain ⟨hn, rfl⟩ := natRepr_append_inj hx hy (List.cons.inj h).2
      cases hn
      exact ⟨rfl, rfl⟩

end PhpDecl
