import Mathlib.Tactic.Common
import PhpDecl.Modifier
import PhpDecl.Text.Literal
import PhpDecl.Text.Width

/-!
# Plain text

Plain text is made of the printable characters of ASCII. All fixed words of the printed language
are plain, and a plain text takes one column for each of its characters.

* `Text.isPlain`, `Text.Plain`: plain characters and texts;
* `Text.Plain.append`, `Text.Plain.join`: putting plain texts together;
* `Text.plain_literal`, `Text.plain_natRepr`, `Text.plain_intRepr`, `Modifiers.plain_text`:
  literals, numbers and modifiers;
* **`Text.width_of_plain`**: the width of a plain text is its length.
-/

namespace PhpDecl

namespace Text

/-- A printable character of ASCII. -/
def isPlain (c : Char) : Bool := 0x20 ≤ c.toNat && c.toNat ≤ 0x7E

/-- Text made of printable characters of ASCII. -/
def Plain (s : String) : Prop := ∀ c ∈ s.toList, isPlain c = true

instance (s : String) : Decidable (Plain s) :=
  List.decidableBAll (fun c => isPlain c = true) s.toList

/-! ## Putting texts together -/

theorem Plain.append {a b : String} (ha : Plain a) (hb : Plain b) : Plain (a ++ b) := by
  intro c hc
  rw [String.toList_append, List.mem_append] at hc
  exact hc.elim (ha c) (hb c)

theorem Plain.join {parts : List String} (h : ∀ s ∈ parts, Plain s) :
    Plain (String.join parts) := by
  induction parts with
  | nil => decide
  | cons a rest ih =>
    rw [String.join_cons]
    exact (h a List.mem_cons_self).append (ih fun s hs => h s (List.mem_cons_of_mem a hs))

/-! ## Literals, numbers and modifiers -/

theorem isPlain_of_mem_literalBody {cs : List Char} (h : ∀ c ∈ cs, isPlain c = true) :
    ∀ c ∈ literalBody cs, isPlain c = true := by
  induction cs with
  | nil => exact fun _ hc => nomatch hc
  | cons a cs ih =>
    rw [List.forall_mem_cons] at h
    rw [literalBody]
    split_ifs
    · exact List.forall_mem_cons.mpr ⟨rfl, List.forall_mem_cons.mpr ⟨h.1, ih h.2⟩⟩
    · exact List.forall_mem_cons.mpr ⟨h.1, ih h.2⟩

theorem plain_literal {s : String} (h : Plain s) : Plain (literal s) := by
  intro c hc
  rw [literal, String.toList_ofList, List.cons_append, List.mem_cons, List.mem_append,
    List.mem_singleton] at hc
  rcases hc with rfl | hc | rfl
  · rfl
  · exact isPlain_of_mem_literalBody h c hc
  · rfl

theorem isPlain_of_isDigit {c : Char} (h : c.isDigit = true) : isPlain c = true := by
  simp only [Char.isDigit, ge_iff_le, Bool.and_eq_true, decide_eq_true_eq,
    UInt32.le_iff_toNat_le] at h
  change 48 ≤ c.toNat ∧ c.toNat ≤ 57 at h
  simp only [isPlain, Bool.and_eq_true, decide_eq_true_eq]
  omega

theorem plain_natRepr (n : Nat) : Plain n.repr := by
  intro c hc
  rw [Nat.toList_repr] at hc
  exact isPlain_of_isDigit (Nat.isDigit_of_mem_toDigits (by decide) (by decide) hc)

theorem plain_intRepr (n : Int) : Plain n.repr := by
  cases n with
  | ofNat m => exact plain_natRepr m
  | negSucc m => exact Plain.append (by decide) (plain_natRepr m.succ)

end Text

theorem Modifier.plain_keyword (m : Modifier) : Text.Plain m.keyword := by
  cases m <;> decide

theorem Modifiers.plain_text (s : Modifiers) : Text.Plain s.text := by
  refine Text.Plain.join fun w hw => ?_
  obtain ⟨m, _, rfl⟩ := List.mem_map.mp hw
  exact m.plain_keyword.append (by decide)

/-! ## Width -/

namespace Text

theorem charWidth_of_isPlain {c : Char} (h : isPlain c = true) : charWidth c = 1 := by
  simp only [isPlain, Bool.and_eq_true, decide_eq_true_eq] at h
  have h1 : ¬ c.toNat < 0x20 := by omega
  have h2 : ((0x7F ≤ c.toNat && c.toNat ≤ 0x9F) || c.toNat == 0xAD) = false := by
    simp only [Bool.or_eq_false_iff, Bool.and_eq_false_iff, decide_eq_false_iff_not,
      beq_eq_false_iff_ne]
    omega
  have h3 : c.toNat < 0x300 := by omega
  simp [charWidth, h1, h2, h3]

theorem classOf_of_isPlain {c : Char} (h : isPlain c = true) : classOf c = .other := by
  have h' := h
  simp only [isPlain, Bool.and_eq_true, decide_eq_true_eq] at h'
  have h1 : c.toNat ≠ 0xD := by omega
  have h2 : c.toNat ≠ 0xA := by omega
  simp only [isPlain] at h
  simp [classOf, h1, h2, h]

/-- Every plain character after a plain one is a cluster of its own. -/
theorem clustersFrom_of_isPlain {x : Context} (hx : x.last = .other) (c : Char) {cs : List Char}
    (h : ∀ c ∈ cs, isPlain c = true) :
    clustersFrom x [c] cs = (c :: cs).map fun c => [c] := by
  induction cs generalizing x c with
  | nil => rfl
  | cons a cs ih =>
    have ha : classOf a = .other := classOf_of_isPlain (h a List.mem_cons_self)
    have hb : x.breaksBefore .other = true := by
      simp [Context.breaksBefore, hx]
    rw [clustersFrom, ha, if_pos hb, ih rfl a fun c hc => h c (List.mem_cons_of_mem a hc)]
    rfl

theorem charsWidth_of_isPlain {cs : List Char} (h : ∀ c ∈ cs, isPlain c = true) :
    charsWidth cs = cs.length := by
  cases cs with
  | nil => rfl
  | cons a cs =>
    have hc : clusters (a :: cs) = (a :: cs).map fun c => [c] := by
      refine clustersFrom_of_isPlain ?_ a fun c hc => h c (List.mem_cons_of_mem a hc)
      exact classOf_of_isPlain (h a List.mem_cons_self)
    rw [charsWidth, hc, List.foldr_map]
    generalize a :: cs = l at h
    induction l with
    | nil => rfl
    | cons b l ih =>
      have hb : clusterWidth [b] = 1 := by
        simp [clusterWidth, charWidth_of_isPlain (h b List.mem_cons_self)]
      rw [List.foldr_cons, ih fun c hc => h c (List.mem_cons_of_mem b hc), hb, List.length_cons]
      omega

theorem newline_not_mem_of_plain {s : String} (h : Plain s) : '\n' ∉ s.toList :=
  fun hc => nomatch h '\n' hc

/-- **A plain text takes a column for each character.** -/
theorem width_of_plain {s : String} (h : Plain s) : width s = s.toList.length :=
  charsWidth_of_isPlain h

end Text

end PhpDecl
