import PhpDecl.Proofs.Tokens

/-!
# Phrases and how they are read

A printed expression has no parentheses of its own. It reads from left to right as a phrase: an
atom, followed by a tail of fetches and calls that may end with an assignment, whose value is a
phrase again. Whatever can follow a phrase in a text tells where the phrase ends, so a text is read
as a phrase in at most one way.

* `Phrase`, `Atom`, `Tail`, `ListEntry`: phrases, and the entries of their lists;
* `Phrase.chars` and its companions: their texts;
* `stops`, `ends`, `Follows`: what can follow a phrase, an entry and an atom;
* `Opening`, `Atom.exists_chars_cons`: the first character tells the kind of an atom;
* **`Phrase.read_unique`**: two phrases with the same text, up to what follows, are the same.
-/

namespace PhpDecl

/-! ## Phrases -/

mutual

/-- An expression as it is read: an atom and what follows it. -/
inductive Phrase where
  | mk (head : Atom) (tail : Tail)

/-- The start of an expression. -/
inductive Atom where
  | var (name : Identifier)
  | string (value : String)
  | integer (value : Int)
  | constant (name : Identifier)
  | call (name : Identifier) (args : List ListEntry)
  | array (items : List ListEntry)

/-- What follows an atom. -/
inductive Tail where
  | done
  | fetch (name : Identifier) (rest : Tail)
  | method (name : Identifier) (args : List ListEntry) (rest : Tail)
  | assign (value : Phrase)

/-- An entry of a list between parentheses or brackets. -/
inductive ListEntry where
  | plain (value : Phrase)
  | unpacked (value : Phrase)
  | keyed (key value : Phrase)

end

mutual

/-- The text of a phrase. -/
def Phrase.chars : Phrase → List Char
  | .mk head tail => head.chars ++ tail.chars

/-- The text of an atom. -/
def Atom.chars : Atom → List Char
  | .var name => '$' :: name.chars
  | .string value => '\'' :: (Text.literalBody value.toList ++ ['\''])
  | .integer value => value.repr.toList
  | .constant name => name.chars
  | .call name args => name.chars ++ '(' :: (ListEntry.listChars args ++ [')'])
  | .array items => '[' :: (ListEntry.listChars items ++ [']'])

/-- The text of a tail. -/
def Tail.chars : Tail → List Char
  | .done => []
  | .fetch name rest => '-' :: '>' :: (name.chars ++ rest.chars)
  | .method name args rest =>
    '-' :: '>' :: (name.chars ++ '(' :: (ListEntry.listChars args ++ ')' :: rest.chars))
  | .assign value => ' ' :: '=' :: ' ' :: value.chars

/-- The text of an entry. -/
def ListEntry.chars : ListEntry → List Char
  | .plain value => value.chars
  | .unpacked value => '.' :: '.' :: '.' :: value.chars
  | .keyed key value => key.chars ++ ' ' :: '=' :: '>' :: ' ' :: value.chars

/-- The text of entries. -/
def ListEntry.listChars : List ListEntry → List Char
  | [] => []
  | e :: rest => e.chars ++ ListEntry.moreChars rest

/-- The text of entries after another one. -/
def ListEntry.moreChars : List ListEntry → List Char
  | [] => []
  | e :: rest => ',' :: ' ' :: (e.chars ++ ListEntry.moreChars rest)

end

/-! ## What can follow -/

/-- The text can follow an entry of a list. -/
def ends : List Char → Bool
  | [] => false
  | c :: _ => c = ',' || c = ')' || c = ']'

/-- The text can follow a phrase. -/
def stops (r : List Char) : Bool := r.isEmpty || ends r || [' ', '=', '>'].isPrefixOf r

theorem stops_of_ends {r : List Char} (h : ends r = true) : stops r = true := by
  rw [stops, h, Bool.or_true]
  rfl

/-- The text can follow an atom: it neither goes on with a name or a number, nor makes it a call. -/
structure Follows (r : List Char) : Prop where
  breaks : Breaks r
  head_ne : r.head? ≠ some '('

theorem Follows.of_cons {c : Char} (rest : List Char) (h : isNameChar c = false ∧ c ≠ '(') :
    Follows (c :: rest) := by
  refine ⟨breaks_cons h.1 rest, ?_⟩
  rw [List.head?_cons, ne_eq, Option.some.injEq]
  exact h.2

theorem Follows.of_stops {r : List Char} (h : stops r = true) : Follows r := by
  cases r with
  | nil => exact ⟨nofun, nofun⟩
  | cons c rest =>
    have hc : c = ',' ∨ c = ')' ∨ c = ']' ∨ c = ' ' := by
      simp only [stops, ends, List.isEmpty_cons, List.isPrefixOf, Bool.false_or, Bool.or_eq_true,
        Bool.and_eq_true, decide_eq_true_eq, beq_iff_eq] at h
      rcases h with ((h | h) | h) | ⟨h, -⟩
      · exact .inl h
      · exact .inr (.inl h)
      · exact .inr (.inr (.inl h))
      · exact .inr (.inr (.inr h.symm))
    apply Follows.of_cons
    rcases hc with rfl | rfl | rfl | rfl <;> decide

/-- A tail followed by what can follow a phrase can follow an atom. -/
theorem Tail.follows {r : List Char} (h : stops r = true) : ∀ t : Tail, Follows (t.chars ++ r)
  | .done => by
    rw [Tail.chars]
    exact .of_stops h
  | .fetch _ _ => by
    rw [Tail.chars]
    exact .of_cons _ (by decide)
  | .method _ _ _ => by
    rw [Tail.chars]
    exact .of_cons _ (by decide)
  | .assign _ => by
    rw [Tail.chars]
    exact .of_cons _ (by decide)

theorem ListEntry.ends_moreChars {r : List Char} (h : ends r = true) : ∀ es : List ListEntry,
    ends (ListEntry.moreChars es ++ r) = true
  | [] => by
    rw [ListEntry.moreChars]
    exact h
  | _ :: _ => by
    rw [ListEntry.moreChars]
    rfl

/-! ## First characters -/

/-- The kinds of atoms that the first character tells apart. -/
inductive Opening where
  | sigil | quote | bracket | name | number | other
  deriving DecidableEq

/-- What a text can start that begins with the character. -/
def Opening.ofChar (c : Char) : Opening :=
  if c = '$' then .sigil
  else if c = '\'' then .quote
  else if c = '[' then .bracket
  else if isNameStart c then .name
  else if c.isDigit || c = '-' then .number
  else .other

/-- The kind of an atom. A constant starts like a call. -/
def Atom.opening : Atom → Opening
  | .var _ => .sigil
  | .string _ => .quote
  | .integer _ => .number
  | .constant _ => .name
  | .call _ _ => .name
  | .array _ => .bracket

theorem Opening.ofChar_of_isNameStart {c : Char} (h : isNameStart c = true) : ofChar c = .name := by
  have hne : ∀ a : Char, isNameStart a = false → c ≠ a := by
    rintro a ha rfl
    rw [h] at ha
    cases ha
  rw [ofChar, if_neg (hne '$' (by decide)), if_neg (hne '\'' (by decide)),
    if_neg (hne '[' (by decide)), if_pos h]

theorem Opening.ofChar_of_number {c : Char} (h : (c.isDigit || c = '-') = true) :
    ofChar c = .number := by
  have hne : ∀ a : Char, (a.isDigit || a = '-') = false → c ≠ a := by
    rintro a ha rfl
    rw [h] at ha
    cases ha
  have hname : isNameStart c = false := by
    rw [Bool.or_eq_true, decide_eq_true_eq] at h
    rcases h with h | rfl
    · rw [Bool.eq_false_iff]
      intro hstart
      change ((decide (c.val ≥ 'A'.val ∧ c.val ≤ 'Z'.val) ||
        (decide (c.val ≥ 'a'.val) && decide (c.val ≤ 'z'.val))) || decide (c = '_')) = true at hstart
      simp only [Char.isDigit, ge_iff_le, UInt32.le_iff_toNat_le, Bool.or_eq_true,
        Bool.and_eq_true, decide_eq_true_eq] at h hstart
      change 48 ≤ c.val.toNat ∧ c.val.toNat ≤ 57 at h
      change ((65 ≤ c.val.toNat ∧ c.val.toNat ≤ 90) ∨ (97 ≤ c.val.toNat ∧ c.val.toNat ≤ 122)) ∨
        c = '_' at hstart
      rcases hstart with (hstart | hstart) | rfl
      · omega
      · omega
      · exact absurd h (by decide)
    · decide
  rw [ofChar, if_neg (hne '$' (by decide)), if_neg (hne '\'' (by decide)),
    if_neg (hne '[' (by decide)), hname, if_neg (by decide), if_pos h]

/-- **The first character tells the kind of an atom.** -/
theorem Atom.exists_chars_cons : ∀ a : Atom,
    ∃ c cs, a.chars = c :: cs ∧ Opening.ofChar c = a.opening
  | .var name => ⟨'$', name.chars, by rw [Atom.chars], rfl⟩
  | .string value => ⟨'\'', _, by rw [Atom.chars], rfl⟩
  | .integer value => by
    obtain ⟨c, cs, hc, hnumber⟩ := exists_intRepr_cons value
    exact ⟨c, cs, by rw [Atom.chars, hc], Opening.ofChar_of_number hnumber⟩
  | .constant name => by
    obtain ⟨c, cs, hc, hstart, -⟩ := name.exists_chars_cons
    exact ⟨c, cs, by rw [Atom.chars, hc], Opening.ofChar_of_isNameStart hstart⟩
  | .call name args => by
    obtain ⟨c, cs, hc, hstart, -⟩ := name.exists_chars_cons
    exact ⟨c, _, by rw [Atom.chars, hc, List.cons_append], Opening.ofChar_of_isNameStart hstart⟩
  | .array items => ⟨'[', _, by rw [Atom.chars], rfl⟩

/-- Atoms with the same text, up to what follows, are of one kind. -/
theorem Atom.opening_eq {a b : Atom} {xs ys : List Char} (h : a.chars ++ xs = b.chars ++ ys) :
    a.opening = b.opening := by
  obtain ⟨c, cs, hc, ha⟩ := a.exists_chars_cons
  obtain ⟨c', cs', hc', hb⟩ := b.exists_chars_cons
  rw [hc, hc'] at h
  obtain ⟨rfl, -⟩ := List.cons.inj h
  exact ha.symm.trans hb

/-- A phrase does not start with a character that starts no atom. -/
theorem Phrase.chars_ne_cons {c : Char} (h : Opening.ofChar c = .other) : ∀ (p : Phrase)
    (xs ys : List Char), p.chars ++ xs ≠ c :: ys
  | .mk head tail, xs, ys, heq => by
    obtain ⟨a, cs, ha, hopening⟩ := head.exists_chars_cons
    rw [Phrase.chars, ha] at heq
    obtain ⟨rfl, -⟩ := List.cons.inj heq
    rw [h] at hopening
    cases head <;> cases hopening

/-- An entry does not start with what ends a list. -/
theorem ListEntry.chars_ne_cons {c : Char} (h : Opening.ofChar c = .other) (hdot : c ≠ '.') :
    ∀ (e : ListEntry) (xs ys : List Char), e.chars ++ xs ≠ c :: ys
  | .plain value, xs, ys => by
    rw [ListEntry.chars]
    exact value.chars_ne_cons h xs ys
  | .unpacked value, xs, ys => by
    rw [ListEntry.chars]
    intro heq
    exact hdot (List.cons.inj heq).1.symm
  | .keyed key value, xs, ys => by
    rw [ListEntry.chars, List.append_assoc]
    exact key.chars_ne_cons h _ ys

theorem breaks_paren {rest : List Char} : Breaks ('(' :: rest) := breaks_cons (by decide) rest

theorem ends_of_closes {c : Char} (h : c = ')' ∨ c = ']') (rest : List Char) :
    ends (c :: rest) = true := by
  rcases h with rfl | rfl <;> rfl

theorem ofChar_of_closes {c : Char} (h : c = ')' ∨ c = ']') : Opening.ofChar c = .other := by
  rcases h with rfl | rfl <;> rfl

theorem ne_dot_of_closes {c : Char} (h : c = ')' ∨ c = ']') : c ≠ '.' := by
  rcases h with rfl | rfl <;> decide

/-! ## Reading -/

mutual

/-- **A text is read as a phrase in at most one way.** -/
theorem Phrase.read_unique : ∀ (p q : Phrase) {r s : List Char}, stops r = true → stops s = true →
    p.chars ++ r = q.chars ++ s → p = q ∧ r = s
  | .mk head tail, .mk head' tail', r, s, hr, hs, h => by
    rw [Phrase.chars, Phrase.chars, List.append_assoc, List.append_assoc] at h
    obtain ⟨rfl, ht⟩ := Atom.read_unique head head' (tail.follows hr) (tail'.follows hs) h
    obtain ⟨rfl, rfl⟩ := Tail.read_unique tail tail' hr hs ht
    exact ⟨rfl, rfl⟩
termination_by structural x => x

theorem Atom.read_unique : ∀ (a b : Atom) {r s : List Char}, Follows r → Follows s →
    a.chars ++ r = b.chars ++ s → a = b ∧ r = s
  | .var n, b, r, s, hr, hs, h => by
    have hkind := Atom.opening_eq h
    cases b with
    | var m =>
      rw [Atom.chars, Atom.chars] at h
      obtain ⟨rfl, rfl⟩ := Identifier.append_inj hr.breaks hs.breaks (List.cons.inj h).2
      exact ⟨rfl, rfl⟩
    | _ => cases hkind
  | .string v, b, r, s, _, _, h => by
    have hkind := Atom.opening_eq h
    cases b with
    | string w =>
      rw [Atom.chars, Atom.chars, List.cons_append, List.cons_append, List.append_assoc,
        List.append_assoc] at h
      obtain ⟨hv, rfl⟩ := Text.literalBody_append_inj (List.cons.inj h).2
      rw [String.toList_inj.mp hv]
      exact ⟨rfl, rfl⟩
    | _ => cases hkind
  | .integer n, b, r, s, hr, hs, h => by
    have hkind := Atom.opening_eq h
    cases b with
    | integer m =>
      rw [Atom.chars, Atom.chars] at h
      obtain ⟨rfl, rfl⟩ := intRepr_append_inj hr.breaks hs.breaks h
      exact ⟨rfl, rfl⟩
    | _ => cases hkind
  | .constant n, b, r, s, hr, hs, h => by
    have hkind := Atom.opening_eq h
    cases b with
    | constant m =>
      rw [Atom.chars, Atom.chars] at h
      obtain ⟨rfl, rfl⟩ := Identifier.append_inj hr.breaks hs.breaks h
      exact ⟨rfl, rfl⟩
    | call m args =>
      rw [Atom.chars, Atom.chars, List.append_assoc, List.cons_append] at h
      obtain ⟨-, hopen⟩ := Identifier.append_inj hr.breaks breaks_paren h
      exact absurd (by rw [hopen]; rfl) hr.head_ne
    | _ => cases hkind
  | .call n args, b, r, s, hr, hs, h => by
    have hkind := Atom.opening_eq h
    cases b with
    | constant m =>
      rw [Atom.chars, Atom.chars, List.append_assoc, List.cons_append] at h
      obtain ⟨-, hopen⟩ := Identifier.append_inj breaks_paren hs.breaks h
      exact absurd (by rw [← hopen]; rfl) hs.head_ne
    | call m args' =>
      rw [Atom.chars, Atom.chars, List.append_assoc, List.append_assoc, List.cons_append,
        List.cons_append, List.append_assoc, List.append_assoc] at h
      obtain ⟨rfl, hopen⟩ := Identifier.append_inj breaks_paren breaks_paren h
      obtain ⟨rfl, hclose⟩ :=
        ListEntry.listRead_unique args args' (.inl rfl) (.inl rfl) (List.cons.inj hopen).2
      exact ⟨rfl, (List.cons.inj hclose).2⟩
    | _ => cases hkind
  | .array items, b, r, s, hr, hs, h => by
    have hkind := Atom.opening_eq h
    cases b with
    | array items' =>
      rw [Atom.chars, Atom.chars, List.cons_append, List.cons_append, List.append_assoc,
        List.append_assoc] at h
      obtain ⟨rfl, hclose⟩ :=
        ListEntry.listRead_unique items items' (.inr rfl) (.inr rfl) (List.cons.inj h).2
      exact ⟨rfl, (List.cons.inj hclose).2⟩
    | _ => cases hkind
termination_by structural x => x

theorem Tail.read_unique : ∀ (t u : Tail) {r s : List Char}, stops r = true → stops s = true →
    t.chars ++ r = u.chars ++ s → t = u ∧ r = s
  | .done, u, r, s, hr, hs, h => by
    rw [Tail.chars, List.nil_append] at h
    subst h
    cases u with
    | done => exact ⟨rfl, by rw [Tail.chars, List.nil_append]⟩
    | fetch m u =>
      rw [Tail.chars] at hr
      cases hr
    | method m args u =>
      rw [Tail.chars] at hr
      cases hr
    | assign q =>
      rw [Tail.chars] at hr
      cases hr
  | .fetch n t, u, r, s, hr, hs, h => by
    rw [Tail.chars] at h
    cases u with
    | done =>
      rw [Tail.chars, List.nil_append] at h
      subst h
      cases hs
    | fetch m u =>
      rw [Tail.chars] at h
      simp only [List.cons_append, List.append_assoc, List.cons.injEq, true_and] at h
      obtain ⟨rfl, ht⟩ := Identifier.append_inj (t.follows hr).breaks (u.follows hs).breaks h
      obtain ⟨rfl, rfl⟩ := Tail.read_unique t u hr hs ht
      exact ⟨rfl, rfl⟩
    | method m args u =>
      rw [Tail.chars] at h
      simp only [List.cons_append, List.append_assoc, List.cons.injEq, true_and] at h
      obtain ⟨-, hopen⟩ := Identifier.append_inj (t.follows hr).breaks breaks_paren h
      exact absurd (by rw [hopen]; rfl) (t.follows hr).head_ne
    | assign q =>
      rw [Tail.chars] at h
      cases (List.cons.inj h).1
  | .method n args t, u, r, s, hr, hs, h => by
    rw [Tail.chars] at h
    cases u with
    | done =>
      rw [Tail.chars, List.nil_append] at h
      subst h
      cases hs
    | fetch m u =>
      rw [Tail.chars] at h
      simp only [List.cons_append, List.append_assoc, List.cons.injEq, true_and] at h
      obtain ⟨-, hopen⟩ := Identifier.append_inj breaks_paren (u.follows hs).breaks h
      exact absurd (by rw [← hopen]; rfl) (u.follows hs).head_ne
    | method m args' u =>
      rw [Tail.chars] at h
      simp only [List.cons_append, List.append_assoc, List.cons.injEq, true_and] at h
      obtain ⟨rfl, hopen⟩ := Identifier.append_inj breaks_paren breaks_paren h
      obtain ⟨rfl, hclose⟩ :=
        ListEntry.listRead_unique args args' (.inl rfl) (.inl rfl) (List.cons.inj hopen).2
      obtain ⟨rfl, rfl⟩ := Tail.read_unique t u hr hs (List.cons.inj hclose).2
      exact ⟨rfl, rfl⟩
    | assign q =>
      rw [Tail.chars] at h
      cases (List.cons.inj h).1
  | .assign p, u, r, s, hr, hs, h => by
    rw [Tail.chars] at h
    cases u with
    | done =>
      rw [Tail.chars, List.nil_append] at h
      subst h
      cases hs
    | fetch m u =>
      rw [Tail.chars] at h
      cases (List.cons.inj h).1
    | method m args u =>
      rw [Tail.chars] at h
      cases (List.cons.inj h).1
    | assign q =>
      rw [Tail.chars] at h
      simp only [List.cons_append, List.cons.injEq, true_and] at h
      obtain ⟨rfl, rfl⟩ := Phrase.read_unique p q hr hs h
      exact ⟨rfl, rfl⟩
termination_by structural x => x

theorem ListEntry.read_unique : ∀ (e f : ListEntry) {r s : List Char}, ends r = true →
    ends s = true → e.chars ++ r = f.chars ++ s → e = f ∧ r = s
  | .plain p, f, r, s, hr, hs, h => by
    rw [ListEntry.chars] at h
    cases f with
    | plain q =>
      rw [ListEntry.chars] at h
      obtain ⟨rfl, rfl⟩ := Phrase.read_unique p q (stops_of_ends hr) (stops_of_ends hs) h
      exact ⟨rfl, rfl⟩
    | unpacked q =>
      rw [ListEntry.chars] at h
      exact absurd h (p.chars_ne_cons (by decide) _ _)
    | keyed l w =>
      rw [ListEntry.chars, List.append_assoc] at h
      obtain ⟨-, rfl⟩ := Phrase.read_unique p l (stops_of_ends hr) rfl h
      cases hr
  | .unpacked p, f, r, s, hr, hs, h => by
    rw [ListEntry.chars] at h
    cases f with
    | plain q =>
      rw [ListEntry.chars] at h
      exact absurd h.symm (q.chars_ne_cons (by decide) _ _)
    | unpacked q =>
      rw [ListEntry.chars] at h
      simp only [List.cons_append, List.cons.injEq, true_and] at h
      obtain ⟨rfl, rfl⟩ := Phrase.read_unique p q (stops_of_ends hr) (stops_of_ends hs) h
      exact ⟨rfl, rfl⟩
    | keyed l w =>
      rw [ListEntry.chars, List.append_assoc] at h
      exact absurd h.symm (l.chars_ne_cons (by decide) _ _)
  | .keyed k v, f, r, s, hr, hs, h => by
    rw [ListEntry.chars, List.append_assoc] at h
    cases f with
    | plain q =>
      rw [ListEntry.chars] at h
      obtain ⟨-, rfl⟩ := Phrase.read_unique k q rfl (stops_of_ends hs) h
      cases hs
    | unpacked q =>
      rw [ListEntry.chars] at h
      exact absurd h (k.chars_ne_cons (by decide) _ _)
    | keyed l w =>
      rw [ListEntry.chars, List.append_assoc] at h
      obtain ⟨rfl, harrow⟩ := Phrase.read_unique k l rfl rfl h
      simp only [List.cons_append, List.cons.injEq, true_and] at harrow
      obtain ⟨rfl, rfl⟩ := Phrase.read_unique v w (stops_of_ends hr) (stops_of_ends hs) harrow
      exact ⟨rfl, rfl⟩
termination_by structural x => x

theorem ListEntry.listRead_unique : ∀ (es fs : List ListEntry) {c d : Char} {r s : List Char},
    c = ')' ∨ c = ']' → d = ')' ∨ d = ']' →
    ListEntry.listChars es ++ c :: r = ListEntry.listChars fs ++ d :: s → es = fs ∧ c :: r = d :: s
  | [], fs, c, d, r, s, hc, hd, h => by
    rw [ListEntry.listChars, List.nil_append] at h
    cases fs with
    | nil =>
      rw [ListEntry.listChars, List.nil_append] at h
      exact ⟨rfl, h⟩
    | cons f fs =>
      rw [ListEntry.listChars, List.append_assoc] at h
      exact absurd h.symm (f.chars_ne_cons (ofChar_of_closes hc) (ne_dot_of_closes hc) _ _)
  | e :: es, fs, c, d, r, s, hc, hd, h => by
    rw [ListEntry.listChars, List.append_assoc] at h
    cases fs with
    | nil =>
      rw [ListEntry.listChars, List.nil_append] at h
      exact absurd h (e.chars_ne_cons (ofChar_of_closes hd) (ne_dot_of_closes hd) _ _)
    | cons f fs =>
      rw [ListEntry.listChars, List.append_assoc] at h
      have hes := ListEntry.ends_moreChars (ends_of_closes hc r) es
      have hfs := ListEntry.ends_moreChars (ends_of_closes hd s) fs
      obtain ⟨rfl, hmore⟩ := ListEntry.read_unique e f hes hfs h
      obtain ⟨rfl, hclose⟩ := ListEntry.moreRead_unique es fs hc hd hmore
      exact ⟨rfl, hclose⟩
termination_by structural x => x

theorem ListEntry.moreRead_unique : ∀ (es fs : List ListEntry) {c d : Char} {r s : List Char},
    c = ')' ∨ c = ']' → d = ')' ∨ d = ']' →
    ListEntry.moreChars es ++ c :: r = ListEntry.moreChars fs ++ d :: s → es = fs ∧ c :: r = d :: s
  | [], fs, c, d, r, s, hc, hd, h => by
    rw [ListEntry.moreChars, List.nil_append] at h
    cases fs with
    | nil =>
      rw [ListEntry.moreChars, List.nil_append] at h
      exact ⟨rfl, h⟩
    | cons f fs =>
      rw [ListEntry.moreChars] at h
      obtain ⟨rfl, -⟩ := List.cons.inj h
      exact absurd hc (by decide)
  | e :: es, fs, c, d, r, s, hc, hd, h => by
    rw [ListEntry.moreChars] at h
    cases fs with
    | nil =>
      rw [ListEntry.moreChars, List.nil_append] at h
      obtain ⟨rfl, -⟩ := List.cons.inj h
      exact absurd hd (by decide)
    | cons f fs =>
      rw [ListEntry.moreChars] at h
      simp only [List.cons_append, List.append_assoc, List.cons.injEq, true_and] at h
      have hes := ListEntry.ends_moreChars (ends_of_closes hc r) es
      have hfs := ListEntry.ends_moreChars (ends_of_closes hd s) fs
      obtain ⟨rfl, hmore⟩ := ListEntry.read_unique e f hes hfs h
      obtain ⟨rfl, hclose⟩ := ListEntry.moreRead_unique es fs hc hd hmore
      exact ⟨rfl, hclose⟩
termination_by structural x => x

end

end PhpDecl
