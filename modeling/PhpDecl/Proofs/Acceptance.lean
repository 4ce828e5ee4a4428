import PhpDecl.Proofs.Unprintable

/-!
# Which documents are accepted

Building a class stops at the first fault of its document. What counts as a fault is said here part
by part, without the builders: how many alternatives a value sets, which alternative of a statement
comes first, and what each kind of member needs.

* `Document.knownModifiers`, `Document.Value.count`: words and values;
* `Document.Statement.valid`, `Document.Parameter.valid`, `Document.Member.valid`,
  `Document.Class.valid`, `Document.valid`: the grammar of documents;
* `toBool_buildModifiers`, `toBool_toExpr`, `toBool_statement`, `toBool_member`,
  **`toBool_toClass`**: each builder succeeds exactly on the valid part;
* **`Document.toClass_ok_iff_valid`**: a document is accepted exactly if it is valid, and otherwise
  refused as an invalid document.
-/

namespace PhpDecl

/-! ## The grammar -/

namespace Document

/-- Every word is the keyword of a modifier. -/
def knownModifiers (words : List String) : Bool :=
  words.all fun w => Modifier.all.any fun m => m.keyword == w

/-- How many alternatives a value sets. -/
def Value.count (v : Value) : Nat :=
  [v.string.isSome, v.int.isSome, v.const != "", v.var != "", v.property != ""].count true

/-- An assignment has a target, and a value that sets exactly one alternative. -/
def Assignment.valid (a : Assignment) : Bool :=
  (a.property != "" || a.var != "") && a.value.count == 1

/-- The alternatives of a statement in the order in which they are looked at: those that are set,
each with its validity. -/
def Statement.verdicts (s : Statement) : List (Option Bool) :=
  [s.ret.map fun v => v.count ≤ 1,
    s.assign.map Assignment.valid,
    if s.call = "" then none else some (s.args.all fun v => v.count == 1),
    if s.var = "" then none else some true,
    if s.nop || !s.comments.isEmpty then some true else none]

/-- The first alternative that the statement sets is valid. -/
def Statement.valid (s : Statement) : Bool := (s.verdicts.findSome? id).getD false

/-- A parameter has a name, known modifiers, and a default that sets at most one alternative. -/
def Parameter.valid (p : Parameter) : Bool :=
  p.name != "" && knownModifiers p.modifiers && p.default.all fun v => v.count ≤ 1

/-- A method has a name and valid parameters. It is abstract and has no body, or it is not abstract
and has a valid body. -/
def Member.validMethod (m : Member) : Bool :=
  m.name != "" && m.params.all Parameter.valid &&
    ((m.modifiers.contains "abstract" && m.body.isEmpty) ||
      (!m.modifiers.contains "abstract" && m.body.all Statement.valid))

/-- A member has known modifiers and what its kind needs. -/
def Member.valid (m : Member) : Bool :=
  knownModifiers m.modifiers &&
    ((m.kind == "method" && m.validMethod) ||
      (m.kind == "property" && m.name != "" && m.value.all fun v => v.count ≤ 1) ||
      (m.kind == "const" && m.name != "" && m.value.any fun v => v.count == 1) ||
      (m.kind == "use" && !m.traits.isEmpty) ||
      m.kind == "nop")

/-- A class has a name, known modifiers and valid members. -/
def Class.valid (c : Class) : Bool :=
  c.name != "" && knownModifiers c.modifiers && c.members.all Member.valid

/-- There is a class, and it is valid. -/
def valid (d : Document) : Bool := d.content.any Class.valid

end Document

open Document

/-! ## Steps -/

section Steps

variable {α β : Type}

/-- Two steps succeed if both do, where the success of the second is known whenever the first
succeeds. -/
theorem toBool_build_bind {x : Except DocumentError α} {f : α → Except DocumentError β} {b : Bool}
    (hf : ∀ a, x = .ok a → (f a).toBool = b) : (x >>= f).toBool = (x.toBool && b) := by
  cases x with
  | error e => rfl
  | ok a => exact hf a rfl

theorem toBool_build_pure (x : Except DocumentError α) (f : α → β) :
    (x >>= fun a => pure (f a)).toBool = x.toBool := by
  cases x <;> rfl

theorem toBool_inMethod (name : String) (x : Except DocumentError α) :
    (inMethod name x).toBool = x.toBool := by
  cases x <;> rfl

theorem toBool_buildEach {f : α → Except DocumentError β} {p : α → Bool}
    (hf : ∀ a, (f a).toBool = p a) (xs : List α) : (buildEach f xs).toBool = xs.all p := by
  induction xs with
  | nil => rfl
  | cons x xs ih =>
    rw [buildEach, List.all_cons, ← ih, ← hf x]
    exact toBool_build_bind fun _ _ => toBool_build_pure _ _

end Steps

/-! ## Words and values -/

theorem toBool_buildModifiers_go (words : List String) (s : Modifiers) :
    (buildModifiers.go s words).toBool = knownModifiers words := by
  induction words generalizing s with
  | nil => rfl
  | cons w words ih =>
    rw [buildModifiers.go, knownModifiers, List.all_cons, ← Modifier.toBool_parse]
    cases h : Modifier.parse w with
    | error fault => rfl
    | ok m => exact ih (s.insert m)

/-- **Modifiers are built from known words.** -/
theorem toBool_buildModifiers (words : List String) :
    (buildModifiers words).toBool = knownModifiers words :=
  toBool_buildModifiers_go words .empty

theorem length_alternatives (v : Value) : v.alternatives.length = v.count := by
  simp only [Value.alternatives, Value.count, List.length_append, List.count_cons, List.count_nil]
  cases v.string <;> cases v.int <;> by_cases hc : v.const = "" <;> by_cases hv : v.var = "" <;>
    by_cases hp : v.property = "" <;> simp [hc, hv, hp]

/-- **A value has an expression if it sets at most one alternative.** -/
theorem toBool_toExpr (v : Value) : v.toExpr.toBool = decide (v.count ≤ 1) := by
  rw [← length_alternatives, Value.toExpr]
  split
  · rename_i h
    rw [h]
    rfl
  · rename_i h
    rw [h]
    rfl
  · rename_i h₀ h₁
    cases h : v.alternatives with
    | nil => exact absurd h h₀
    | cons e rest =>
      cases rest with
      | nil => exact absurd h (h₁ e)
      | cons _ _ => simp [Except.toBool]

theorem toBool_optionalExpr (v : Option Value) :
    (optionalExpr v).toBool = v.all fun v => v.count ≤ 1 := by
  cases v with
  | none => rfl
  | some v => exact toBool_toExpr v

/-- A value that has to set something sets exactly one alternative. -/
theorem toBool_toExprOr (v : Value) (missing : DocumentError) :
    (v.toExprOr missing).toBool = (v.count == 1) := by
  rw [← length_alternatives, Value.toExprOr, Value.toExpr]
  cases v.alternatives with
  | nil => rfl
  | cons e rest =>
    cases rest with
    | nil => rfl
    | cons _ _ => simp [bind, Except.bind, Except.toBool]

/-! ## Statements -/

theorem toBool_target (a : Assignment) : a.target.toBool = (a.property != "" || a.var != "") := by
  rw [Assignment.target]
  by_cases hp : a.property = ""
  · by_cases hv : a.var = ""
    · simp [hp, hv, Except.toBool]
    · simp [hp, hv, Except.toBool]
  · simp [hp, Except.toBool]

theorem toBool_toArg (call : String) (v : Value) : (toArg call v).toBool = (v.count == 1) := by
  rw [toArg, toBool_build_pure, toBool_toExprOr]

/-- **A statement is built exactly if the first alternative it sets is valid.** -/
theorem toBool_statement (s : Statement) : s.toStmt.toBool = s.valid := by
  rw [Statement.toStmt, Statement.valid, Statement.verdicts]
  cases s.ret with
  | some v => exact (toBool_build_pure _ _).trans (toBool_toExpr v)
  | none =>
    cases s.assign with
    | some a =>
      refine (toBool_build_bind fun _ _ => toBool_build_pure _ _).trans ?_
      rw [toBool_target, toBool_toExprOr]
      rfl
    | none =>
      by_cases hc : s.call = ""
      · by_cases hv : s.var = ""
        · by_cases hn : (s.nop || !s.comments.isEmpty) = true
          · simp only [hc, hv, hn, ne_eq, not_true_eq_false, if_false, if_true]
            rfl
          · simp only [hc, hv, hn, ne_eq, not_true_eq_false, if_false, if_true]
            rfl
        · simp only [hc, hv, ne_eq, not_true_eq_false, not_false_eq_true, if_false, if_true]
          rfl
      · simp only [hc, ne_eq, not_false_eq_true, if_false, if_true]
        rw [toBool_build_pure, toBool_buildEach (toBool_toArg s.call)]
        rfl

/-! ## Members -/

theorem toBool_toParam (p : Parameter) : p.toParam.toBool = p.valid := by
  rw [Parameter.toParam, Parameter.valid]
  by_cases hn : p.name = ""
  · rw [if_pos hn, hn]
    rfl
  · rw [if_neg hn, toBool_build_bind fun _ _ => toBool_build_pure _ _, toBool_buildModifiers,
      toBool_optionalExpr, bne_iff_ne.mpr hn, Bool.true_and]

theorem has_of_buildModifiers_go {words : List String} {s flags : Modifiers}
    (h : buildModifiers.go s words = .ok flags) (m : Modifier) :
    flags.has m = (s.has m || words.contains m.keyword) := by
  induction words generalizing s with
  | nil =>
    cases h
    simp
  | cons w words ih =>
    rw [buildModifiers.go] at h
    cases hw : Modifier.parse w with
    | error fault =>
      rw [hw] at h
      cases h
    | ok n =>
      rw [hw] at h
      have hn : n.keyword = w := Modifier.keyword_of_parse hw
      have hm : (m.keyword == w) = (n == m) := by
        rw [← hn, Bool.eq_iff_iff, beq_iff_eq, beq_iff_eq]
        exact ⟨fun h => (Modifier.keyword_injective h).symm, fun h => by rw [h]⟩
      rw [ih h, Modifiers.has_insert, List.contains_cons, hm, Bool.or_assoc]

/-- The modifiers that are built are those whose keywords are given. -/
theorem has_of_buildModifiers {words : List String} {flags : Modifiers}
    (h : buildModifiers words = .ok flags) (m : Modifier) :
    flags.has m = words.contains m.keyword := by
  rw [has_of_buildModifiers_go h, Modifiers.has_empty, Bool.false_or]

/-- **A method is built exactly if it is valid**, from the modifiers that its words stand for. -/
theorem toBool_toMethod {m : Document.Member} {flags : Modifiers}
    (h : buildModifiers m.modifiers = .ok flags) : (m.toMethod flags).toBool = m.validMethod := by
  have habs : flags.has .abstract = m.modifiers.contains "abstract" :=
    has_of_buildModifiers h .abstract
  rw [Member.toMethod, Member.validMethod, ← habs]
  by_cases hn : m.name = ""
  · rw [if_pos hn, hn]
    rfl
  · have hparams : (inMethod m.name (buildEach Parameter.toParam m.params)).toBool =
        m.params.all Parameter.valid := by
      rw [toBool_inMethod, toBool_buildEach toBool_toParam]
    have hbody : (inMethod m.name (buildEach Statement.toStmt m.body)).toBool =
        m.body.all Statement.valid := by
      rw [toBool_inMethod, toBool_buildEach toBool_statement]
    rw [if_neg hn, bne_iff_ne.mpr hn, Bool.true_and, ← hparams, ← hbody]
    refine toBool_build_bind fun params _ => ?_
    cases flags.has .abstract with
    | true =>
      cases m.body with
      | nil => rfl
      | cons s rest => rfl
    | false => exact toBool_build_pure _ _

theorem toBool_toProperty (m : Document.Member) (flags : Modifiers) :
    (m.toProperty flags).toBool = (m.name != "" && m.value.all fun v => v.count ≤ 1) := by
  rw [Member.toProperty]
  by_cases hn : m.name = ""
  · rw [if_pos hn, hn]
    rfl
  · rw [if_neg hn, toBool_build_pure, toBool_optionalExpr, bne_iff_ne.mpr hn, Bool.true_and]

theorem toBool_toConstant (m : Document.Member) (flags : Modifiers) :
    (m.toConstant flags).toBool = (m.name != "" && m.value.any fun v => v.count == 1) := by
  rw [Member.toConstant]
  cases m.value with
  | none => exact (Bool.and_false _).symm
  | some v =>
    by_cases hn : m.name = ""
    · simp only [hn, if_true]
      rfl
    · simp only [hn, if_false]
      rw [toBool_build_pure, toBool_toExprOr, bne_iff_ne.mpr hn, Bool.true_and, Option.any_some]

/-- **A member is built exactly if it is valid.** -/
theorem toBool_member (m : Document.Member) : m.toStmt.toBool = m.valid := by
  rw [Member.toStmt, Member.valid, ← toBool_buildModifiers]
  refine toBool_build_bind fun flags hf => ?_
  split
  · rename_i hk
    rw [toBool_toMethod hf, hk]
    simp
  · rename_i hk
    rw [toBool_toProperty, hk]
    simp
  · rename_i hk
    rw [toBool_toConstant, hk]
    simp
  · rename_i hk
    rw [hk]
    cases m.traits with
    | nil => rfl
    | cons t rest => rfl
  · rename_i hk
    rw [hk]
    rfl
  · rename_i h₁ h₂ h₃ h₄ h₅
    rw [beq_false_of_ne h₁, beq_false_of_ne h₂, beq_false_of_ne h₃, beq_false_of_ne h₄,
      beq_false_of_ne h₅]
    rfl

/-! ## Classes -/

theorem toBool_buildMembers (className : String) (ms : List Document.Member) (index : Nat) :
    (buildMembers className index ms).toBool = ms.all Member.valid := by
  induction ms generalizing index with
  | nil => rfl
  | cons m ms ih =>
    rw [buildMembers, List.all_cons, ← toBool_member m]
    cases m.toStmt with
    | error cause => rfl
    | ok s => exact (toBool_build_pure _ _).trans (ih (index + 1))

/-- **A class is built exactly if its document is valid.** -/
theorem toBool_toClass (d : Document) : d.toClass.toBool = d.valid := by
  rw [Document.toClass, Document.valid]
  cases d.content with
  | none => rfl
  | some c =>
    change c.toClass.toBool = c.valid
    rw [Class.toClass, Class.valid]
    by_cases hn : c.name = ""
    · rw [if_pos hn, hn]
      rfl
    · rw [if_neg hn, toBool_build_bind fun _ _ => toBool_build_pure _ _, toBool_buildModifiers,
        toBool_buildMembers, bne_iff_ne.mpr hn, Bool.true_and]

/-! ## Refusals -/

theorem DocumentError.sentinel_eq (e : DocumentError) : e.sentinel = .invalidDocument := by
  induction e with
  | inMember _ _ cause ih => exact ih
  | inMethod _ cause ih => exact ih
  | _ => rfl

/-- Every fault of a document is reported under one heading. -/
theorem DocumentError.heading_isInfix_message (e : DocumentError) :
    DocumentError.heading.toList <:+: e.message.toList := by
  induction e with
  | inMember _ _ cause ih => exact isInfix_append_left ih _
  | inMethod _ cause ih => exact isInfix_append_left ih _
  | quoting word | unknownKey word | unknownKind word | emptyArgument word =>
    exact isInfix_append_right (isInfix_append_right List.infix_rfl _) _
  | abstractWithBody name | constWithEmptyValue name | severalAlternatives count =>
    exact isInfix_append_right
      (isInfix_append_right (isInfix_append_right List.infix_rfl _) _) _
  | _ => exact isInfix_append_right List.infix_rfl _

/-- **Documents are accepted by their grammar.** A class is built from a document exactly if the
document is valid. If it is not, the error is that of an invalid document and says so, and it is
never taken for a fault of a tree. -/
theorem Document.toClass_ok_iff_valid (d : Document) :
    ((∃ c, d.toClass = .ok c) ↔ d.valid = true) ∧
    ∀ e, d.toClass = .error e → e.sentinel = .invalidDocument ∧ e.sentinel ≠ .malformedTree ∧
      e.sentinel.text.toList <:+: e.message.toList := by
  constructor
  · rw [← toBool_toClass]
    cases d.toClass with
    | error e => exact ⟨nofun, nofun⟩
    | ok c => exact ⟨fun _ => rfl, fun _ => ⟨c, rfl⟩⟩
  · intro e _
    rw [e.sentinel_eq]
    exact ⟨rfl, nofun, e.heading_isInfix_message⟩

/-- A method with an unknown modifier, refused as a document although the same word is a fault of a
tree by itself; and a property with a value, which is accepted. -/
theorem Document.toClass_ok_iff_valid_unknown_modifier :
    (∃ e, Document.toClass { content := some { name := "C", members :=
        [{ kind := "method", name := "f", modifiers := ["virtual"] }] } } = .error e ∧
      e.sentinel = .invalidDocument ∧ e.sentinel ≠ .malformedTree) ∧
    (∃ fault, Modifier.parse "virtual" = .error fault ∧ fault.sentinel = .malformedTree) ∧
    ∃ c, Document.toClass { content := some { name := "C", members :=
        [{ kind := "property", name := "p", value := some { int := some 1 } }] } } = .ok c := by
  have hbad := Document.toClass_ok_iff_valid { content := some { name := "C", members :=
    [{ kind := "method", name := "f", modifiers := ["virtual"] }] } }
  have hgood := Document.toClass_ok_iff_valid { content := some { name := "C", members :=
    [{ kind := "property", name := "p", value := some { int := some 1 } }] } }
  refine ⟨⟨_, rfl, ?_⟩, ⟨_, rfl, rfl⟩, hgood.1.mpr (by decide)⟩
  obtain ⟨hs, hn, _⟩ := hbad.2 _ rfl
  exact ⟨hs, hn⟩

end PhpDecl
