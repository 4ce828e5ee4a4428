import PhpDecl.Proofs.Building
import PhpDecl.Proofs.TypeSource

/-!
# Which classes have a document

A describable class is one that a document can ask for: every part of it has a place in a document,
and everything that has no place there is left out. Each part is written back as the part of a
document that describes it, and building undoes the writing.

* `Modifiers.isNamed`, `TypeExpr.IsRead`, `AttrGroup.IsBare`, `Expr.IsValue`: the leaves;
* `Param.IsDescribable`, `Stmt.IsBodyStatement`, `Stmt.IsMember`, `ClassDecl.IsDescribable`: the
  shape of describable classes;
* `Expr.toValue`, `Param.toParameter`, `Stmt.toStatement`, `Stmt.toMember`, `ClassDecl.toDocument`:
  the writing, undone by **`toClass_toDocument`**;
* **`exists_toClass_iff`**: a class is built from some document exactly if it is describable.
-/

namespace PhpDecl

open Document

/-! ## The shape -/

/-- The set has no bit but those of the seven modifiers. -/
def Modifiers.isNamed (s : Modifiers) : Bool := s.bits &&& 0x80 == 0

/-- The type, or its absence, is what some text stands for. -/
def TypeExpr.IsRead (t : Option TypeExpr) : Prop := ∃ s, TypeExpr.ofText s = t

/-- The group is one attribute without arguments, and nothing in it has comments. -/
def AttrGroup.IsBare (g : AttrGroup) : Prop := ∃ name, g = { attrs := [{ name }] }

/-- The expressions that a value can stand for. -/
inductive Expr.IsValue : Expr → Prop
  | string (value : String) : IsValue (.string [] value)
  | integer (value : Int) : IsValue (.integer [] value)
  | constant {name : String} (h : name ≠ "") : IsValue (.constant [] name)
  | var (name : String) : IsValue (.variable [] name)
  | field {name : String} (h : name ≠ "") : IsValue (.fetch [] (some (.variable [] "this")) name)

/-- The parameters of describable methods. Their names and comments are free. -/
structure Param.IsDescribable (p : Param) : Prop where
  flags : p.flags.isNamed = true
  type : TypeExpr.IsRead p.type
  default : ∀ e ∈ p.default, e.IsValue
  attrs : ∀ g ∈ p.attrGroups, g.IsBare

/-- The statements of describable bodies. Their comments are free. -/
inductive Stmt.IsBodyStatement : Stmt → Prop
  | ret (cs : List Comment) {value : Option Expr} (h : ∀ e ∈ value, e.IsValue) :
    IsBodyStatement (.ret cs value)
  | assignVariable (cs : List Comment) (name : String) {value : Expr} (h : value.IsValue) :
    IsBodyStatement (.expression cs
      (some (.assign [] (some (.variable [] name)) (some value))))
  | assignField (cs : List Comment) {name : String} {value : Expr} (hn : name ≠ "")
    (h : value.IsValue) :
    IsBodyStatement (.expression cs
      (some (.assign [] (some (.fetch [] (some (.variable [] "this")) name)) (some value))))
  | call (cs : List Comment) {name : String} {args : List Arg} (hn : name ≠ "")
    (h : ∀ a ∈ args, ∃ e : Expr, e.IsValue ∧ a = .mk [] (some e) false) :
    IsBodyStatement (.expression cs (some (.call [] name args)))
  | var (cs : List Comment) (name : String) :
    IsBodyStatement (.expression cs (some (.variable [] name)))
  | nop (cs : List Comment) : IsBodyStatement (.nop cs)

/-- The members of describable classes. Their comments are free. A method has no body exactly if it
is abstract. -/
inductive Stmt.IsMember : Stmt → Prop
  | method {head : MethodHead} {body : Option (List (Option Stmt))} (name : head.name ≠ "")
    (flags : head.flags.isNamed = true) (params : ∀ p ∈ head.params, p.IsDescribable)
    (returns : TypeExpr.IsRead head.returns) (attrs : ∀ g ∈ head.attrGroups, g.IsBare)
    (absent : body = none ↔ head.flags.has .abstract = true)
    (stmts : ∀ b ∈ body, ∃ ss : List Stmt, b = ss.map some ∧ ∀ s ∈ ss, s.IsBodyStatement) :
    IsMember (.method head body)
  | property {decl : Property} {name : String} {default : Option Expr} (hn : name ≠ "")
    (items : decl.items = [{ name, default }]) (flags : decl.flags.isNamed = true)
    (type : TypeExpr.IsRead decl.type) (value : ∀ e ∈ default, e.IsValue)
    (attrs : ∀ g ∈ decl.attrGroups, g.IsBare) : IsMember (.property decl)
  | constants {decl : Constants} {name : String} {value : Expr} (hn : name ≠ "")
    (items : decl.items = [{ name, value := some value }]) (flags : decl.flags.isNamed = true)
    (value : value.IsValue) (attrs : ∀ g ∈ decl.attrGroups, g.IsBare) : IsMember (.constants decl)
  | traitUse {decl : TraitUse} (h : decl.traits ≠ []) : IsMember (.traitUse decl)
  | nop (cs : List Comment) : IsMember (.nop cs)

/-- Describable classes. -/
structure ClassDecl.IsDescribable (c : ClassDecl) : Prop where
  name : c.head.name ≠ ""
  flags : c.head.flags.isNamed = true
  attrs : ∀ g ∈ c.head.attrGroups, g.IsBare
  members : ∃ ss : List Stmt, c.members = ss.map some ∧ ∀ s ∈ ss, s.IsMember

/-! ## Words -/

/-- The keywords of a set of modifiers. -/
def Modifiers.words (s : Modifiers) : List String := s.toList.map Modifier.keyword

/-- The texts of comments. -/
def commentTexts (cs : List Comment) : List String := cs.map Comment.text

/-- The names of the first attributes of groups. -/
def attributeNames (gs : List AttrGroup) : List String :=
  gs.map fun g => (g.attrs.head?.map Attribute.name).getD ""

theorem isNamed_insert (s : Modifiers) (m : Modifier) : (s.insert m).isNamed = s.isNamed := by
  have h : (s.bits ||| m.bit) &&& 0x80 = s.bits &&& 0x80 ||| m.bit &&& 0x80 :=
    UInt8.toBitVec_inj.mp BitVec.and_or_distrib_right
  have hm : m.bit &&& 0x80 = 0 := by cases m <;> rfl
  rw [Modifiers.isNamed, Modifiers.insert, h, hm, UInt8.or_zero, Modifiers.isNamed]

theorem isNamed_of_buildModifiers_go {words : List String} {s flags : Modifiers}
    (h : buildModifiers.go s words = .ok flags) : flags.isNamed = s.isNamed := by
  induction words generalizing s with
  | nil =>
    cases h
    rfl
  | cons w words ih =>
    rw [buildModifiers.go] at h
    split at h
    · rw [ih h, isNamed_insert]
    · cases h

theorem isNamed_of_buildModifiers {words : List String} {flags : Modifiers}
    (h : buildModifiers words = .ok flags) : flags.isNamed = true :=
  isNamed_of_buildModifiers_go h

theorem buildModifiers_go_keywords (ms : List Modifier) (s : Modifiers) :
    buildModifiers.go s (ms.map Modifier.keyword) = .ok (ms.foldl Modifiers.insert s) := by
  induction ms generalizing s with
  | nil => rfl
  | cons m ms ih =>
    rw [List.map_cons, buildModifiers.go, Modifier.parse_keyword]
    exact ih (s.insert m)

/-- A set of named modifiers is the set of its members. -/
theorem ofList_toList {s : Modifiers} (h : s.isNamed = true) : Modifiers.ofList s.toList = s := by
  have hall : ∀ b : Fin 256, (Modifiers.mk (.ofFin b)).isNamed = true →
      Modifiers.ofList (Modifiers.mk (.ofFin b)).toList = ⟨.ofFin b⟩ := by decide +kernel
  exact hall s.bits.toFin h

theorem buildModifiers_words {s : Modifiers} (h : s.isNamed = true) :
    buildModifiers s.words = .ok s := by
  rw [buildModifiers, Modifiers.words, buildModifiers_go_keywords]
  exact congrArg Except.ok (ofList_toList h)

theorem withoutSigil_sigil (name : String) : withoutSigil ("$" ++ name) = name := by
  have h : ("$" ++ name).toList = '$' :: name.toList := by simp
  rw [withoutSigil, h]
  exact String.ofList_toList

theorem sigil_ne_empty (name : String) : "$" ++ name ≠ "" := by
  intro h
  have := congrArg String.toList h
  simp at this

theorem buildComments_commentTexts (cs : List Comment) : buildComments (commentTexts cs) = cs := by
  rw [buildComments, commentTexts, List.map_map]
  exact List.map_id cs

theorem isBare_of_mem_buildAttributes {names : List String} {g : AttrGroup}
    (h : g ∈ buildAttributes names) : g.IsBare := by
  obtain ⟨name, _, rfl⟩ := List.mem_map.mp h
  exact ⟨name, rfl⟩

theorem buildAttributes_attributeNames {gs : List AttrGroup} (h : ∀ g ∈ gs, g.IsBare) :
    buildAttributes (attributeNames gs) = gs := by
  rw [buildAttributes, attributeNames, List.map_map]
  refine List.map_congr_left (fun g hg => ?_) |>.trans (List.map_id gs)
  obtain ⟨name, rfl⟩ := h g hg
  rfl

theorem ofText_source_of_isRead {t : Option TypeExpr} (h : TypeExpr.IsRead t) :
    TypeExpr.ofText (TypeExpr.source t) = t := by
  obtain ⟨s, rfl⟩ := h
  exact TypeExpr.ofText_source s

/-! ## Values -/

/-- The value that stands for an expression. -/
def Expr.toValue : Expr → Value
  | .string _ value => { string := some value }
  | .integer _ value => { int := some value }
  | .constant _ name => { const := name }
  | .variable _ name => { var := "$" ++ name }
  | .fetch _ _ name => { property := name }
  | _ => {}

/-- The value of an argument. -/
def Arg.toValue : Arg → Value
  | .mk _ value _ => (value.map Expr.toValue).getD {}

theorem isValue_of_mem_alternatives {v : Value} {e : Expr} (h : e ∈ v.alternatives) :
    e.IsValue := by
  simp only [Value.alternatives, List.mem_append, Option.mem_toList,
    Option.map_eq_some_iff] at h
  rcases h with (((⟨s, _, rfl⟩ | ⟨n, _, rfl⟩) | h) | h) | h
  · exact .string s
  · exact .integer n
  · split_ifs at h with hc
    · exact nomatch h
    · rw [List.mem_singleton.mp h]
      exact .constant hc
  · split_ifs at h
    · exact nomatch h
    · rw [List.mem_singleton.mp h]
      exact .var _
  · split_ifs at h with hp
    · exact nomatch h
    · rw [List.mem_singleton.mp h]
      exact .field hp

theorem isValue_of_toExpr {v : Value} {e : Option Expr} (h : v.toExpr = .ok e) :
    ∀ x ∈ e, x.IsValue := by
  have hv := @isValue_of_mem_alternatives v
  rw [Value.toExpr] at h
  split at h
  · cases h
    exact nofun
  · rename_i x ha
    cases h
    rintro _ ⟨⟩
    exact hv (ha ▸ List.mem_singleton_self x)
  · exact nomatch h

theorem isValue_of_optionalExpr {v : Option Value} {e : Option Expr}
    (h : optionalExpr v = .ok e) : ∀ x ∈ e, x.IsValue := by
  cases v with
  | none =>
    cases h
    exact nofun
  | some v => exact isValue_of_toExpr h

theorem toExpr_toValue {e : Expr} (h : e.IsValue) : e.toValue.toExpr = .ok (some e) := by
  cases h with
  | string value => rfl
  | integer value => rfl
  | constant hn => simp [Expr.toValue, Value.toExpr, Value.alternatives, hn]
  | var name =>
    simp [Expr.toValue, Value.toExpr, Value.alternatives, withoutSigil_sigil]
  | field hn => simp [Expr.toValue, Value.toExpr, Value.alternatives, ownField, hn]

theorem optionalExpr_toValue {e : Option Expr} (h : ∀ x ∈ e, x.IsValue) :
    optionalExpr (e.map Expr.toValue) = .ok e := by
  cases e with
  | none => rfl
  | some e => exact toExpr_toValue (h e rfl)

/-! ## Lists -/

theorem buildEach_map {α β : Type} {f : α → Except DocumentError β} {g : β → α} {ys : List β}
    (h : ∀ y ∈ ys, f (g y) = .ok y) : buildEach f (ys.map g) = .ok ys := by
  induction ys with
  | nil => rfl
  | cons y ys ih =>
    rw [List.map_cons, buildEach, h y List.mem_cons_self,
      ih fun z hz => h z (List.mem_cons_of_mem y hz)]
    rfl

theorem forall_of_forall₂ {α β : Type} {R : α → β → Prop} {P : β → Prop} {xs : List α}
    {ys : List β} (h : List.Forall₂ R xs ys) (hR : ∀ x y, R x y → P y) : ∀ y ∈ ys, P y := by
  induction h with
  | nil => exact nofun
  | cons hxy _ ih => exact List.forall_mem_cons.mpr ⟨hR _ _ hxy, ih⟩

/-! ## Parameters -/

/-- The part of a document that describes a parameter. -/
def Param.toParameter (p : Param) : Parameter where
  name := "$" ++ p.name
  type := TypeExpr.source p.type
  modifiers := p.flags.words
  attributes := attributeNames p.attrGroups
  comments := commentTexts p.comments
  byRef := p.byRef
  variadic := p.variadic
  default := p.default.map Expr.toValue

theorem isDescribable_of_toParam {p : Parameter} {q : Param} (h : p.toParam = .ok q) :
    q.IsDescribable := by
  obtain ⟨_, flags, default, hf, hd, rfl⟩ := Parameter.toParam_eq_ok h
  exact {
    flags := isNamed_of_buildModifiers hf
    type := ⟨p.type, rfl⟩
    default := isValue_of_optionalExpr hd
    attrs := fun _ => isBare_of_mem_buildAttributes }

theorem toParam_toParameter {q : Param} (h : q.IsDescribable) :
    q.toParameter.toParam = .ok q := by
  have hn : q.toParameter.name ≠ "" := sigil_ne_empty q.name
  rw [Parameter.toParam, if_neg hn]
  simp only [Param.toParameter, buildModifiers_words h.flags, optionalExpr_toValue h.default,
    buildComments_commentTexts, withoutSigil_sigil, ofText_source_of_isRead h.type,
    buildAttributes_attributeNames h.attrs]
  rfl

/-! ## Statements -/

/-- The assignment to a variable or to a field. -/
def Expr.toAssignment (target value : Expr) : Assignment :=
  match target with
  | .variable _ name => { var := "$" ++ name, value := value.toValue }
  | .fetch _ _ name => { property := name, value := value.toValue }
  | _ => {}

/-- The part of a document that describes a statement of a body. -/
def Stmt.toStatement : Stmt → Statement
  | .ret cs value =>
    { comments := commentTexts cs, ret := some ((value.map Expr.toValue).getD {}) }
  | .expression cs (some (.assign _ (some target) (some value))) =>
    { comments := commentTexts cs, assign := some (target.toAssignment value) }
  | .expression cs (some (.call _ name args)) =>
    { comments := commentTexts cs, call := name, args := args.map Arg.toValue }
  | .expression cs (some (.variable _ name)) =>
    { comments := commentTexts cs, var := "$" ++ name }
  | s => { comments := commentTexts s.comments, nop := true }

theorem isBodyStatement_of_target {a : Assignment} {target value : Expr}
    (ht : a.target = .ok target) (hv : value.IsValue) (cs : List Comment) :
    (Stmt.expression cs (some (.assign [] (some target) (some value)))).IsBodyStatement := by
  rw [Assignment.target] at ht
  split_ifs at ht with hp hn
  · cases ht
    exact .assignField cs hp hv
  · cases ht
    exact .assignVariable cs _ hv

/-- **A statement that was built is one of a describable body.** -/
theorem isBodyStatement_of_toStmt {d : Statement} {s : Stmt} (h : d.toStmt = .ok s) :
    s.IsBodyStatement := by
  rcases Statement.toStmt_eq_ok h with ⟨v, e, _, he, rfl⟩ |
    ⟨_, a, target, value, _, ht, hv, rfl⟩ | ⟨_, _, hc, args, hargs, rfl⟩ | ⟨_, _, _, _, rfl⟩ |
    ⟨_, _, _, _, _, rfl⟩
  · exact .ret _ (isValue_of_toExpr he)
  · exact isBodyStatement_of_target ht (isValue_of_toExpr hv value rfl) _
  · refine .call _ hc (forall_of_forall₂ (forall₂_of_buildEach hargs) fun v a ha => ?_)
    obtain ⟨e, he, rfl⟩ := toArg_eq_ok ha
    exact ⟨e, isValue_of_toExpr he e rfl, rfl⟩
  · exact .var _ _
  · exact .nop _

theorem toArg_toValue {call : String} {e : Expr} (h : e.IsValue) :
    toArg call (Arg.mk [] (some e) false).toValue = .ok (.mk [] (some e) false) := by
  have hv : (Arg.mk [] (some e) false).toValue = e.toValue := rfl
  rw [toArg, hv, Value.toExprOr_eq_ok.mpr (toExpr_toValue h)]
  rfl

/-- **Building undoes the writing of a statement.** -/
theorem toStmt_toStatement {s : Stmt} (h : s.IsBodyStatement) : s.toStatement.toStmt = .ok s := by
  cases h with
  | ret cs h =>
    rename_i value
    cases value with
    | none => simp [Stmt.toStatement, Statement.toStmt, buildComments_commentTexts]; rfl
    | some e =>
      simp only [Stmt.toStatement, Statement.toStmt, Option.map_some, Option.getD_some,
        toExpr_toValue (h e rfl), buildComments_commentTexts]
      rfl
  | assignVariable cs name h =>
    simp only [Stmt.toStatement, Statement.toStmt, Expr.toAssignment, Assignment.target,
      sigil_ne_empty, withoutSigil_sigil, buildComments_commentTexts, ne_eq, not_true_eq_false,
      not_false_eq_true, if_false, if_true, Value.toExprOr_eq_ok.mpr (toExpr_toValue h)]
    rfl
  | assignField cs hn h =>
    simp only [Stmt.toStatement, Statement.toStmt, Expr.toAssignment, Assignment.target, hn,
      buildComments_commentTexts, ne_eq, not_false_eq_true, if_true,
      Value.toExprOr_eq_ok.mpr (toExpr_toValue h)]
    rfl
  | call cs hn h =>
    rename_i name args
    have hargs : buildEach (toArg name) (args.map Arg.toValue) = .ok args :=
      buildEach_map fun a ha => by
        obtain ⟨e, he, rfl⟩ := h a ha
        exact toArg_toValue he
    simp only [Stmt.toStatement, Statement.toStmt, ne_eq, hn, not_false_eq_true, if_true, hargs,
      buildComments_commentTexts]
    rfl
  | var cs name =>
    simp only [Stmt.toStatement, Statement.toStmt, ne_eq, not_true_eq_false, if_false,
      sigil_ne_empty, not_false_eq_true, if_true, withoutSigil_sigil, buildComments_commentTexts]
  | nop cs =>
    simp only [Stmt.toStatement, Statement.toStmt, Stmt.comments, buildComments_commentTexts]
    rfl

/-! ## Members -/

/-- The part of a document that describes a member. -/
def Stmt.toMember : Stmt → Document.Member
  | .method head body => {
      kind := "method"
      name := head.name
      modifiers := head.flags.words
      attributes := attributeNames head.attrGroups
      comments := commentTexts head.comments
      returns := TypeExpr.source head.returns
      byRef := head.byRef
      params := head.params.map Param.toParameter
      body := (body.getD []).filterMap (·.map Stmt.toStatement) }
  | .property decl => {
      kind := "property"
      name := (decl.items.head?.map PropertyItem.name).getD ""
      modifiers := decl.flags.words
      attributes := attributeNames decl.attrGroups
      comments := commentTexts decl.comments
      type := TypeExpr.source decl.type
      value := (decl.items.head?.bind PropertyItem.default).map Expr.toValue }
  | .constants decl => {
      kind := "const"
      name := (decl.items.head?.map ConstItem.name).getD ""
      modifiers := decl.flags.words
      attributes := attributeNames decl.attrGroups
      comments := commentTexts decl.comments
      value := (decl.items.head?.bind ConstItem.value).map Expr.toValue }
  | .traitUse decl =>
    { kind := "use", comments := commentTexts decl.comments, traits := decl.traits }
  | s => { kind := "nop", comments := commentTexts s.comments }

/-- **A member that was built is one of a describable class.** -/
theorem isMember_of_toStmt {m : Document.Member} {s : Stmt} (h : m.toStmt = .ok s) :
    s.IsMember := by
  obtain ⟨flags, hf, hkind⟩ := Member.toStmt_eq_ok h
  have hflags : flags.isNamed = true := isNamed_of_buildModifiers hf
  rcases hkind with ⟨_, h⟩ | ⟨_, h⟩ | ⟨_, h⟩ | ⟨_, ht, rfl⟩ | ⟨_, rfl⟩
  · obtain ⟨hn, params, body, hp, rfl, hbody⟩ := Member.toMethod_eq_ok h
    have hparams : ∀ q ∈ params, q.IsDescribable :=
      forall_of_forall₂ (forall₂_of_buildEach hp) fun _ _ => isDescribable_of_toParam
    refine .method hn hflags hparams ⟨m.returns, rfl⟩ (fun _ => isBare_of_mem_buildAttributes) ?_ ?_
    · rcases hbody with ⟨ha, _, rfl⟩ | ⟨ha, stmts, _, rfl⟩
      · exact iff_of_true rfl ha
      · exact iff_of_false nofun (by simp [ha])
    · rintro b hb
      rcases hbody with ⟨_, _, rfl⟩ | ⟨_, stmts, hs, rfl⟩
      · cases hb
      · cases hb
        exact ⟨stmts, rfl, forall_of_forall₂ (forall₂_of_buildEach hs)
          fun _ _ => isBodyStatement_of_toStmt⟩
  · obtain ⟨hn, default, hd, rfl⟩ := Member.toProperty_eq_ok h
    exact .property hn rfl hflags ⟨m.type, rfl⟩ (isValue_of_optionalExpr hd)
      fun _ => isBare_of_mem_buildAttributes
  · obtain ⟨hn, v, e, _, he, rfl⟩ := Member.toConstant_eq_ok h
    exact .constants hn rfl hflags (isValue_of_toExpr he e rfl)
      fun _ => isBare_of_mem_buildAttributes
  · exact .traitUse ht
  · exact .nop _

theorem filterMap_map_some {α β : Type} (f : α → β) (xs : List α) :
    (xs.map some).filterMap (·.map f) = xs.map f := by
  rw [List.filterMap_map, ← List.filterMap_eq_map]
  rfl

/-- Building undoes the writing of a method, with or without a body. -/
theorem toMethod_toMember {head : MethodHead} {body : Option (List (Option Stmt))}
    (name : head.name ≠ "") (params : ∀ p ∈ head.params, p.IsDescribable)
    (returns : TypeExpr.IsRead head.returns) (attrs : ∀ g ∈ head.attrGroups, g.IsBare)
    (absent : body = none ↔ head.flags.has .abstract = true)
    (stmts : ∀ b ∈ body, ∃ ss : List Stmt, b = ss.map some ∧ ∀ s ∈ ss, s.IsBodyStatement) :
    (Stmt.method head body).toMember.toMethod head.flags = .ok (.method head body) := by
  have hparams : buildEach Parameter.toParam (head.params.map Param.toParameter) =
      .ok head.params := buildEach_map fun q hq => toParam_toParameter (params q hq)
  have hn : (Stmt.method head body).toMember.name ≠ "" := name
  rw [Member.toMethod, if_neg hn]
  simp only [Stmt.toMember, hparams, ofText_source_of_isRead returns,
    buildAttributes_attributeNames attrs, buildComments_commentTexts]
  cases body with
  | none =>
    rw [absent.mp rfl]
    rfl
  | some b =>
    obtain ⟨ss, rfl, hs⟩ := stmts b rfl
    have habs : head.flags.has .abstract = false :=
      Bool.eq_false_iff.mpr fun h => Option.some_ne_none _ (absent.mpr h)
    have hbody : buildEach Statement.toStmt (ss.map Stmt.toStatement) = .ok ss :=
      buildEach_map fun s h => toStmt_toStatement (hs s h)
    rw [habs, Option.getD_some, filterMap_map_some, hbody]
    rfl

theorem toProperty_toMember {decl : Property} {name : String} {default : Option Expr}
    (hn : name ≠ "") (items : decl.items = [{ name, default }]) (type : TypeExpr.IsRead decl.type)
    (value : ∀ e ∈ default, e.IsValue) (attrs : ∀ g ∈ decl.attrGroups, g.IsBare) :
    (Stmt.property decl).toMember.toProperty decl.flags = .ok (.property decl) := by
  have hname : (Stmt.property decl).toMember.name = name := by simp [Stmt.toMember, items]
  have hvalue : (Stmt.property decl).toMember.value = default.map Expr.toValue := by
    simp [Stmt.toMember, items]
  rw [Member.toProperty, hname, hvalue, if_neg hn, optionalExpr_toValue value]
  simp only [Stmt.toMember, ofText_source_of_isRead type, buildAttributes_attributeNames attrs,
    buildComments_commentTexts]
  exact congrArg (fun items => Except.ok (Stmt.property { decl with items })) items.symm

theorem toConstant_toMember {decl : Constants} {name : String} {value : Expr} (hn : name ≠ "")
    (items : decl.items = [{ name, value := some value }]) (hv : value.IsValue)
    (attrs : ∀ g ∈ decl.attrGroups, g.IsBare) :
    (Stmt.constants decl).toMember.toConstant decl.flags = .ok (.constants decl) := by
  have hname : (Stmt.constants decl).toMember.name = name := by simp [Stmt.toMember, items]
  have hvalue : (Stmt.constants decl).toMember.value = some value.toValue := by
    simp [Stmt.toMember, items]
  rw [Member.toConstant, hname, hvalue]
  simp only [if_neg hn, Value.toExprOr_eq_ok.mpr (toExpr_toValue hv), Stmt.toMember,
    buildAttributes_attributeNames attrs, buildComments_commentTexts]
  exact congrArg (fun items => Except.ok (Stmt.constants { decl with items })) items.symm

/-- **Building undoes the writing of a member.** -/
theorem toStmt_toMember {s : Stmt} (h : s.IsMember) : s.toMember.toStmt = .ok s := by
  rw [Member.toStmt]
  cases h with
  | method name flags params returns attrs absent stmts =>
    have hm := toMethod_toMember name params returns attrs absent stmts
    simp only [Stmt.toMember] at hm ⊢
    rw [buildModifiers_words flags]
    exact hm
  | property hn items flags type value attrs =>
    have hp := toProperty_toMember hn items type value attrs
    simp only [Stmt.toMember] at hp ⊢
    rw [buildModifiers_words flags]
    exact hp
  | constants hn items flags value attrs =>
    have hc := toConstant_toMember hn items value attrs
    simp only [Stmt.toMember] at hc ⊢
    rw [buildModifiers_words flags]
    exact hc
  | @traitUse decl h =>
    have ht : decl.traits.isEmpty = false := by simpa using h
    simp only [Stmt.toMember, ht, buildComments_commentTexts]
    rfl
  | nop cs =>
    simp only [Stmt.toMember, Stmt.comments, buildComments_commentTexts]
    rfl

/-! ## Classes -/

/-- The document that describes a class. -/
def ClassDecl.toDocument (c : ClassDecl) : Document where
  content := some {
    name := c.head.name
    modifiers := c.head.flags.words
    parent := c.head.parent
    implements := c.head.implements
    attributes := attributeNames c.head.attrGroups
    comments := commentTexts c.head.comments
    members := c.members.filterMap (·.map Stmt.toMember) }

theorem buildMembers_map {className : String} {ss : List Stmt} (h : ∀ s ∈ ss, s.IsMember)
    (index : Nat) : buildMembers className index (ss.map Stmt.toMember) = .ok ss := by
  induction ss generalizing index with
  | nil => rfl
  | cons s ss ih =>
    rw [List.map_cons, buildMembers, toStmt_toMember (h s List.mem_cons_self)]
    simp only [ih (fun t ht => h t (List.mem_cons_of_mem s ht)) (index + 1)]
    rfl

/-- **Building undoes the writing of a class.** -/
theorem toClass_toDocument {c : ClassDecl} (h : c.IsDescribable) :
    c.toDocument.toClass = .ok c := by
  obtain ⟨ss, hm, hs⟩ := h.members
  have hmembers : buildMembers c.head.name 0 (c.members.filterMap (·.map Stmt.toMember)) =
      .ok ss := by
    rw [hm, filterMap_map_some]
    exact buildMembers_map hs 0
  simp only [ClassDecl.toDocument, Document.toClass, Class.toClass, if_neg h.name,
    buildModifiers_words h.flags, hmembers, buildAttributes_attributeNames h.attrs,
    buildComments_commentTexts]
  exact congrArg (fun members => Except.ok { c with members }) hm.symm

theorem isDescribable_of_toClass {d : Document} {c : ClassDecl} (h : d.toClass = .ok c) :
    c.IsDescribable := by
  obtain ⟨content, flags, ss, _, hn, hf, hm, rfl⟩ := toClass_eq_ok h
  exact {
    name := hn
    flags := isNamed_of_buildModifiers hf
    attrs := fun _ => isBare_of_mem_buildAttributes
    members := ⟨ss, rfl, forall_of_forall₂ hm fun _ _ => isMember_of_toStmt⟩ }

/-- **Documents describe exactly one sort of classes.** A class is built from some document exactly
if it is describable. -/
theorem exists_toClass_iff (c : ClassDecl) :
    (∃ d : Document, d.toClass = .ok c) ↔ c.IsDescribable := by
  constructor
  · rintro ⟨d, h⟩
    exact isDescribable_of_toClass h
  · exact fun h => ⟨c.toDocument, toClass_toDocument h⟩

end PhpDecl
