import PhpDecl.Proofs.Verdict

/-!
# Null pointers

What is handed over as a list is read element by element up to the first one that stops it. That
one is either at fault, which is reported, or a null pointer, which panics. So whether a list
panics depends on its elements alone.

* `Traced.panic?`, `panic?_bind`: how a rendering panics, step by step;
* `stopsAt`: the first element that does not pass is broken;
* `Node.breaksSearch`, `Node.breaksLine`, `Node.breaksLines`: lists that are searched for a comment,
  written on one line, and written one element per line;
* `readable_nodeItems_iff`: elements of which none is a null pointer;
* **`panic?_nodeText`**, **`panic?_paramList`**, **`panic?_body`**: elements, lists and bodies, in
  any style at any depth.
-/

namespace PhpDecl

open Traced

/-! ## Panics -/

/-- The panic of a rendering. A fault of the tree is none. -/
def Traced.panic? {α : Type} (x : Traced α) : Option Failure :=
  match x.result with
  | .ok _ => none
  | .error (.malformed _) => none
  | .error panic => some panic

/-- The panic of reading through a null pointer, if that is done. -/
def nullPanic (reads : Bool) : Option Failure := if reads then some .nullPointer else none

theorem nullPanic_injective : Function.Injective nullPanic := by
  intro p b h
  cases p <;> cases b <;> first | rfl | cases h

section Panics

variable {α β : Type} {x : Traced α}

theorem panic?_congr {y : Traced α} (h : x.result = y.result) : x.panic? = y.panic? := by
  unfold panic?
  rw [h]

theorem panic?_of_succeeds (h : x.succeeds = true) : x.panic? = nullPanic false := by
  obtain ⟨a, ha⟩ := succeeds_iff.mp h
  unfold panic?
  rw [ha]
  rfl

theorem panic?_of_null (h : x.result = .error .nullPointer) : x.panic? = nullPanic true := by
  unfold panic?
  rw [h]
  rfl

theorem panic?_of_alike {R : α → β → Prop} {y : Traced β} (h : Alike R x y) :
    x.panic? = nullPanic false := by
  unfold panic?
  cases hx : x.result with
  | ok a => rfl
  | error e =>
    obtain ⟨c, rfl⟩ := h.exists_malformed hx
    rfl

theorem panic?_bind_ok {a : α} (h : x.result = .ok a) (f : α → Traced β) :
    (x >>= f).panic? = (f a).panic? := by
  unfold panic?
  rw [result_bind_ok h]

/-- **Two steps panic if the first does, or if it has a value and the second does.** -/
theorem panic?_bind {f : α → Traced β} {p b : Bool} (hx : x.panic? = nullPanic p)
    (hf : ∀ a, (f a).panic? = nullPanic b) :
    (x >>= f).panic? = nullPanic (p || x.succeeds && b) := by
  cases hr : x.result with
  | ok a =>
    have hs : x.succeeds = true := succeeds_iff.mpr ⟨a, hr⟩
    have hp : p = false := nullPanic_injective (hx.symm.trans (panic?_of_succeeds hs))
    rw [panic?_bind_ok hr, hf a, hs, hp, Bool.true_and, Bool.false_or]
  | error e =>
    have hs : x.succeeds = false := congrArg Except.toBool hr
    rw [hs, Bool.false_and, Bool.or_false, ← hx, panic?, panic?, result_bind_error hr, hr]
    cases e <;> rfl

theorem panic?_bind_pure {p : Bool} (hx : x.panic? = nullPanic p) (f : α → β) :
    (x >>= fun a => pure (f a)).panic? = nullPanic p := by
  rw [panic?_bind (b := false) hx fun _ => rfl, Bool.and_false, Bool.or_false]

end Panics

/-! ## The first element that does not pass -/

section StopsAt

variable {α : Type} {broken passes : α → Bool}

/-- The first element that does not pass, if there is one, is broken. -/
def stopsAt (broken passes : α → Bool) (xs : List α) : Bool :=
  (xs.find? fun x => !passes x).any broken

theorem stopsAt_cons {x : α} (h : broken x = true → passes x = false) (xs : List α) :
    stopsAt broken passes (x :: xs) = (broken x || passes x && stopsAt broken passes xs) := by
  rw [stopsAt, List.find?_cons, stopsAt]
  cases hp : passes x with
  | false => rw [Bool.false_and, Bool.or_false]; rfl
  | true =>
    have hb : broken x = false := by
      rw [hp] at h
      exact Bool.eq_false_iff.mpr fun hb => nomatch h hb
    rw [hb, Bool.true_and, Bool.false_or]
    rfl

theorem stopsAt_eq_false {xs : List α} (h : ∀ x ∈ xs, broken x = false) :
    stopsAt broken passes xs = false := by
  rw [stopsAt]
  cases hf : xs.find? fun x => !passes x with
  | none => rfl
  | some x => exact h x (List.mem_of_find?_eq_some hf)

end StopsAt

/-! ## Elements -/

namespace Node

/-- The element is a null pointer. -/
def isNull : Option Node → Bool
  | some (.null _) => true
  | _ => false

/-- There is a text: the element is well formed, or a null pointer to a statement without code. -/
def hasText : Option Node → Bool
  | some (.null (.stmt .nop)) => true
  | n => present n

/-- The element has a comment. -/
def commented : Option Node → Bool
  | some n => n.comments.any fun cs => !cs.isEmpty
  | none => false

/-- The search for a comment meets a null pointer before it finds one. -/
def breaksSearch : List (Option Node) → Bool :=
  stopsAt isNull fun n => !isNull n && !commented n

/-- On one line, the first element without a text is a null pointer that is read. -/
def breaksLine : List (Option Node) → Bool := stopsAt isBroken hasText

/-- One per line, the first element that is not well formed is a null pointer. -/
def breaksLines : List (Option Node) → Bool := stopsAt isNull present

theorem present_of_isNull {n : Option Node} (h : isNull n = true) : present n = false := by
  unfold isNull at h
  split at h
  · rfl
  · cases h

theorem breaksLines_cons (n : Option Node) (rest : List (Option Node)) :
    breaksLines (n :: rest) = (isNull n || present n && breaksLines rest) :=
  stopsAt_cons present_of_isNull rest

theorem breaksSearch_cons (n : Option Node) (rest : List (Option Node)) :
    breaksSearch (n :: rest) = (isNull n || (!isNull n && !commented n) && breaksSearch rest) :=
  stopsAt_cons (fun h => by rw [h]; rfl) rest

theorem hasText_of_isBroken {n : Option Node} (h : isBroken n = true) : hasText n = false := by
  obtain ⟨t, rfl, _, hnop, _⟩ := isBroken_iff.mp h
  unfold hasText
  split
  · rename_i heq
    cases heq
    exact absurd rfl hnop
  · rfl

theorem breaksLine_cons (n : Option Node) (rest : List (Option Node)) :
    breaksLine (n :: rest) = (isBroken n || hasText n && breaksLine rest) :=
  stopsAt_cons hasText_of_isBroken rest

theorem hasText_iff {n : Option Node} :
    hasText n = true ↔ present n = true ∨ n = some (.null (.stmt .nop)) := by
  unfold hasText
  split
  · simp
  · simp_all

theorem isBroken_of_not_isNull {n : Option Node} (h : isNull n = false) :
    isBroken n = false := by
  refine Bool.eq_false_iff.mpr fun hb => ?_
  obtain ⟨t, rfl, _⟩ := isBroken_iff.mp hb
  cases h

theorem hasText_of_not_isNull {n : Option Node} (h : isNull n = false) :
    hasText n = present n := by
  unfold hasText
  split
  · cases h
  · rfl

theorem comments_eq_none_iff {n : Node} : n.comments = none ↔ isNull (some n) = true := by
  cases n <;> simp [comments, isNull]

theorem not_isNull_of_comments {n : Node} {cs : List Comment} (h : n.comments = some cs) :
    isNull (some n) = false := by
  refine Bool.eq_false_iff.mpr fun hnull => ?_
  rw [comments_eq_none_iff.mpr hnull] at h
  cases h

end Node

section Elements

variable (style : Style) (n : Option Node) (d : Nat)

/-- **An element panics if it is a null pointer that is read.** -/
theorem panic?_nodeText : (nodeText style n d).panic? = nullPanic (Node.isBroken n) := by
  cases hb : Node.isBroken n with
  | true => exact panic?_of_null (result_of_isBroken hb style d)
  | false => exact panic?_of_alike (nodeText_agrees hb style style d d)

theorem succeeds_nodeText_style : (nodeText style n d).succeeds = Node.hasText n := by
  rw [Bool.eq_iff_iff, succeeds_iff, exists_text_iff, Node.hasText_iff]

/-- An element on a line of its own, followed by the rest of a list. -/
theorem panic?_element {n : Node} (hn : Node.isNull (some n) = false) {α : Type} {b : Bool}
    {f : String → String → Traced α}
    (hf : ∀ text, (f text (lineBreak d)).panic? = nullPanic b) :
    (n.render style d >>= fun text => newline d >>= f text).panic? =
      nullPanic (Node.isNull (some n) || Node.present (some n) && b) := by
  rw [hn, ← Node.hasText_of_not_isNull hn, ← succeeds_nodeText_style style (some n) d]
  refine panic?_bind ?_ fun text => ?_
  · exact (panic?_nodeText style (some n) d).trans
      (congrArg nullPanic (Node.isBroken_of_not_isNull hn))
  · rw [newline_natCast]
    exact hf text

theorem itemText_map : itemText (n.map fun n => ⟨n.comments, n.render style⟩) d =
    nodeText style n d := by
  cases n <;> rfl

end Elements

/-! ## Lists -/

section Lists

variable (style : Style) (nodes : List (Option Node)) (d : Nat)

/-- Elements can be read if none of them is a null pointer. -/
theorem readable_nodeItems_iff :
    Readable (nodeItems style nodes) ↔ ∀ n ∈ nodes, Node.isNull n = false := by
  constructor
  · intro h n hn
    refine Bool.eq_false_iff.mpr fun hnull => ?_
    unfold Node.isNull at hnull
    split at hnull
    · exact h ⟨none, _⟩ (List.mem_map.mpr ⟨_, hn, rfl⟩) rfl
    · cases hnull
  · intro h i hi hc
    obtain ⟨n, hn, he⟩ := List.mem_map.mp hi
    cases n with
    | none => cases he
    | some n =>
      cases he
      cases n with
      | null t => cases h _ hn
      | _ => cases hc

theorem panic?_askComments :
    (askComments (nodeItems style nodes)).panic? = nullPanic (Node.breaksSearch nodes) := by
  induction nodes with
  | nil => rfl
  | cons n nodes ih =>
    rw [Node.breaksSearch_cons]
    cases n with
    | none => exact ih
    | some n =>
      change (readComments n.comments >>= fun cs =>
        if cs.isEmpty then askComments (nodeItems style nodes) else pure true).panic? = _
      cases hc : n.comments with
      | none =>
        rw [Node.comments_eq_none_iff.mp hc]
        rfl
      | some cs =>
        rw [readComments_some_bind, Node.not_isNull_of_comments hc, Node.commented, hc,
          Option.any_some]
        cases cs with
        | nil => simpa using ih
        | cons c cs => rfl

theorem panic?_commaSeparated :
    (commaSeparated (nodeItems style nodes) d).panic? = nullPanic (Node.breaksLine nodes) := by
  refine panic?_bind_pure ?_ _
  induction nodes with
  | nil => rfl
  | cons n nodes ih =>
    rw [Node.breaksLine_cons, ← succeeds_nodeText_style style n d, ← itemText_map]
    refine panic?_bind ?_ fun s => panic?_bind_pure ih _
    rw [itemText_map, panic?_nodeText]

theorem panic?_itemLines (trailing : Bool) :
    (itemLines trailing (nodeItems style nodes) d).panic? =
      nullPanic (Node.breaksLines nodes) := by
  induction nodes with
  | nil => rfl
  | cons n nodes ih =>
    rw [Node.breaksLines_cons]
    cases n with
    | none => rfl
    | some n =>
      change (itemLines trailing (some ⟨n.comments, n.render style⟩ :: nodeItems style nodes)
        d).panic? = _
      rw [itemLines]
      cases hc : n.comments with
      | none =>
        rw [Node.comments_eq_none_iff.mp hc]
        rfl
      | some cs =>
        rw [readComments_some_bind, panic?_bind_ok (result_leadingComments cs d)]
        exact panic?_element style d (Node.not_isNull_of_comments hc) fun _ =>
          panic?_bind_pure ih _

theorem panic?_multilineBlock (trailing : Bool) :
    (multilineBlock (nodeItems style nodes) trailing d).panic? =
      nullPanic (Node.breaksLines nodes) := by
  rw [multilineBlock, newline_natCast]
  exact panic?_bind_pure (panic?_itemLines style nodes (d + 1) trailing) _

/-- A list in which no comment was found. -/
theorem panic?_commaSeparated_of_asked
    (hask : (askComments (nodeItems style nodes)).result = .ok false) :
    (commaSeparated (nodeItems style nodes) d).panic? = nullPanic (Node.breaksLines nodes) := by
  -- the search has read every element, so that none of them is a null pointer
  have hnull := (readable_nodeItems_iff style nodes).mp (readable_of_asked hask)
  have hline : Node.breaksLine nodes = false :=
    stopsAt_eq_false fun n hn => Node.isBroken_of_not_isNull (hnull n hn)
  have hlines : Node.breaksLines nodes = false := stopsAt_eq_false hnull
  rw [panic?_commaSeparated, hline, hlines]

/-- A list in a layout that suits its comments. -/
theorem panic?_written {layout : Layout}
    (hask : (askComments (nodeItems style nodes)).result =
      .ok (hasComments (nodeItems style nodes)))
    (hc : hasComments (nodeItems style nodes) = true → layout = .multiLine) :
    (written layout (nodeItems style nodes) d).panic? = nullPanic (Node.breaksLines nodes) := by
  cases layout with
  | multiLine => exact panic?_multilineBlock style nodes d true
  | singleLine =>
    have hfalse : hasComments (nodeItems style nodes) = false :=
      Bool.eq_false_iff.mpr fun h => nomatch hc h
    exact panic?_commaSeparated_of_asked style nodes d (hfalse ▸ hask)

/-- A list that is searched for a comment and then written. -/
theorem panic?_searched {β : Type} {x : Traced β}
    (herror : ∀ e, (askComments (nodeItems style nodes)).result = .error e →
      x.result = .error e)
    (hok : (askComments (nodeItems style nodes)).result =
        .ok (hasComments (nodeItems style nodes)) →
      x.panic? = nullPanic (Node.breaksLines nodes)) :
    x.panic? = nullPanic (Node.breaksSearch nodes || Node.breaksLines nodes) := by
  have hsearch := panic?_askComments style nodes
  rcases result_askComments (nodeItems style nodes) with hask | ⟨he, _⟩
  · rw [panic?_of_succeeds (succeeds_iff.mpr ⟨_, hask⟩)] at hsearch
    rw [hok hask, ← nullPanic_injective hsearch, Bool.false_or]
  · rw [panic?_of_null he] at hsearch
    rw [panic?_of_null (herror _ he), ← nullPanic_injective hsearch, Bool.true_or]

theorem panic?_maybeMultiline (trailing : Bool) :
    (maybeMultiline (nodeItems style nodes) trailing d).panic? =
      nullPanic (Node.breaksSearch nodes || Node.breaksLines nodes) := by
  refine panic?_searched style nodes (fun e he => result_bind_error he _) fun hask => ?_
  rw [maybeMultiline, panic?_bind_ok hask]
  cases hc : hasComments (nodeItems style nodes) with
  | true => exact panic?_multilineBlock style nodes d trailing
  | false => exact panic?_commaSeparated_of_asked style nodes d (hc ▸ hask)

theorem panic?_decideLayout (column : Int) :
    (decideLayout (nodeItems style nodes) column d).panic? =
      nullPanic (Node.breaksSearch nodes || Node.breaksLines nodes) := by
  refine panic?_searched style nodes (fun e he => result_decideLayout_of_error he column d)
    fun hask => ?_
  obtain ⟨layout, hc, hd⟩ := result_decideLayout hask column d
  rw [panic?_congr hd]
  exact panic?_bind_pure (panic?_written style nodes d hask hc) _

/-- **A parameter list panics if a null pointer stands before the first comment, or is the first
element that is not well formed**, in every style. -/
theorem panic?_paramList (column tail : Int) :
    (style.paramList (nodeItems style nodes) column tail d).panic? =
      nullPanic (Node.breaksSearch nodes || Node.breaksLines nodes) := by
  refine panic?_searched style nodes (fun e he => style.result_paramList_of_error he column tail d)
    fun hask => ?_
  obtain ⟨layout, hc, hw⟩ := style.result_paramList hask column tail d
  rw [panic?_congr hw]
  exact panic?_bind_pure (panic?_written style nodes d hask hc) _

end Lists

/-! ## Bodies -/

/-- A statement that is handed over, as an element. -/
def StmtPointer.node : StmtPointer → Node
  | .stmt s => .stmt s
  | .null t => .null (.stmt t)

section Bodies

variable (style : Style) (stmts : List (Option StmtPointer)) (d : Nat)

theorem present_of_isNop {s : Stmt} (h : s.isNop = true) :
    Node.present (some (.stmt s)) = true := by
  cases s with
  | nop cs => simp [Node.present, Node.wellFormed, Stmt.wellFormed]
  | _ => cases h

theorem panic?_compactBody :
    (compactBody (pointerMembers style stmts) d).panic? =
      nullPanic (Node.breaksLines (stmts.map (·.map StmtPointer.node))) := by
  induction stmts with
  | nil => rfl
  | cons s stmts ih =>
    rw [List.map_cons, Node.breaksLines_cons]
    rcases s with - | ⟨s | t⟩
    · rfl
    · change (compactBody (some ⟨some s.comments, s.render style, s.kind, s.isNop⟩ ::
        pointerMembers style stmts) d).panic? = _
      rw [compactBody, readComments_some_bind, panic?_bind_ok (result_leadingComments _ d)]
      split_ifs with hn
      · rw [Option.map_some, StmtPointer.node, present_of_isNop (Bool.and_eq_true_iff.mp hn).1]
        exact panic?_bind_pure ih _
      · refine panic?_element (n := .stmt s) style d rfl fun text => ?_
        exact panic?_bind_pure ih _
    · rfl

theorem panic?_memberBlocks :
    (memberBlocks (pointerMembers style stmts) d).panic? =
      nullPanic (Node.breaksLines (stmts.map (·.map StmtPointer.node))) := by
  induction stmts with
  | nil => rfl
  | cons s stmts ih =>
    rw [List.map_cons, Node.breaksLines_cons]
    rcases s with - | ⟨s | t⟩
    · rfl
    · change (memberBlocks (some ⟨some s.comments, s.render style, s.kind, s.isNop⟩ ::
        pointerMembers style stmts) d).panic? = _
      rw [memberBlocks, readComments_some_bind, panic?_bind_ok (result_leadingComments _ d)]
      by_cases hn : s.isNop = true
      · rw [if_pos hn, Option.map_some, StmtPointer.node, present_of_isNop hn]
        exact panic?_bind_pure ih _
      · rw [if_neg hn]
        refine panic?_element (n := .stmt s) style d rfl fun text => ?_
        exact panic?_bind_pure ih _
    · rfl

/-- **A body panics if the first statement that is not well formed is a null pointer**, in every
style. -/
theorem panic?_body :
    (style.body (pointerMembers style stmts) d).panic? =
      nullPanic (Node.breaksLines (stmts.map (·.map StmtPointer.node))) := by
  rcases style.result_body (pointerMembers style stmts) d with h | h
  · rw [panic?_congr h, panic?_compactBody]
  · rw [panic?_congr h, splitBody]
    exact panic?_bind_pure (panic?_memberBlocks style stmts d) _

end Bodies

end PhpDecl
