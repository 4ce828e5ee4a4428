import PhpDecl.Proofs.Callable
import PhpDecl.Proofs.Members
import PhpDecl.Proofs.Notes
import PhpDecl.Proofs.Verdict

/-!
# Every layout is asked for once

A style is asked for the layout of every parameter list and of every body. The questions put to a
recorded style, and the decisions that are logged, are read off the tree from top to bottom.

* `Consultation`: a place where a style is asked, with `Consultation.question` and
  `Consultation.decision?`, the question that is noted there and the decision that is logged;
* `Stmt.consultations`, `Stmt.listConsultations`: the places of a tree from top to bottom;
* `Style.notes_paramList_extended`, `noted_signature`: what is noted about a parameter list;
* `noted_body`, **`noted_stmt`**: what is noted about a body and about a statement;
* **`prettyPrint_consultations`**: a printed list of statements asks and logs once at each place.
-/

namespace PhpDecl

open Traced

/-! ## Where a style is asked -/

namespace Callable

/-- The column of the opening parenthesis. -/
def column (c : Callable) (depth : Int) : Int :=
  match (attrLines c.attrGroups depth).result with
  | .ok attrs => columnAfter depth (attrs ++ c.words)
  | .error _ => 0

/-- The columns of the text after the closing parenthesis. -/
def tail (c : Callable) : Int :=
  match (returnAfter c.returns).result with
  | .ok ret => Text.width ret
  | .error _ => 0

end Callable

/-- A place where a style is asked for a layout. -/
inductive Consultation where
  /-- The parameters of a method or a function that is printed at a depth. -/
  | params (c : Callable) (depth : Nat)
  /-- A body whose members are printed at a depth. -/
  | body (stmts : List (Option Stmt)) (depth : Nat)

namespace Consultation

/-- The question as it is noted. -/
def question : Consultation → Note
  | .params c depth => .askedParams c.params.length (c.column depth) c.tail depth
  | .body stmts depth => .askedBody stmts.length depth

/-- The decision that is logged: a parameter list that is answered in several lines, and a body
whose members are set apart. -/
def decision? (style : Style) : Consultation → Option Note
  | .params c depth =>
    if c.layout style depth = .multiLine then
      some (.wrapped c.params.length (c.column depth))
    else none
  | .body stmts depth =>
    if Stmt.setApart stmts then some (.separated stmts.length depth) else none

/-- Everything that is noted. -/
def notes (style : Style) (p : Consultation) : List Note := p.question :: (p.decision? style).toList

end Consultation

mutual

/-- The places in a statement where a style is asked, from top to bottom. -/
def Stmt.consultations : Stmt → Nat → List Consultation
  | .classDecl _ members, depth =>
    .body members (depth + 1) :: Stmt.listConsultations members (depth + 1)
  | .method head none, depth => [.params (head.callable none) depth]
  | .method head (some body), depth =>
    .params (head.callable (some body)) depth :: .body body (depth + 1) ::
      Stmt.listConsultations body (depth + 1)
  | .function head body, depth =>
    .params (head.callable body) depth :: .body body (depth + 1) ::
      Stmt.listConsultations body (depth + 1)
  | .forLoop _ body, depth => .body body (depth + 1) :: Stmt.listConsultations body (depth + 1)
  | .property _, _ => []
  | .constants _, _ => []
  | .traitUse _, _ => []
  | .expression _ _, _ => []
  | .ret _ _, _ => []
  | .nop _, _ => []
  | .foreign _ _ _, _ => []

/-- The places in the statements of a body. -/
def Stmt.listConsultations : List (Option Stmt) → Nat → List Consultation
  | [], _ => []
  | none :: rest, depth => Stmt.listConsultations rest depth
  | some s :: rest, depth => s.consultations depth ++ Stmt.listConsultations rest depth

end

/-! ## Parameter lists -/

/-- A note of a question put to a style. -/
def Note.isQuestion : Note → Bool
  | .askedParams _ _ _ _ => true
  | .askedBody _ _ => true
  | _ => false

/-- An extended style whose questions are noted. -/
def recordedStyle : Style := .recorded (.extended .standard)

/-- **An extended style logs a parameter list exactly if it answers several lines.** -/
theorem Style.notes_paramList_extended {next : Style} {items : List (Option Item)}
    {column tail depth : Int} {text : String} {layout : Layout} (hs : SilentItems items)
    (h : ((extended next).paramList items column tail depth).result = .ok (text, layout)) :
    ((extended next).paramList items column tail depth).notes =
      if layout = .multiLine then [.wrapped items.length column] else [] := by
  rw [paramList] at h ⊢
  obtain ⟨⟨list, chosen⟩, hd, h⟩ := result_bind_eq_ok.mp h
  rw [notes_bind_ok hd, noted_decideLayout hs column depth _ hd, List.nil_append]
  dsimp only at h ⊢
  by_cases hsplit : (chosen = .singleLine && !items.isEmpty && !fits column list tail) = true
  · -- the list fits by itself, but not with the text after it
    rw [if_pos hsplit] at h ⊢
    have hb : (PhpDecl.split items depth).Noted [] := noted_multilineBlock true hs depth
    obtain ⟨block, hr, h⟩ := result_bind_eq_ok.mp h
    rw [result_note_bind] at h
    cases h
    rw [notes_bind_ok hr, hb _ hr, List.nil_append]
    rfl
  · rw [if_neg hsplit] at h ⊢
    by_cases hm : chosen = .multiLine
    · rw [if_pos hm, result_note_bind] at h
      cases h
      rw [if_pos hm, if_pos hm]
      rfl
    · rw [if_neg hm] at h ⊢
      cases h
      rw [if_neg hm]
      rfl

/-- **The signature of a method or a function asks once**, about its parameters. -/
theorem noted_signature {c : Callable} {d : Nat} {attrs lead : String}
    (ha : (attrLines c.attrGroups d).result = .ok attrs) (hlead : lead = attrs ++ c.words) :
    (signature recordedStyle lead c.params c.returns d).Noted
      ((Consultation.params c d).notes recordedStyle) := by
  rintro ⟨sig, layout⟩ h
  have hlayout : c.layout recordedStyle d = layout :=
    Callable.layout_of_signature (Callable.signature_of_lead ha hlead h)
  obtain ⟨ret, hr, h⟩ := result_bind_eq_ok.mp h
  obtain ⟨⟨list, layout'⟩, hl, h⟩ := result_bind_eq_ok.mp h
  cases h
  have hcolumn : c.column d = columnAfter d lead := by rw [Callable.column, ha, hlead]
  have htail : c.tail = Text.width ret := by rw [Callable.tail, hr]
  have hlength : (paramItems c.params).length = c.params.length := List.length_map _
  have hnotes := Style.notes_paramList_extended (silentItems_params c.params)
    ((result_note_bind _ _).symm.trans hl)
  rw [signature, notes_bind_ok hr, noted_returnAfter _ _ hr, List.nil_append, notes_bind_ok hl]
  rw [recordedStyle, Style.paramList, notes_note_bind, hnotes, hlength, ← recordedStyle]
  rw [Consultation.notes, Consultation.question, Consultation.decision?, hlayout, hcolumn, htail]
  split_ifs <;> rfl

/-- A method or a function asks about its parameters in front of everything else. -/
theorem noted_callable {c : Callable} {d : Nat} {lead : String → String}
    {f : String × Layout → Traced String} {inside : List Note} (wrap : TreeError → TreeError)
    (hlead : ∀ attrs, lead attrs = attrs ++ c.words) (hf : ∀ p, (f p).Noted inside) :
    (attrLines c.attrGroups d >>= fun attrs =>
      (signature recordedStyle (lead attrs) c.params c.returns d).within wrap >>= f).Noted
      ((Consultation.params c d).notes recordedStyle ++ inside) := by
  intro text h
  obtain ⟨attrs, ha, h⟩ := result_bind_eq_ok.mp h
  have hsig := (noted_signature ha (hlead attrs)).within wrap
  rw [notes_bind_ok ha, noted_attrLines d _ _ ha, List.nil_append]
  exact hsig.bind (fun p _ => hf p) text h

/-! ## Bodies -/

/-- Members with the notes that their texts take. A missing member has no text, and one that only
carries comments takes no notes. -/
inductive MembersNoted : List (Option Member) → (Nat → List Note) → Prop
  | nil : MembersNoted [] fun _ => []
  | missing {ms : List (Option Member)} {notes : Nat → List Note} : MembersNoted (none :: ms) notes
  | cons {m : Member} {ms : List (Option Member)} {own notes : Nat → List Note}
    (silent : m.isNop = true → ∀ d, own d = []) (text : ∀ d : Nat, (m.text d).Noted (own d))
    (rest : MembersNoted ms notes) : MembersNoted (some m :: ms) fun d => own d ++ notes d

section Bodies

variable {ms : List (Option Member)} {notes : Nat → List Note} {d : Nat}

theorem noted_compactBody (h : MembersNoted ms notes) : (compactBody ms d).Noted (notes d) := by
  induction h with
  | nil => exact .pure
  | missing => exact .malformed
  | @cons m ms own notes silent text _ ih =>
    rw [compactBody]
    refine (noted_readComments m.comments).after_silent fun cs => ?_
    refine (noted_leadingComments cs d).after_silent fun above => ?_
    split_ifs with hn
    · rw [Bool.and_eq_true] at hn
      dsimp only
      rw [silent hn.1 d, List.nil_append]
      exact ih.then_pure _
    · refine (text d).bind fun s _ => ?_
      exact (noted_newline d).after_silent fun nl => ih.then_pure _

theorem noted_splitBody (h : MembersNoted ms notes) : (splitBody ms d).Noted (notes d) := by
  suffices hb : (memberBlocks ms d).Noted (notes d) from hb.then_pure _
  induction h with
  | nil => exact .pure
  | missing => exact .malformed
  | @cons m ms own notes silent text _ ih =>
    rw [memberBlocks]
    refine (noted_readComments m.comments).after_silent fun cs => ?_
    refine (noted_leadingComments cs d).after_silent fun above => ?_
    dsimp only
    by_cases hn : m.isNop = true
    · rw [if_pos hn, silent hn d, List.nil_append]
      exact ih.then_pure _
    · rw [if_neg hn]
      refine (text d).bind fun s _ => ?_
      exact (noted_newline d).after_silent fun nl => ih.then_pure _

/-- **A body asks once**, in front of everything that its members ask. -/
theorem noted_body {stmts : List (Option Stmt)}
    (h : MembersNoted (members recordedStyle stmts) notes) :
    (recordedStyle.body (members recordedStyle stmts) d).Noted
      ((Consultation.body stmts d).notes recordedStyle ++ notes d) := by
  rw [recordedStyle, Style.body, ← recordedStyle, length_members]
  refine .after_note _ ?_
  rw [Style.body, separated_members, length_members, Consultation.decision?]
  split_ifs
  · exact (noted_splitBody h).after_note _
  · exact noted_compactBody h

end Bodies

/-! ## Statements -/

/-- The notes taken at the places in a statement. -/
def Stmt.notes (s : Stmt) (depth : Nat) : List Note :=
  (s.consultations depth).flatMap (·.notes recordedStyle)

/-- The notes taken at the places in the statements of a body. -/
def Stmt.listNotes (stmts : List (Option Stmt)) (depth : Nat) : List Note :=
  (Stmt.listConsultations stmts depth).flatMap (·.notes recordedStyle)

theorem Stmt.notes_of_isNop : ∀ {s : Stmt}, s.isNop = true → ∀ d : Nat, s.notes d = []
  | .nop _, _, _ => by rw [Stmt.notes, Stmt.consultations, List.flatMap_nil]

mutual

/-- **A statement asks once at each of its places**, from top to bottom. -/
theorem noted_stmt : ∀ (s : Stmt) (d : Nat), (s.render recordedStyle d).Noted (s.notes d)
  | .classDecl head stmts, d => by
    rw [Stmt.render, Stmt.notes, Stmt.consultations, List.flatMap_cons]
    refine (noted_attrLines d head.attrGroups).after_silent fun attrs => ?_
    exact ((noted_body (membersNoted stmts)).within _).then_silent fun inner =>
      (noted_newline d).then_pure _
  | .method head none, d => by
    rw [Stmt.render, Stmt.notes, Stmt.consultations, List.flatMap_cons]
    split_ifs
    · exact .malformed
    · refine noted_callable (c := head.callable none) (.inMethod head.name) (fun attrs => ?_)
        fun p => .pure
      simp only [Callable.words, MethodHead.callable, String.append_assoc]
  | .method head (some stmts), d => by
    rw [Stmt.render, Stmt.notes, Stmt.consultations, List.flatMap_cons, List.flatMap_cons]
    split_ifs
    · exact .malformed
    · refine noted_callable (c := head.callable (some stmts)) (.inMethod head.name)
        (fun attrs => ?_) fun p => ?_
      · simp only [Callable.words, MethodHead.callable, String.append_assoc]
      · exact ((noted_body (membersNoted stmts)).within _).then_silent fun inner =>
          (noted_newline d).then_pure _
  | .function head stmts, d => by
    rw [Stmt.render, Stmt.notes, Stmt.consultations, List.flatMap_cons, List.flatMap_cons]
    split_ifs
    · exact .malformed
    · refine noted_callable (c := head.callable stmts) (.inFunction head.name)
        (fun attrs => ?_) fun p => ?_
      · have he : Modifiers.empty.text = "" := by decide
        simp only [Callable.words, FunctionHead.callable, he, String.empty_append,
          String.append_assoc]
      · exact ((noted_body (membersNoted stmts)).within _).then_silent fun inner =>
          (noted_newline d).then_pure _
  | .property decl, d => by
    rw [Stmt.render, Stmt.notes, Stmt.consultations, List.flatMap_nil]
    exact noted_property d decl
  | .constants decl, d => by
    rw [Stmt.render, Stmt.notes, Stmt.consultations, List.flatMap_nil]
    exact noted_constants d decl
  | .traitUse decl, d => by
    rw [Stmt.render, Stmt.notes, Stmt.consultations, List.flatMap_nil]
    exact noted_traitUse decl
  | .expression _ expr, d => by
    rw [Stmt.render, Stmt.notes, Stmt.consultations, List.flatMap_nil]
    exact (noted_exprText expr d).then_pure _
  | .ret _ none, d => by
    rw [Stmt.render, Stmt.notes, Stmt.consultations, List.flatMap_nil]
    exact .pure
  | .ret _ (some e), d => by
    rw [Stmt.render, Stmt.notes, Stmt.consultations, List.flatMap_nil]
    exact (noted_expr e d).then_pure _
  | .forLoop head stmts, d => by
    rw [Stmt.render, Stmt.notes, Stmt.consultations, List.flatMap_cons]
    refine (noted_exprItems d head.init).after_silent fun init => ?_
    refine (noted_exprItems d head.cond).after_silent fun cond => ?_
    refine (noted_exprItems d head.loop).after_silent fun loop => ?_
    exact (noted_body (membersNoted stmts)).then_silent fun inner => (noted_newline d).then_pure _
  | .nop _, d => by
    rw [Stmt.render, Stmt.notes, Stmt.consultations, List.flatMap_nil]
    exact .pure
  | .foreign _ _ _, d => by
    rw [Stmt.render]
    exact .malformed

theorem membersNoted : ∀ stmts : List (Option Stmt),
    MembersNoted (members recordedStyle stmts) (Stmt.listNotes stmts)
  | [] => .nil
  | none :: _ => .missing
  | some s :: rest => by
    have hl : Stmt.listNotes (some s :: rest) = fun d => s.notes d ++ Stmt.listNotes rest d := by
      funext d
      rw [Stmt.listNotes, Stmt.listConsultations, List.flatMap_append]
      rfl
    rw [hl]
    exact .cons Stmt.notes_of_isNop (noted_stmt s) (membersNoted rest)

end

/-! ## Printed lists -/

/-- The places in a printed list of statements, from top to bottom. -/
def printedConsultations (stmts : List (Option Stmt)) : List Consultation :=
  .body stmts 0 :: Stmt.listConsultations stmts 0

namespace Consultation

variable (style : Style) (ps : List Consultation)

theorem filter_isQuestion_notes :
    (ps.flatMap (·.notes style)).filter Note.isQuestion = ps.map question := by
  induction ps with
  | nil => rfl
  | cons p ps ih =>
    have hp : (p.notes style).filter Note.isQuestion = [p.question] := by
      cases p <;> rw [notes, decision?] <;> split_ifs <;> rfl
    rw [List.flatMap_cons, List.filter_append, ih, hp, List.map_cons, List.singleton_append]

theorem filterMap_logLine_notes :
    (ps.flatMap (·.notes style)).filterMap Note.logLine? =
      ps.filterMap fun p => (p.decision? style).bind Note.logLine? := by
  induction ps with
  | nil => rfl
  | cons p ps ih =>
    have hp : (p.notes style).filterMap Note.logLine? =
        ((p.decision? style).bind Note.logLine?).toList := by
      cases p <;> rw [notes, decision?] <;> split_ifs <;> rfl
    rw [List.flatMap_cons, List.filterMap_append, ih, hp, List.filterMap_cons]
    cases (p.decision? style).bind Note.logLine? <;> rfl

end Consultation

/-- **Every layout is asked for once and logged faithfully.** A well-formed list of statements has a
text; the questions are those of its places from top to bottom, and the log lines are the decisions
made there. -/
theorem prettyPrint_consultations {stmts : List (Option Stmt)}
    (h : Stmt.allWellFormed stmts = true) :
    (∃ text, (prettyPrint recordedStyle stmts).result = .ok text) ∧
    (prettyPrint recordedStyle stmts).notes.filter Note.isQuestion =
      (printedConsultations stmts).map Consultation.question ∧
    (prettyPrint recordedStyle stmts).notes.filterMap Note.logLine? =
      (printedConsultations stmts).filterMap fun p =>
        (p.decision? recordedStyle).bind Note.logLine? := by
  rw [← succeeds_prettyPrint recordedStyle, succeeds_iff] at h
  obtain ⟨text, ht⟩ := h
  have hbody : (prettyPrint recordedStyle stmts).Noted
      ((printedConsultations stmts).flatMap (·.notes recordedStyle)) :=
    (noted_body (membersNoted stmts)).then_pure _
  refine ⟨⟨text, ht⟩, ?_, ?_⟩ <;> rw [hbody text ht]
  · exact Consultation.filter_isQuestion_notes recordedStyle _
  · exact Consultation.filterMap_logLine_notes recordedStyle _

/-- A class with one method, which has a commented parameter and a loop in its body. -/
theorem prettyPrint_consultations_wrapped_method :
    (prettyPrint recordedStyle [some (.classDecl { name := "C" } [some (.method
        { name := "f", params := [{ name := "x", comments := [.line "n"] }] }
        (some [some (.forLoop {} [])]))])]).notes.filter Note.isQuestion =
      [.askedBody 1 0, .askedBody 1 1, .askedParams 1 14 0 1, .askedBody 1 2, .askedBody 0 3] ∧
    (prettyPrint recordedStyle [some (.classDecl { name := "C" } [some (.method
        { name := "f", params := [{ name := "x", comments := [.line "n"] }] }
        (some [some (.forLoop {} [])]))])]).notes.filterMap Note.logLine? =
      ["DEBU separating body members members=1 depth=1",
        "DEBU wrapped parameter list params=1 column=14"] := by
  have h := @prettyPrint_consultations [some (.classDecl { name := "C" } [some (.method
    { name := "f", params := [{ name := "x", comments := [.line "n"] }] }
    (some [some (.forLoop {} [])]))])] rfl
  exact ⟨h.2.1.trans (by decide +kernel), h.2.2.trans (by decide +kernel)⟩

end PhpDecl
