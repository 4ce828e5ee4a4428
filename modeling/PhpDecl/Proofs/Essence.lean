import PhpDecl.Proofs.StyleLikeness

/-!
# Layout does not change what is printed

The essence of a text is what remains of it without spaces and line breaks, and then without the
commas in front of a closing parenthesis. Styles and depths differ in nothing else.

* `essence`: the essence of a text, computed from the right by `essenceOnto`;
* `essenceLikeness`: texts of equal essence, with `alike_singleLine_multiLine` (the wrapping of a
  list does not count) and `alike_body_compactBody` (neither do blank lines);
* `essenceStyles`: any two styles choose alike, up to essence;
* **`nodeText_essence`**: an element that has a text in one style at one depth has a text of the
  same essence in every style at every depth.
-/

namespace PhpDecl

open Traced

/-! ## Essence -/

/-- A character other than a space and a line break. -/
def isSolid (c : Char) : Bool := c != ' ' && c != '\n'

/-- Put a character in front of a text, unless it is a comma before a closing parenthesis. -/
def pushSolid (c : Char) (rest : List Char) : List Char :=
  if c = ',' ∧ rest.head? = some ')' then rest else c :: rest

/-- The essence of a text in front of an essence. -/
def essenceOnto (s : String) (rest : List Char) : List Char :=
  (s.toList.filter isSolid).foldr pushSolid rest

/-- A text without its spaces and line breaks, and then without every run of commas directly before
a closing parenthesis. -/
def essence (s : String) : String := String.ofList (essenceOnto s [])

example : essence "f(\n    $a,\n    [1, 2],\n) \x7b" = "f($a,[1,2])\x7b" := by
  decide +kernel

theorem essenceOnto_append (a b : String) (rest : List Char) :
    essenceOnto (a ++ b) rest = essenceOnto a (essenceOnto b rest) := by
  rw [essenceOnto, String.toList_append, List.filter_append, List.foldr_append]
  rfl

theorem essenceOnto_join (parts : List String) (rest : List Char) :
    essenceOnto (String.join parts) rest = parts.foldr essenceOnto rest := by
  induction parts with
  | nil => rfl
  | cons a parts ih => rw [String.join_cons, essenceOnto_append, ih, List.foldr_cons]

/-- A text of spaces and line breaks has no essence. -/
theorem essenceOnto_of_blank {s : String} (h : ∀ c ∈ s.toList, isSolid c = false)
    (rest : List Char) : essenceOnto s rest = rest := by
  have hf : s.toList.filter isSolid = [] := by
    rw [List.filter_eq_nil_iff]
    intro c hc hs
    rw [h c hc] at hs
    cases hs
  rw [essenceOnto, hf]
  rfl

theorem essenceOnto_lineBreak (d : Nat) (rest : List Char) :
    essenceOnto (lineBreak d) rest = rest := by
  refine essenceOnto_of_blank (fun c hc => ?_) rest
  rw [lineBreak, indentation, String.toList_append, List.mem_append] at hc
  rcases hc with hc | hc
  · obtain rfl : c = '\n' := by simpa using hc
    rfl
  · rw [String.toList_ofList] at hc
    rw [List.eq_of_mem_replicate hc]
    rfl

theorem essenceOnto_commentLines (cs : List Comment) (d : Nat) (rest : List Char) :
    essenceOnto (commentLines cs d) rest =
      (cs.flatMap fun c => c.lines.map String.ofList).foldr essenceOnto rest := by
  rw [commentLines_eq_join, essenceOnto_join, List.foldr_map]
  congr 1
  funext l acc
  rw [essenceOnto_append, essenceOnto_lineBreak]

theorem essenceOnto_spaced (s : String) (rest : List Char) :
    essenceOnto (spaced s) rest = essenceOnto s rest := by
  rw [spaced]
  split_ifs with h
  · rw [h]
  · rw [essenceOnto_append]
    rfl

theorem essenceOnto_opener (l : Layout) (d : Nat) (rest : List Char) :
    essenceOnto (opener l (lineBreak d)) rest = '\x7b' :: rest := by
  cases l with
  | multiLine => simp [opener, essenceOnto, isSolid, pushSolid]
  | singleLine =>
    rw [opener, essenceOnto_append, essenceOnto_lineBreak]
    simp [essenceOnto, isSolid, pushSolid]

theorem essenceOnto_classTrailer (style : Style) (rest : List Char) :
    essenceOnto style.classTrailer rest = rest := by
  refine essenceOnto_of_blank (fun c hc => ?_) rest
  cases style with
  | extended next =>
    obtain rfl : c = '\n' := by simpa [Style.classTrailer] using hc
    rfl
  | _ => cases hc

/-- A list on one line and the same list with a comma after every item, before `)`. -/
theorem essenceOnto_intercalate (parts : List String) (rest : List Char) :
    essenceOnto (", ".intercalate parts ++ ")") rest =
      essenceOnto (String.join (parts.map (· ++ ",")) ++ ")") rest := by
  induction parts with
  | nil =>
    rw [String.intercalate_nil]
    rfl
  | cons a parts ih =>
    rw [List.map_cons, String.join_cons]
    cases parts with
    | nil =>
      rw [String.intercalate_singleton, List.map_nil, String.join_nil, String.append_empty]
      simp only [essenceOnto_append]
      rfl
    | cons b parts =>
      rw [String.intercalate_cons_cons]
      simp only [essenceOnto_append] at ih ⊢
      rw [ih]
      rfl

/-- Blank lines between blocks do not count. -/
theorem essenceOnto_blankLines (blocks : List String) :
    essenceOnto ("\n".intercalate blocks) = essenceOnto (String.join blocks) := by
  funext rest
  induction blocks with
  | nil => rw [String.intercalate_nil, String.join_nil]
  | cons a blocks ih =>
    rw [String.join_cons]
    cases blocks with
    | nil => rw [String.intercalate_singleton, String.join_nil, String.append_empty]
    | cons b blocks =>
      rw [String.intercalate_cons_cons, essenceOnto_append, essenceOnto_append, ih,
        essenceOnto_append]
      rfl

/-! ## Texts of equal essence -/

/-- Texts of equal essence, whatever follows them, at any two depths. -/
def essenceLikeness : Likeness where
  Depths _ _ := True
  Leaf _ := True
  Texts a b := essenceOnto a = essenceOnto b
  deeper _ := trivial
  append ha hb := funext fun rest => by rw [essenceOnto_append, essenceOnto_append, hb, ha]
  plain _ := rfl
  leaf _ := rfl
  literal _ := rfl
  breaks _ := funext fun rest => by rw [essenceOnto_lineBreak, essenceOnto_lineBreak]
  comments cs _ := funext fun rest => by
    rw [essenceOnto_commentLines, essenceOnto_commentLines]

section Lists

variable {is js : List (Option Item)} {d e : Nat}

theorem itemAlike_symm (h : List.Forall₂ essenceLikeness.ItemAlike is js) :
    List.Forall₂ essenceLikeness.ItemAlike js is := by
  refine h.flip.imp fun i j hij => ?_
  cases hij with
  | missing => exact .missing
  | present hi hj ht => exact .present hj hi fun _ => (ht trivial).symm.mono fun _ _ => Eq.symm

/-- Items without comments, one per line, are their texts with a comma after each. -/
theorem alike_itemTexts_itemLines (h : List.Forall₂ essenceLikeness.ItemAlike is js)
    (hn : none ∉ js) (hc : hasComments js = false) :
    Alike (fun parts lines =>
        essenceOnto lines = essenceOnto (String.join (parts.map (· ++ ","))))
      (itemTexts is d) (itemLines true js e) := by
  induction h with
  | nil => exact .pure rfl
  | @cons i j is js hij _ ih =>
    rw [hasComments, List.any_cons, Bool.or_eq_false_iff] at hc
    cases hij with
    | missing => exact absurd List.mem_cons_self hn
    | @present i j cs _ hj ht =>
      obtain rfl : cs = [] := by simpa [hj] using hc.1
      rw [itemTexts, itemLines, hj, readComments_some_bind, newline_natCast]
      refine (ht (d := d) (e := e) trivial).bind fun a b hab => ?_
      refine (ih (fun h => hn (List.mem_cons_of_mem _ h)) hc.2).bind fun parts lines hl => ?_
      refine .pure (funext fun rest => ?_)
      have hab : essenceOnto a = essenceOnto b := hab
      rw [List.map_cons, String.join_cons]
      simp only [essenceOnto_append, essenceOnto_lineBreak, hl, hab]
      rfl

/-- **A list on one line and on several lines has one essence**, up to its closing parenthesis. -/
theorem alike_singleLine_multiLine (h : List.Forall₂ essenceLikeness.ItemAlike is js)
    (hn : none ∉ js) (hc : hasComments js = false) :
    Alike (fun a b => essenceLikeness.Texts (a ++ ")") (b ++ ")")) (commaSeparated is d)
      (split js e) := by
  rw [commaSeparated, split, multilineBlock, commaSeparatedMultiline, newline_natCast]
  refine (alike_itemTexts_itemLines (e := e + 1) h hn hc).bind fun parts lines hl => ?_
  refine .pure (funext fun rest => ?_)
  rw [essenceOnto_intercalate, essenceOnto_append, essenceOnto_append, essenceOnto_append,
    essenceOnto_lineBreak, hl]

/-- **A list has one essence in all layouts that its comments allow.** -/
theorem alike_written (h : List.Forall₂ essenceLikeness.ItemAlike is js) (hi : none ∉ is)
    (hj : none ∉ js) {l m : Layout} (hl : hasComments is = true → l = .multiLine)
    (hm : hasComments js = true → m = .multiLine) :
    Alike (fun a b => essenceLikeness.Texts (a ++ ")") (b ++ ")")) (written l is d)
      (written m js e) := by
  have hap : ∀ a b, essenceLikeness.Texts a b → essenceLikeness.Texts (a ++ ")") (b ++ ")") :=
    fun a b hab => essenceLikeness.append hab (essenceLikeness.plain (by decide))
  cases l with
  | singleLine =>
    have hc : hasComments is = false := Bool.eq_false_iff.mpr fun h => nomatch hl h
    cases m with
    | singleLine => exact (Likeness.alike_commaSeparated h trivial).mono hap
    | multiLine =>
      exact alike_singleLine_multiLine h hj (Likeness.hasComments_eq h ▸ hc)
  | multiLine =>
    cases m with
    | singleLine =>
      have hc : hasComments js = false := Bool.eq_false_iff.mpr fun h => nomatch hm h
      have hsym := alike_singleLine_multiLine (d := e) (e := d) (itemAlike_symm h) hi
        (Likeness.hasComments_eq h ▸ hc)
      exact hsym.symm.mono fun _ _ => Eq.symm
    | multiLine => exact (Likeness.alike_multilineBlock true h trivial).mono hap

end Lists

/-! ## Bodies -/

section Bodies

variable {ms ns : List (Option Member)} {d e : Nat}

theorem memberAlike_right (h : List.Forall₂ essenceLikeness.MemberAlike ms ns) :
    List.Forall₂ essenceLikeness.MemberAlike ns ns := by
  induction h with
  | nil => exact .nil
  | cons hmn _ ih =>
    refine .cons ?_ ih
    cases hmn with
    | missing => exact .missing
    | @present m n cs _ hcs hk hnop hsilent ht =>
      refine .present hcs hcs rfl rfl (fun h depth => ?_) fun {d e} _ => ?_
      · have hn := (hsilent (hnop ▸ h) depth).2
        exact ⟨hn, hn⟩
      · exact (ht (d := d) (e := d) trivial).symm.trans (ht (d := d) (e := e) trivial)
          fun a b c hab hbc => hab.symm.trans hbc

theorem essenceOnto_join_block (a : String) (blocks : List String) (rest : List Char) :
    essenceOnto (String.join (if a.isEmpty then blocks else a :: blocks)) rest =
      essenceOnto a (essenceOnto (String.join blocks) rest) := by
  split_ifs with h
  · rw [String.isEmpty_iff.mp h]
    rfl
  · rw [String.join_cons, essenceOnto_append]

/-- The blocks of a body and its compact form are the same up to essence. -/
theorem alike_memberBlocks (h : List.Forall₂ essenceLikeness.MemberAlike ms ns) :
    Alike (fun blocks text => essenceOnto (String.join blocks) = essenceOnto text)
      (memberBlocks ms d) (compactBody ns e) := by
  induction h with
  | nil => exact .pure rfl
  | cons hmn _ ih =>
    cases hmn with
    | missing => exact .malformed _
    | @present m n cs hm hcs hk hnop hsilent ht =>
      rw [memberBlocks, compactBody, hm, hcs, hnop, readComments_some_bind, readComments_some_bind,
        newline_natCast, newline_natCast]
      refine (essenceLikeness.alike_leadingComments cs (d := d) (e := e) trivial).bind
        fun a a' ha => ?_
      have ha : essenceOnto a = essenceOnto a' := ha
      by_cases hn : n.isNop = true
      · rw [if_pos hn]
        by_cases hcs : (n.isNop && !cs.isEmpty) = true
        · rw [if_pos hcs]
          refine ih.bind fun blocks text hb => .pure (funext fun rest => ?_)
          rw [essenceOnto_join_block, essenceOnto_append, ha, hb]
        · have htext := (hsilent (hnop ▸ hn) e).2
          rw [if_neg hcs]
          refine Alike.congr ?_ rfl (result_bind_ok htext _)
          refine ih.bind fun blocks text hb => .pure (funext fun rest => ?_)
          simp only [essenceOnto_join_block, essenceOnto_append, essenceOnto_lineBreak, ha, hb]
          rfl
      · rw [if_neg hn, if_neg (by simp [hn])]
        refine (ht (d := d) (e := e) trivial).bind fun t t' htext => ?_
        refine ih.bind fun blocks text hb => .pure (funext fun rest => ?_)
        have htext : essenceOnto t = essenceOnto t' := htext
        simp only [String.join_cons, essenceOnto_append, essenceOnto_lineBreak, ha, htext, hb]

/-- **A body has one essence in all styles**, that of its compact form. -/
theorem alike_body_compactBody (h : List.Forall₂ essenceLikeness.MemberAlike ms ns)
    (style : Style) :
    Alike essenceLikeness.Texts (style.body ms d) (compactBody ns e) := by
  rcases style.result_body ms d with hb | hb
  · exact (Likeness.alike_compactBody h trivial).congr hb rfl
  · refine ((alike_memberBlocks h).bind_pure_left fun blocks text ht => ?_).congr hb rfl
    exact (essenceOnto_blankLines blocks).trans ht

end Bodies

/-! ## Any two styles -/

/-- Any two styles at any two depths, compared up to essence. -/
def essenceStyles (first second : Style) : StyleLikeness where
  toLikeness := essenceLikeness
  first := first
  second := second
  Layouts _ _ := True
  opening _ _ := funext fun rest => by rw [essenceOnto_opener, essenceOnto_opener]
  spacing h := funext fun rest => by rw [essenceOnto_spaced, essenceOnto_spaced, h]
  trailer := funext fun rest => by rw [essenceOnto_classTrailer, essenceOnto_classTrailer]
  params := by
    intro is js d e column tail column' tail' hi hj h _
    have ⟨his, hjs⟩ := Likeness.readable_of_alike h
    obtain ⟨l, hl, hp⟩ := first.result_paramList (asked_of_readable his) column tail d
    obtain ⟨m, hm, hq⟩ := second.result_paramList (asked_of_readable hjs) column' tail' e
    refine Alike.congr ?_ hp hq
    exact (alike_written h hi hj hl hm).bind fun a b hab => .pure ⟨hab, trivial⟩
  bodies := by
    intro ms ns d e h _
    have hfirst := alike_body_compactBody (d := d) (e := e) h first
    have hsecond := alike_body_compactBody (d := e) (e := e) (memberAlike_right h) second
    exact hfirst.trans hsecond.symm fun a b c hab hbc => Eq.trans hab (Eq.symm hbc)

/-- **Layout never changes what is printed.** An element that has a text in one style at one depth
has a text of the same essence in every style at every depth. -/
theorem nodeText_essence (node : Option Node) (style style' : Style) (d d' : Nat) {text : String}
    (h : (nodeText style node d).result = .ok text) :
    ∃ text', (nodeText style' node d').result = .ok text' ∧ essence text' = essence text := by
  have ha : Alike essenceLikeness.Texts (nodeText style node d) (nodeText style' node d') :=
    (essenceStyles style style').alike_node (isBroken_eq_false h) (fun _ _ _ _ => trivial) trivial
  obtain ⟨text', ht, hab⟩ := ha.exists_ok h
  exact ⟨text', ht, congrArg String.ofList (congrFun hab []).symm⟩

/-- A class with a commented parameter, in the plain style at the margin and in the extended style
two levels deep. -/
theorem nodeText_essence_commented_params :
    ∃ text', (nodeText (.extended .standard) (some (.stmt (.classDecl { name := "C" }
        [some (.method { name := "f", params := [{ comments := [.line "x"], name := "a" }] }
          (some [some (.ret [] (some (.string [] "a, )")))]))]))) (2 : Nat)).result = .ok text' ∧
      essence text' = essence ("class C\n\x7b\n    function f(\n        // x\n        $a,\n" ++
        "    ) \x7b\n        return 'a, )';\n    \x7d\n\x7d") :=
  nodeText_essence _ .standard (.extended .standard) 0 2 rfl

end PhpDecl
