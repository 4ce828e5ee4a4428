import PhpDecl.Proofs.NullPointers
import PhpDecl.Proofs.Restoration

/-!
# When a parameter list is wrapped

The wrapping style looks at a list twice: whether it fits between its delimiters, and whether there
is room for what follows it on the line. The two looks amount to one decision on the list as it is
written on one line, and the layout that is answered tells whether the text has a line break.

* `wrapColumn_of_lt`, `fits_iff`: the width of a line that a word of 64 bits holds;
* `succeeds_written`: elements have a text in both layouts or in none;
* `result_itemLines`: elements one per line;
* `Style.eq_multiLine_iff`: the two looks as one condition, with `Style.paramList_eq_decideLayout`;
* `Style.newline_mem_iff`: the layout of a text;
* **`Printer.paramList_extended`**: the list that a printer writes.
-/

namespace PhpDecl

open Traced

/-! ## Columns -/

theorem wrapColumn_of_lt {n : Int} (h0 : 0 ≤ n) (h : n < 0x8000000000000000) :
    wrapColumn n = n := by
  unfold wrapColumn
  rw [Int.bmod_def]
  split_ifs <;> omega

/-- A list fits if it has no line break and ends, with what follows it, within the limit. -/
theorem fits_iff {column tail : Int} {list : String} (hcolumn : 0 ≤ column) (htail : 0 ≤ tail)
    (h : column + delimiters + Text.width list + tail < 0x8000000000000000) :
    fits column list tail = true ↔
      '\n' ∉ list.toList ∧ column + delimiters + Text.width list + tail ≤ maxLineWidth := by
  have h0 : 0 ≤ column + delimiters + Text.width list + tail := by
    unfold delimiters
    omega
  simp only [fits, wrapColumn_of_lt h0 h, Bool.and_eq_true, Bool.not_eq_true',
    List.contains_eq_mem, decide_eq_false_iff_not, decide_eq_true_eq]

/-! ## Elements of a list -/

section Elements

variable (style : Style) (nodes : List (Option Node)) (d : Nat)

variable {style nodes} in
/-- A null pointer is not well formed. -/
theorem readable_of_present (h : nodes.all Node.present = true) :
    Readable (nodeItems style nodes) :=
  (readable_nodeItems_iff style nodes).mpr fun n hn => Bool.eq_false_iff.mpr fun hnull => by
    have hp := List.all_eq_true.mp h n hn
    rw [Node.present_of_isNull hnull] at hp
    cases hp

variable {style nodes} in
theorem all_nodeItems (hr : Readable (nodeItems style nodes)) :
    ((nodeItems style nodes).all fun i => (itemText i d).succeeds) = nodes.all Node.present := by
  rw [nodeItems, List.all_map, Bool.eq_iff_iff, List.all_eq_true, List.all_eq_true]
  refine forall₂_congr fun n hn => ?_
  have hnull := (readable_nodeItems_iff style nodes).mp hr n hn
  rw [Function.comp_apply, itemText_map, succeeds_nodeText_style,
    Node.hasText_of_not_isNull hnull]

variable {style nodes} in
/-- **Elements have a text in a layout exactly when all of them are well formed.** -/
theorem succeeds_written (hr : Readable (nodeItems style nodes)) (layout : Layout) :
    (written layout (nodeItems style nodes) d).succeeds = nodes.all Node.present := by
  cases layout with
  | singleLine =>
    rw [written, succeeds_commaSeparated, all_nodeItems d hr]
  | multiLine =>
    have hlines := succeeds_itemLines true hr (d + 1)
    rw [all_nodeItems (d + 1) hr] at hlines
    rw [written, split, multilineBlock, succeeds_bind fun text => succeeds_bind_pure _ _,
      succeeds_newline, Bool.and_true]
    exact hlines

/-- Elements one per line: every element on a new line below its comments, followed by a comma. -/
theorem result_itemLines {text : String}
    (h : (itemLines true (nodeItems style nodes) d).result = .ok text) :
    ∃ parts : List (Node × List Comment × String), nodes = parts.map (fun p => some p.1) ∧
      (∀ p ∈ parts, p.1.comments = some p.2.1 ∧ (p.1.render style d).result = .ok p.2.2) ∧
      text = String.join (parts.map fun p =>
        commentLines p.2.1 d ++ lineBreak d ++ p.2.2 ++ ",") := by
  induction nodes generalizing text with
  | nil =>
    cases h
    exact ⟨[], rfl, nofun, rfl⟩
  | cons n nodes ih =>
    cases n with
    | none => cases h
    | some n =>
      change (itemLines true (some ⟨n.comments, n.render style⟩ :: nodeItems style nodes) d).result
        = _ at h
      obtain ⟨cs, hcs, h⟩ := result_bind_eq_ok.mp h
      obtain hcs := readComments_eq_ok hcs
      rw [newline_natCast, result_bind_ok (result_leadingComments cs d)] at h
      obtain ⟨s, hs, h⟩ := result_bind_eq_ok.mp h
      rw [result_bind_ok (result_ok _)] at h
      obtain ⟨more, hm, h⟩ := result_bind_eq_ok.mp h
      cases h
      obtain ⟨parts, rfl, hparts, rfl⟩ := ih hm
      refine ⟨(n, cs, s) :: parts, rfl, List.forall_mem_cons.mpr ⟨⟨hcs, hs⟩, hparts⟩, ?_⟩
      rw [List.map_cons, String.join_cons]
      rfl

end Elements

/-! ## The decision -/

namespace Style

variable {next : Style} {items : List (Option Item)} {column tail : Int} {d : Nat}
  {single text : String} {layout : Layout}

/-- The text is the list in the layout that is answered. -/
theorem written_of_paramList {style : Style}
    (h : (style.paramList items column tail d).result = .ok (text, layout)) :
    (written layout items d).result = .ok text := by
  obtain ⟨l, _, hl⟩ := style.result_paramList (asked_of_paramList h) column tail d
  rw [h] at hl
  obtain ⟨s, hs, hp⟩ := result_bind_eq_ok.mp hl.symm
  cases hp
  exact hs

/-- Whatever is written was read. -/
theorem readable_of_paramList {style : Style} {p : String × Layout}
    (h : (style.paramList items column tail d).result = .ok p) : Readable items := by
  have hask := asked_of_paramList h
  cases hc : hasComments items with
  | false => exact readable_of_asked (hc ▸ hask)
  | true =>
    obtain ⟨layout, hl, hp⟩ := style.result_paramList hask column tail d
    rw [h, hl hc] at hp
    obtain ⟨text, hs, _⟩ := result_bind_eq_ok.mp hp.symm
    obtain ⟨lines, hi, _⟩ := result_bind_eq_ok.mp hs
    exact readable_of_itemLines hi

/-- A list without comments that passes both looks stays on its line. -/
theorem paramList_of_fits (hne : items ≠ []) (hc : (askComments items).result = .ok false)
    (hs : (commaSeparated items d).result = .ok single) (hfirst : fits column single 0 = true)
    (hsecond : fits column single tail = true) :
    ((extended next).paramList items column tail d).result = .ok (single, .singleLine) := by
  have hempty : items.isEmpty = false := by simpa using hne
  have hdecide : (decideLayout items column d).result = .ok (single, .singleLine) := by
    rw [decideLayout, hempty, if_neg (by decide), result_bind_ok hc, if_neg (by decide),
      result_bind_ok hs, if_pos hfirst]
    rfl
  rw [paramList, result_bind_ok hdecide]
  dsimp only
  rw [if_neg (by simp [hsecond]), if_neg (by decide)]
  rfl

/-- **The two looks as one condition**, where a word of 64 bits holds the width of the line: a list
is wrapped if it is not empty and has a comment, a line break, or not enough room. -/
theorem eq_multiLine_iff (hcolumn : 0 ≤ column) (htail : 0 ≤ tail)
    (hs : (commaSeparated items d).result = .ok single)
    (hword : column + delimiters + Text.width single + tail < 0x8000000000000000)
    (h : ((extended next).paramList items column tail d).result = .ok (text, layout)) :
    layout = .multiLine ↔ items ≠ [] ∧ (hasComments items = true ∨ '\n' ∈ single.toList ∨
      maxLineWidth < column + delimiters + Text.width single + tail) := by
  have hsecond := fits_iff hcolumn htail hword
  have hfirst : fits column single 0 = true ↔
      '\n' ∉ single.toList ∧ column + delimiters + Text.width single + 0 ≤ maxLineWidth :=
    fits_iff hcolumn (by omega) (by omega)
  have hask := asked_of_paramList h
  by_cases hne : items = []
  · subst hne
    cases h
    simp
  constructor
  · rintro rfl
    refine ⟨hne, ?_⟩
    by_contra hfree
    rw [not_or, Bool.not_eq_true, not_or, Int.not_lt] at hfree
    obtain ⟨hc, hn, hroom⟩ := hfree
    have hfits : fits column single 0 = true := hfirst.mpr ⟨hn, by omega⟩
    rw [paramList_of_fits hne (hc ▸ hask) hs hfits (hsecond.mpr ⟨hn, hroom⟩)] at h
    cases h
  · rintro ⟨-, hwhy⟩
    cases layout with
    | multiLine => rfl
    | singleLine =>
      obtain ⟨l, hcomments, hl⟩ := (extended next).result_paramList hask column tail d
      obtain ⟨hsingle, hfits⟩ := fits_of_singleLine hne h
      obtain rfl : single = text := by
        rw [hs] at hsingle
        cases hsingle
        rfl
      obtain ⟨hn, hroom⟩ := hsecond.mp hfits
      rw [h] at hl
      obtain ⟨_, _, hp⟩ := result_bind_eq_ok.mp hl.symm
      cases hp
      rcases hwhy with hc | hb | hwide
      · cases hcomments hc
      · exact absurd hb hn
      · omega

/-- **The layout tells whether the text has a line break.** -/
theorem newline_mem_iff (h : ((extended next).paramList items column tail d).result =
    .ok (text, layout)) : layout = .multiLine ↔ '\n' ∈ text.toList := by
  cases layout with
  | singleLine =>
    have hn : '\n' ∉ text.toList := by
      by_cases hne : items = []
      · subst hne
        cases h
        exact List.not_mem_nil
      · have hfits := (fits_of_singleLine hne h).2
        rw [fits, Bool.and_eq_true, Bool.not_eq_true', List.contains_eq_mem,
          decide_eq_false_iff_not] at hfits
        exact hfits.1
    simp [hn]
  | multiLine =>
    have hw : (split items d).result = .ok text := written_of_paramList h
    rw [split, multilineBlock, newline_natCast] at hw
    obtain ⟨lines, _, hw⟩ := result_bind_eq_ok.mp hw
    cases hw
    simp [lineBreak]

/-- Without text after the list the second look changes nothing. -/
theorem paramList_eq_decideLayout (items : List (Option Item)) (column : Int) (d : Nat) :
    ((extended next).paramList items column 0 d).result = (decideLayout items column d).result := by
  rw [paramList, result_bind]
  cases hd : (decideLayout items column d).result with
  | error e => rfl
  | ok p =>
    obtain ⟨text, layout⟩ := p
    cases layout with
    | multiLine => rfl
    | singleLine =>
      by_cases hne : items = []
      · subst hne
        rfl
      · have hfits : fits column text 0 = true := by
          rw [decideLayout, if_neg (by simpa using hne)] at hd
          obtain ⟨commented, _, hd⟩ := result_bind_eq_ok.mp hd
          split_ifs at hd
          · obtain ⟨_, _, hp⟩ := result_bind_eq_ok.mp hd
            cases hp
          · obtain ⟨single, _, hp⟩ := result_bind_eq_ok.mp hd
            split_ifs at hp with hf
            · cases hp
              exact hf
            · obtain ⟨_, _, hp⟩ := result_bind_eq_ok.mp hp
              cases hp
        dsimp only [Except.bind]
        rw [if_neg (by simp [hfits]), if_neg (by decide)]
        rfl

end Style

namespace Printer

/-! ## On a printer -/

/-- Elements one per line a level deeper: each on a new line below its comments and followed by a
comma, and then the line break before the closing delimiter. -/
def Stacked (style : Style) (nodes : List (Option Node)) (d : Nat) (text : String) : Prop :=
  ∃ parts : List (Node × List Comment × String), nodes = parts.map (fun p => some p.1) ∧
    (∀ p ∈ parts, p.1.comments = some p.2.1 ∧
      (node style p.1 ((d + 1 : Nat) : Int)).answer = .ok p.2.2) ∧
    text = String.join (parts.map fun p =>
      commentLines p.2.1 (d + 1) ++ lineBreak (d + 1) ++ p.2.2 ++ ",") ++ lineBreak d

theorem stacked_of_split {style : Style} {nodes : List (Option Node)} {d : Nat} {text : String}
    (h : (PhpDecl.split (PhpDecl.nodeItems style nodes) d).result = .ok text) :
    Stacked style nodes d text := by
  rw [PhpDecl.split, PhpDecl.multilineBlock, newline_natCast] at h
  obtain ⟨lines, hl, h⟩ := result_bind_eq_ok.mp h
  cases h
  obtain ⟨parts, hnodes, hparts, rfl⟩ := result_itemLines style nodes (d + 1) hl
  refine ⟨parts, hnodes, fun p hp => ⟨(hparts p hp).1, ?_⟩, rfl⟩
  rw [(stays_node style p.1 _).answer_eq]
  exact (hparts p hp).2

/-- **The wrapping style makes one decision.** It writes a list of elements if all of them are well
formed, as it does without the text that follows the list if there is none. A list is wrapped
exactly when it is not empty and has a comment, or on one line has a line break or leaves not
enough room; it is then written one element per line, and else on one line. So the layout tells
whether there is a line break in the text. -/
theorem paramList_extended (style next : Style) (nodes : List (Option Node)) (d : Nat)
    (column tail : Int) (hcolumn : 0 ≤ column) (htail : 0 ≤ tail) :
    ((paramList (.extended next) (nodeItems style nodes) column tail (d : Int)).answer.toBool =
      nodes.all Node.present) ∧
    (tail = 0 → (paramList (.extended next) (nodeItems style nodes) column tail (d : Int)).answer =
      (decideLayout (nodeItems style nodes) column (d : Int)).answer) ∧
    ∀ text layout,
      (paramList (.extended next) (nodeItems style nodes) column tail (d : Int)).answer =
        .ok (text, layout) →
      ∃ single, (commaSeparated (nodeItems style nodes) (d : Int)).answer = .ok single ∧
        (column + delimiters + Text.width single + tail < 0x8000000000000000 →
          (layout = .multiLine ↔ nodes ≠ [] ∧ (hasComments (nodeItems style nodes) = true ∨
            '\n' ∈ single.toList ∨
            maxLineWidth < column + delimiters + Text.width single + tail))) ∧
        (layout = .singleLine → text = single) ∧
        (layout = .multiLine → Stacked style nodes d text) ∧
        (layout = .multiLine ↔ '\n' ∈ text.toList) := by
  have hitems := stays_nodeItems style nodes
  have hlist := (stays_paramList (d := d) (.extended next) hitems column tail).answer_eq
  have hsingle := (stays_commaSeparated (d := d) hitems).answer_eq
  have hdecide := (stays_decideLayout (d := d) hitems column).answer_eq
  rw [hlist, hsingle, hdecide, hasComments_eq hitems]
  refine ⟨?_, ?_, fun text layout h => ?_⟩
  · by_cases hr : Readable (PhpDecl.nodeItems style nodes)
    · obtain ⟨layout, _, hl⟩ :=
        (Style.extended next).result_paramList (asked_of_readable hr) column tail d
      rw [hl, ← succeeds_written d hr layout]
      exact succeeds_bind_pure _ _
    · have hp : ((Style.extended next).paramList (PhpDecl.nodeItems style nodes) column tail
          d).result.toBool = false := by
        refine Bool.eq_false_iff.mpr fun h => ?_
        obtain ⟨p, hp⟩ := succeeds_iff.mp h
        exact hr (Style.readable_of_paramList hp)
      rw [hp, eq_comm, Bool.eq_false_iff]
      exact fun hall => hr (readable_of_present hall)
  · rintro rfl
    exact Style.paramList_eq_decideLayout _ _ _
  · have hw := Style.written_of_paramList h
    have hr : Readable (PhpDecl.nodeItems style nodes) := Style.readable_of_paramList h
    have hall : nodes.all Node.present = true := by
      rw [← succeeds_written d hr layout]
      exact succeeds_iff.mpr ⟨text, hw⟩
    obtain ⟨single, hs⟩ := succeeds_iff.mp ((succeeds_written d hr .singleLine).trans hall)
    refine ⟨single, hs, fun hword => ?_, ?_, ?_, Style.newline_mem_iff h⟩
    · have hne : PhpDecl.nodeItems style nodes ≠ [] ↔ nodes ≠ [] := by
        simp [PhpDecl.nodeItems]
      rw [← hne]
      exact Style.eq_multiLine_iff hcolumn htail hs hword h
    · rintro rfl
      rw [hs] at hw
      cases hw
      rfl
    · rintro rfl
      exact stacked_of_split hw

/-- A list of one parameter at column 100 that fits by itself, and not before a return type of 30
columns. -/
theorem paramList_extended_return_type :
    ∃ text, (paramList (.extended .standard) (nodeItems .standard [some (.param { name := "p" })])
        100 30 (1 : Nat)).answer = .ok (text, .multiLine) ∧
      Stacked .standard [some (.param { name := "p" })] 1 text ∧
      (paramList (.extended .standard) (nodeItems .standard [some (.param { name := "p" })])
        100 0 (1 : Nat)).answer = .ok ("$p", .singleLine) := by
  have hwide := paramList_extended .standard .standard [some (.param { name := "p" })] 1
    100 30 (by decide) (by decide)
  have hnarrow := paramList_extended .standard .standard [some (.param { name := "p" })] 1
    100 0 (by decide) (by decide)
  refine ⟨"\n        $p,\n    ", by decide +kernel, ?_, ?_⟩
  · obtain ⟨single, _, _, _, hstacked, _⟩ := hwide.2.2 "\n        $p,\n    " .multiLine
      (by decide +kernel)
    exact hstacked rfl
  · rw [hnarrow.2.1 rfl]
    decide +kernel

end Printer

end PhpDecl
