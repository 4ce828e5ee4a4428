import Mathlib.Data.List.TakeWhile
import Mathlib.Tactic.Common
import PhpDecl.Command.FileSystem

/-!
# Where paths lead

In a file system without links the place a path leads to can be told from its text: cleaning a path
does not change it, and a name in a directory leads below the directory unless it climbs out of it.

* `Path.splitSlash_append_slash`, `Path.parts_intercalate`: the parts of joined paths;
* `Path.pushPart_cases`, `Path.mem_foldl_pushPart`: what cleaning does with a part, and the parts it
  leaves;
* `Path.climbs`: a name that leads out of the directory it is looked up in;
* `FileSystem.place`: the place a path leads to, if it leads anywhere;
* `FileSystem.foldl_step_pushPart`, **`FileSystem.place_clean`**, **`FileSystem.place_join`**: clean
  paths and names in directories;
* **`FileSystem.place_isPrefix_place_join`**: a name that does not climb stays below its directory;
* `FileSystem.eq_place_of_resolve`: paths that lead somewhere lead to their places.
-/

namespace PhpDecl

namespace Path

/-! ## Parts -/

theorem splitSlash_ne_nil (cs : List Char) : splitSlash cs ≠ [] := by
  cases cs with
  | nil => simp [splitSlash]
  | cons c cs =>
    rw [splitSlash]
    split_ifs
    · exact List.cons_ne_nil _ _
    · split <;> exact List.cons_ne_nil _ _

theorem splitSlash_cons_of_ne {c : Char} (hc : c ≠ '/') {cs p : List Char} {ps : List (List Char)}
    (h : splitSlash cs = p :: ps) : splitSlash (c :: cs) = (c :: p) :: ps := by
  rw [splitSlash, if_neg hc, h]

theorem splitSlash_append_slash (xs ys : List Char) :
    splitSlash (xs ++ '/' :: ys) = splitSlash xs ++ splitSlash ys := by
  induction xs with
  | nil => simp [splitSlash]
  | cons x xs ih =>
    by_cases hx : x = '/'
    · subst hx
      simp only [List.cons_append, splitSlash, if_true, ih]
    · obtain ⟨p, ps, hs⟩ := List.exists_cons_of_ne_nil (splitSlash_ne_nil xs)
      rw [hs] at ih
      rw [splitSlash_cons_of_ne hx hs, List.cons_append, splitSlash_cons_of_ne hx ih]
      rfl

theorem slash_not_mem_of_mem_splitSlash {cs p : List Char} (h : p ∈ splitSlash cs) : '/' ∉ p := by
  induction cs generalizing p with
  | nil =>
    rw [splitSlash, List.mem_singleton] at h
    rw [h]
    exact List.not_mem_nil
  | cons c cs ih =>
    by_cases hc : c = '/'
    · rw [splitSlash, if_pos hc] at h
      rcases List.mem_cons.mp h with rfl | h
      · exact List.not_mem_nil
      · exact ih h
    · obtain ⟨q, qs, hs⟩ := List.exists_cons_of_ne_nil (splitSlash_ne_nil cs)
      rw [hs] at ih
      rw [splitSlash_cons_of_ne hc hs] at h
      rcases List.mem_cons.mp h with rfl | h
      · have hq := ih List.mem_cons_self
        intro hm
        rcases List.mem_cons.mp hm with hm | hm
        · exact hc hm.symm
        · exact hq hm
      · exact ih (List.mem_cons_of_mem _ h)

theorem splitSlash_of_not_mem {cs : List Char} (h : '/' ∉ cs) : splitSlash cs = [cs] := by
  induction cs with
  | nil => rfl
  | cons c cs ih =>
    rw [List.mem_cons, not_or] at h
    exact splitSlash_cons_of_ne (Ne.symm h.1) (ih h.2)

theorem eq_nil_of_mem_splitSlash {cs p : List Char} (h : ∀ c ∈ cs, c = '/')
    (hp : p ∈ splitSlash cs) : p = [] := by
  induction cs with
  | nil => exact List.mem_singleton.mp hp
  | cons c cs ih =>
    rw [List.forall_mem_cons] at h
    rw [splitSlash, if_pos h.1] at hp
    rcases List.mem_cons.mp hp with hp | hp
    · exact hp
    · exact ih h.2 hp

theorem parts_append_slash (a b : String) : parts (a ++ "/" ++ b) = parts a ++ parts b := by
  have happ : (a ++ "/" ++ b).toList = a.toList ++ '/' :: b.toList := by simp
  rw [parts, happ, splitSlash_append_slash, List.map_append]
  rfl

theorem slash_not_mem_of_mem_parts {path part : String} (h : part ∈ parts path) :
    '/' ∉ part.toList := by
  obtain ⟨p, hp, rfl⟩ := List.mem_map.mp h
  rw [String.toList_ofList]
  exact slash_not_mem_of_mem_splitSlash hp

/-- Splitting undoes joining. -/
theorem parts_intercalate {ps : List String} (hne : ps ≠ []) (h : ∀ p ∈ ps, '/' ∉ p.toList) :
    parts ("/".intercalate ps) = ps := by
  induction ps with
  | nil => exact absurd rfl hne
  | cons p ps ih =>
    rw [List.forall_mem_cons] at h
    have hp : parts p = [p] := by
      rw [parts, splitSlash_of_not_mem h.1]
      simp
    cases ps with
    | nil => rwa [String.intercalate_singleton]
    | cons q ps =>
      rw [String.intercalate_cons_cons, parts_append_slash, hp, ih (List.cons_ne_nil _ _) h.2]
      rfl

theorem parts_slash_append (path : String) : parts ("/" ++ path) = "" :: parts path := by
  have happ : ("/" ++ path).toList = '/' :: path.toList := by simp
  rw [parts, happ, splitSlash, if_pos rfl]
  rfl

theorem isAbsolute_slash_append (path : String) : isAbsolute ("/" ++ path) = true := by
  simp [isAbsolute]

/-- A path from the root has an empty part in front. -/
theorem empty_mem_parts_of_isAbsolute {path : String} (h : isAbsolute path = true) :
    "" ∈ parts path := by
  rw [isAbsolute, decide_eq_true_eq] at h
  obtain ⟨cs, hcs⟩ := List.head?_eq_some_iff.mp h
  rw [parts, hcs, splitSlash, if_pos rfl]
  exact List.mem_cons_self

theorem isAbsolute_append {a : String} (h : a ≠ "") (b : String) :
    isAbsolute (a ++ b) = isAbsolute a := by
  have hne : a.toList ≠ [] := fun hn => h (String.toList_eq_nil_iff.mp hn)
  obtain ⟨c, cs, hcs⟩ := List.exists_cons_of_ne_nil hne
  rw [isAbsolute, isAbsolute, String.toList_append, hcs]
  rfl

/-! ## Clean paths -/

/-- What one more part does to a path that is cleaned: it leads nowhere, it is a step up from the
start, after another step up or back over a name, or it is a name. -/
theorem pushPart_cases (absolute : Bool) (before : List String) (part : String) :
    (part = "" ∨ part = ".") ∧ pushPart absolute before part = before ∨
    part = ".." ∧ before = [] ∧
      pushPart absolute before part = (if absolute then [] else [".."]) ∨
    part = ".." ∧ (∃ rest, before = ".." :: rest) ∧
      pushPart absolute before part = ".." :: before ∨
    part = ".." ∧ (∃ q, q ≠ ".." ∧ before = q :: pushPart absolute before part) ∨
    (part ≠ "" ∧ part ≠ ".") ∧ part ≠ ".." ∧ pushPart absolute before part = part :: before := by
  by_cases hstay : part = "" ∨ part = "."
  · have hpush : pushPart absolute before part = before := by
      rw [pushPart.eq_def, if_pos (by simpa using hstay)]
    exact .inl ⟨hstay, hpush⟩
  have hgo : ¬ (decide (part = "") || decide (part = ".")) = true := by simpa using hstay
  by_cases hup : part = ".."
  · subst hup
    cases before with
    | nil => exact .inr (.inl ⟨rfl, rfl, rfl⟩)
    | cons q rest =>
      by_cases hq : q = ".."
      · subst hq
        exact .inr (.inr (.inl ⟨rfl, ⟨rest, rfl⟩, rfl⟩))
      · have hpush : pushPart absolute (q :: rest) ".." = rest := by
          rw [pushPart.eq_def, if_neg hgo, if_pos rfl]
          exact if_neg hq
        exact .inr (.inr (.inr (.inl ⟨rfl, q, hq, by rw [hpush]⟩)))
  · have hpush : pushPart absolute before part = part :: before := by
      rw [pushPart.eq_def, if_neg hgo, if_neg hup]
    exact .inr (.inr (.inr (.inr ⟨not_or.mp hstay, hup, hpush⟩)))

/-- One more part adds itself or nothing, and nothing if it leads nowhere. -/
theorem mem_pushPart {absolute : Bool} {before : List String} {part q : String}
    (h : q ∈ pushPart absolute before part) : q ∈ before ∨ q = part ∧ q ≠ "" ∧ q ≠ "." := by
  rcases pushPart_cases absolute before part with
    ⟨_, he⟩ | ⟨rfl, _, he⟩ | ⟨rfl, _, he⟩ | ⟨rfl, p, _, he⟩ | ⟨hname, _, he⟩
  · exact .inl (he ▸ h)
  · rw [he] at h
    split_ifs at h
    · exact absurd h List.not_mem_nil
    · rw [List.mem_singleton.mp h]
      exact .inr ⟨rfl, by decide, by decide⟩
  · rw [he] at h
    rcases List.mem_cons.mp h with rfl | h
    · exact .inr ⟨rfl, by decide, by decide⟩
    · exact .inl h
  · rw [he]
    exact .inl (List.mem_cons_of_mem _ h)
  · rw [he] at h
    rcases List.mem_cons.mp h with rfl | h
    · exact .inr ⟨rfl, hname⟩
    · exact .inl h

/-- Cleaning adds no parts, and drops those that lead nowhere. -/
theorem mem_foldl_pushPart {absolute : Bool} {ps before : List String} {q : String}
    (h : q ∈ ps.foldl (pushPart absolute) before) :
    q ∈ before ∨ q ∈ ps ∧ q ≠ "" ∧ q ≠ "." := by
  induction ps generalizing before with
  | nil => exact .inl h
  | cons p ps ih =>
    rcases ih h with hq | ⟨hq, hname⟩
    · rcases mem_pushPart hq with hq | ⟨rfl, hname⟩
      · exact .inl hq
      · exact .inr ⟨List.mem_cons_self, hname⟩
    · exact .inr ⟨List.mem_cons_of_mem _ hq, hname⟩

theorem mem_cleanParts {path q : String} (h : q ∈ cleanParts path) :
    '/' ∉ q.toList ∧ q ≠ "" ∧ q ≠ "." := by
  rw [cleanParts, List.mem_reverse] at h
  rcases mem_foldl_pushPart h with h | ⟨h, hname⟩
  · exact absurd h List.not_mem_nil
  · exact ⟨slash_not_mem_of_mem_parts h, hname⟩

/-- The name leads out of the directory it is looked up in: a step up is left of its parts when
they are cleaned. -/
def climbs (name : String) : Bool := ((parts name).foldl (pushPart false) []).contains ".."

end Path

namespace FileSystem

/-! ## Places -/

theorem step_of_name {p : Place} {part : String} (h : part ≠ "" ∧ part ≠ ".")
    (hup : part ≠ "..") : step p part = p ++ [part] := by
  rw [step, if_neg (by simp [h]), if_neg hup]

theorem foldl_step_names {ps : List String} (h : ∀ q ∈ ps, q ≠ "" ∧ q ≠ ".") (hup : ".." ∉ ps)
    (p : Place) : ps.foldl step p = p ++ ps := by
  induction ps generalizing p with
  | nil => simp
  | cons q ps ih =>
    rw [List.forall_mem_cons] at h
    rw [List.mem_cons, not_or] at hup
    rw [List.foldl_cons, ih h.2 hup.2, step_of_name h.1 (Ne.symm hup.1)]
    simp

theorem foldl_step_empty {ps : List String} (h : ∀ q ∈ ps, q = "") (p : Place) :
    ps.foldl step p = p := by
  induction ps with
  | nil => rfl
  | cons q ps ih =>
    rw [List.forall_mem_cons] at h
    rw [List.foldl_cons, h.1, step, if_pos (by simp), ih h.2]

/-- One more part of a path that is cleaned is one step further, from the root if the path starts
there. -/
theorem foldl_step_pushPart {absolute : Bool} {p : Place} (habs : absolute = true → p = [])
    {before : List String} (hb : ∀ q ∈ before, q ≠ "" ∧ q ≠ ".") (part : String) :
    (Path.pushPart absolute before part).reverse.foldl step p =
      step (before.reverse.foldl step p) part := by
  rcases Path.pushPart_cases absolute before part with
    ⟨hstay, he⟩ | ⟨rfl, rfl, he⟩ | ⟨rfl, ⟨rest, rfl⟩, he⟩ | ⟨rfl, q, hq, he⟩ | ⟨hname, hup, he⟩
  · rw [he, step, if_pos (by simpa using hstay)]
  · rw [he]
    cases absolute with
    | true =>
      rw [habs rfl]
      rfl
    | false => rfl
  · rw [he, List.reverse_cons, List.foldl_append]
    rfl
  · -- the name that the step leads back over is the last one of the place
    have hback : before.reverse.foldl step p =
        (Path.pushPart absolute before "..").reverse.foldl step p ++ [q] := by
      rw [he] at hb
      conv_lhs => rw [he]
      rw [List.reverse_cons, List.foldl_append, List.foldl_cons, List.foldl_nil,
        step_of_name (hb q List.mem_cons_self) hq]
    rw [hback, step, if_neg (by decide), if_pos rfl, List.dropLast_concat]
  · rw [he, List.reverse_cons, List.foldl_append, List.foldl_cons, List.foldl_nil]

/-- **Clean parts lead to where the parts lead.** -/
theorem foldl_step_cleaned {absolute : Bool} {p : Place} (habs : absolute = true → p = [])
    (ps : List String) :
    ∀ {before : List String}, (∀ q ∈ before, q ≠ "" ∧ q ≠ ".") →
      (ps.foldl (Path.pushPart absolute) before).reverse.foldl step p =
        ps.foldl step (before.reverse.foldl step p) := by
  induction ps with
  | nil => exact fun _ => rfl
  | cons part ps ih =>
    intro before hb
    have hpush : ∀ q ∈ Path.pushPart absolute before part, q ≠ "" ∧ q ≠ "." := by
      intro q hq
      rcases Path.mem_pushPart hq with hq | ⟨_, hname⟩
      · exact hb q hq
      · exact hname
    rw [List.foldl_cons, ih hpush, foldl_step_pushPart habs hb, List.foldl_cons]

variable (fs : FileSystem)

/-- The place a path leads to, if it leads anywhere. -/
def place (path : String) : Place :=
  (Path.parts path).foldl step (if Path.isAbsolute path then [] else fs.current)

/-- **Cleaning a path does not change where it leads.** -/
theorem place_clean (path : String) : fs.place (Path.clean path) = fs.place path := by
  have hparts : ∀ q ∈ Path.cleanParts path, '/' ∉ q.toList := fun q hq =>
    (Path.mem_cleanParts hq).1
  have hnil : Path.cleanParts path ≠ [] →
      Path.parts ("/".intercalate (Path.cleanParts path)) = Path.cleanParts path := fun hne =>
    Path.parts_intercalate hne hparts
  have hfold : (Path.cleanParts path).foldl step (if Path.isAbsolute path then [] else fs.current) =
      fs.place path := by
    refine foldl_step_cleaned ?_ (Path.parts path) (fun q hq => absurd hq List.not_mem_nil)
    intro habs
    rw [if_pos habs]
  rw [Path.clean]
  by_cases habs : Path.isAbsolute path = true
  · rw [if_pos habs] at hfold ⊢
    rw [place, Path.isAbsolute_slash_append, Path.parts_slash_append, List.foldl_cons, if_pos rfl]
    by_cases hne : Path.cleanParts path = []
    · rw [hne] at hfold ⊢
      exact hfold
    · rw [hnil hne]
      exact hfold
  · rw [if_neg habs] at hfold ⊢
    by_cases hne : Path.cleanParts path = []
    · rw [hne] at hfold ⊢
      exact hfold
    · have hrel : Path.isAbsolute ("/".intercalate (Path.cleanParts path)) = false := by
        rw [Bool.eq_false_iff]
        intro h
        have hmem := Path.empty_mem_parts_of_isAbsolute h
        rw [hnil hne] at hmem
        exact (Path.mem_cleanParts hmem).2.1 rfl
      rw [if_neg (by simpa using hne), place, hrel, if_neg nofun, hnil hne]
      exact hfold

/-- **A name in a directory** leads on from where the directory is. -/
theorem place_join {dir : String} (hdir : dir ≠ "") (name : String) :
    fs.place (Path.join dir name) = (Path.parts name).foldl step (fs.place dir) := by
  rw [Path.join, place_clean, place, Path.parts_append_slash, List.foldl_append,
    String.append_assoc, Path.isAbsolute_append hdir]
  rfl

/-- **A name that does not climb stays below its directory.** -/
theorem place_isPrefix_place_join {dir name : String} (hdir : dir ≠ "")
    (h : Path.climbs name = false) : fs.place dir <+: fs.place (Path.join dir name) := by
  have hup : ".." ∉ ((Path.parts name).foldl (Path.pushPart false) []).reverse := by
    rw [List.mem_reverse]
    intro hm
    rw [Path.climbs, List.contains_iff_mem.mpr hm] at h
    cases h
  have hnames : ∀ q ∈ ((Path.parts name).foldl (Path.pushPart false) []).reverse,
      q ≠ "" ∧ q ≠ "." := by
    intro q hq
    rcases Path.mem_foldl_pushPart (List.mem_reverse.mp hq) with hq | ⟨_, hq⟩
    · exact absurd hq List.not_mem_nil
    · exact hq
  have hclean : ((Path.parts name).foldl (Path.pushPart false) []).reverse.foldl step
      (fs.place dir) = (Path.parts name).foldl step (fs.place dir) :=
    foldl_step_cleaned (by simp) (Path.parts name) (by simp)
  rw [foldl_step_names hnames hup] at hclean
  rw [place_join fs hdir]
  exact ⟨_, hclean⟩

/-- Slashes at the end of a path do not matter. -/
theorem place_trimSlashes {path : String} (h : trimSlashes path ≠ "") :
    fs.place (trimSlashes path) = fs.place path := by
  have hsplit : path.toList = (trimSlashes path).toList ++
      (path.toList.reverse.takeWhile (· = '/')).reverse := by
    rw [trimSlashes, String.toList_ofList, ← List.reverse_append, List.takeWhile_append_dropWhile,
      List.reverse_reverse]
  have hslash : ∀ c ∈ (path.toList.reverse.takeWhile (· = '/')).reverse, c = '/' := by
    intro c hc
    simpa using List.mem_takeWhile_imp (List.mem_reverse.mp hc)
  generalize (path.toList.reverse.takeWhile (· = '/')).reverse = slashes at hsplit hslash
  have hpath : path = trimSlashes path ++ String.ofList slashes := by
    apply String.toList_inj.mp
    rw [String.toList_append, String.toList_ofList]
    exact hsplit
  have habs : Path.isAbsolute path = Path.isAbsolute (trimSlashes path) := by
    conv_lhs => rw [hpath]
    exact Path.isAbsolute_append h _
  rw [place, place, habs]
  cases slashes with
  | nil =>
    rw [List.append_nil] at hsplit
    rw [Path.parts, Path.parts, hsplit]
  | cons c cs =>
    rw [List.forall_mem_cons] at hslash
    have hparts : Path.parts path = Path.parts (trimSlashes path) ++
        (Path.splitSlash cs).map String.ofList := by
      rw [Path.parts, hsplit, hslash.1, Path.splitSlash_append_slash, List.map_append]
      rfl
    have hempty : ∀ q ∈ (Path.splitSlash cs).map String.ofList, q = "" := by
      intro q hq
      obtain ⟨piece, hpiece, rfl⟩ := List.mem_map.mp hq
      rw [Path.eq_nil_of_mem_splitSlash hslash.2 hpiece, String.ofList_nil]
    rw [hparts, List.foldl_append, foldl_step_empty hempty]

/-! ## Paths that lead somewhere -/

theorem eq_foldl_of_walk {fs : FileSystem} {p q : Place} {ps : List String}
    (h : fs.walk p ps = .ok q) : q = ps.foldl step p := by
  induction ps generalizing p with
  | nil =>
    cases h
    rfl
  | cons part ps ih =>
    rw [walk] at h
    split at h
    · cases h
    · cases h
    · split_ifs at h
      exact ih h

theorem eq_place_of_resolve {fs : FileSystem} {path : String} {p : Place}
    (h : fs.resolve path = .ok p) : path ≠ "" ∧ p = fs.place path := by
  rw [resolve] at h
  by_cases hempty : path = ""
  · rw [if_pos hempty] at h
    cases h
  · rw [if_neg hempty] at h
    by_cases hnul : path.toList.contains '\x00' = true
    · rw [if_pos hnul] at h
      cases h
    · rw [if_neg hnul] at h
      exact ⟨hempty, eq_foldl_of_walk h⟩

end FileSystem

end PhpDecl
