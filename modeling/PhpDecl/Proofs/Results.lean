import PhpDecl.Render.Traced

/-!
# Results without their notes

Most facts about rendering concern the result alone.

* `Traced.result_bind`, `Traced.result_within_eq_ok` and their companions: results of composed
  steps;
* `Traced.succeeds`: there is a value, with `Traced.succeeds_bind`;
* `Traced.Gives`: every value has a property, with `Traced.Gives.bind`;
* `Traced.Alike`: two results that are related values, or the same fault of the tree; it passes
  through sequencing (`Traced.Alike.bind`) and through the naming of declarations
  (`Traced.Alike.within`).
-/

namespace PhpDecl.Traced

variable {α β γ δ : Type}

/-! ## Results of composed steps -/

@[simp] theorem result_ok (a : α) : (ok a).result = .ok a := rfl

@[simp] theorem result_note (n : Note) : (note n).result = .ok () := rfl

theorem result_bind (x : Traced α) (f : α → Traced β) :
    (x >>= f).result = x.result.bind fun a => (f a).result := by
  change (x.andThen f).result = _
  unfold andThen
  cases x.result <;> rfl

theorem result_bind_ok {x : Traced α} {a : α} (h : x.result = .ok a) (f : α → Traced β) :
    (x >>= f).result = (f a).result := by
  rw [result_bind, h]
  rfl

theorem result_bind_error {x : Traced α} {e : Failure} (h : x.result = .error e)
    (f : α → Traced β) : (x >>= f).result = .error e := by
  rw [result_bind, h]
  rfl

theorem result_bind_eq_ok {x : Traced α} {f : α → Traced β} {b : β} :
    (x >>= f).result = .ok b ↔ ∃ a, x.result = .ok a ∧ (f a).result = .ok b := by
  rw [result_bind]
  cases x.result with
  | error e =>
    constructor
    · exact fun h => nomatch h
    · rintro ⟨_, h, _⟩
      cases h
  | ok a =>
    constructor
    · exact fun h => ⟨a, rfl, h⟩
    · rintro ⟨_, ha, h⟩
      cases ha
      exact h

/-- The notes of the first step do not matter to the result of the second. -/
theorem result_note_bind (n : Note) (x : Traced α) : (note n >>= fun _ => x).result = x.result :=
  result_bind_ok (result_note n) _

theorem result_within_ok {x : Traced α} {a : α} (h : x.result = .ok a)
    (wrap : TreeError → TreeError) : (x.within wrap).result = .ok a := by
  unfold within
  rw [h]
  exact h

theorem result_within_malformed {x : Traced α} {c : TreeError}
    (h : x.result = .error (.malformed c)) (wrap : TreeError → TreeError) :
    (x.within wrap).result = .error (.malformed (wrap c)) := by
  unfold within
  rw [h]

theorem result_within_eq_ok {x : Traced α} {wrap : TreeError → TreeError} {a : α} :
    (x.within wrap).result = .ok a ↔ x.result = .ok a := by
  refine ⟨fun h => ?_, fun h => result_within_ok h wrap⟩
  unfold within at h
  split at h
  · exact nomatch h
  · exact h

/-! ## Values -/

/-- There is a value. -/
def succeeds (x : Traced α) : Bool := x.result.toBool

theorem succeeds_iff {x : Traced α} : x.succeeds = true ↔ ∃ a, x.result = .ok a := by
  unfold succeeds
  cases x.result with
  | error e => exact ⟨nofun, nofun⟩
  | ok a => exact ⟨fun _ => ⟨a, rfl⟩, fun _ => rfl⟩

@[simp] theorem succeeds_pure (a : α) : (pure a : Traced α).succeeds = true := rfl

@[simp] theorem succeeds_malformed (c : TreeError) :
    (malformed c : Traced α).succeeds = false := rfl

theorem succeeds_within (x : Traced α) (wrap : TreeError → TreeError) :
    (x.within wrap).succeeds = x.succeeds := by
  rw [Bool.eq_iff_iff, succeeds_iff, succeeds_iff]
  exact exists_congr fun _ => result_within_eq_ok

theorem succeeds_bind_ok {x : Traced α} {a : α} (h : x.result = .ok a) (f : α → Traced β) :
    (x >>= f).succeeds = (f a).succeeds :=
  congrArg Except.toBool (result_bind_ok h f)

/-- Two steps have a value if both do, where the second one's success does not depend on the value
of the first. -/
theorem succeeds_bind {x : Traced α} {f : α → Traced β} {b : Bool}
    (hf : ∀ a, (f a).succeeds = b) : (x >>= f).succeeds = (x.succeeds && b) := by
  unfold succeeds at hf ⊢
  rw [result_bind]
  cases x.result with
  | error e => rfl
  | ok a => exact hf a

/-- A last step that always has a value does not matter to success. -/
theorem succeeds_bind_pure (x : Traced α) (f : α → β) :
    (x >>= fun a => pure (f a)).succeeds = x.succeeds := by
  rw [succeeds_bind fun a => succeeds_pure (f a), Bool.and_true]

/-- Every value has the property. -/
def Gives (x : Traced α) (P : α → Prop) : Prop := ∀ a, x.result = .ok a → P a

theorem Gives.any {x : Traced α} : x.Gives fun _ => True := fun _ _ => trivial

theorem Gives.pure {a : α} {P : α → Prop} (h : P a) : (Pure.pure a : Traced α).Gives P := by
  intro b hb
  cases hb
  exact h

theorem Gives.malformed {c : TreeError} {P : α → Prop} : (malformed c : Traced α).Gives P :=
  fun _ h => nomatch h

theorem Gives.bind {x : Traced α} {f : α → Traced β} {P : α → Prop} {Q : β → Prop}
    (hx : x.Gives P) (hf : ∀ a, P a → (f a).Gives Q) : (x >>= f).Gives Q := by
  intro b h
  obtain ⟨a, ha, hb⟩ := result_bind_eq_ok.mp h
  exact hf a (hx a ha) b hb

theorem Gives.mono {x : Traced α} {P Q : α → Prop} (hx : x.Gives P) (h : ∀ a, P a → Q a) :
    x.Gives Q :=
  fun a ha => h a (hx a ha)

theorem Gives.within {x : Traced α} {P : α → Prop} (hx : x.Gives P)
    (wrap : TreeError → TreeError) : (x.within wrap).Gives P :=
  fun a h => hx a (result_within_eq_ok.mp h)

theorem Gives.congr {x y : Traced α} {P : α → Prop} (hy : y.Gives P) (h : x.result = y.result) :
    x.Gives P :=
  fun a ha => hy a (h ▸ ha)

/-! ## Alike results -/

/-- Two outcomes that are related values, or the same fault of a tree. -/
inductive Agree (R : α → β → Prop) : Except Failure α → Except Failure β → Prop
  | ok {a : α} {b : β} (h : R a b) : Agree R (.ok a) (.ok b)
  | malformed (c : TreeError) : Agree R (.error (.malformed c)) (.error (.malformed c))

/-- Two steps whose results agree. -/
def Alike (R : α → β → Prop) (x : Traced α) (y : Traced β) : Prop := Agree R x.result y.result

namespace Alike

variable {R : α → β → Prop} {S : γ → δ → Prop}

theorem pure {a : α} {b : β} (h : R a b) : Alike R (Pure.pure a) (Pure.pure b) := .ok h

theorem malformed (c : TreeError) : Alike R (Traced.malformed c) (Traced.malformed c) :=
  Agree.malformed c

/-- **Alike steps with alike continuations are alike.** -/
theorem bind {x : Traced α} {y : Traced β} {f : α → Traced γ} {g : β → Traced δ}
    (h : Alike R x y) (hf : ∀ a b, R a b → Alike S (f a) (g b)) :
    Alike S (x >>= f) (y >>= g) := by
  unfold Alike at h hf ⊢
  rw [result_bind, result_bind]
  cases hx : x.result <;> cases hy : y.result <;> rw [hx, hy] at h <;> cases h
  · exact .malformed _
  · exact hf _ _ ‹_›

theorem bind_pure_left {T : γ → β → Prop} {x : Traced α} {y : Traced β} {f : α → γ}
    (h : Alike R x y) (hf : ∀ a b, R a b → T (f a) b) :
    Alike T (x >>= fun a => Pure.pure (f a)) y := by
  unfold Alike at h ⊢
  rw [result_bind]
  cases hx : x.result <;> cases hy : y.result <;> rw [hx, hy] at h <;> cases h
  · exact .malformed _
  · exact .ok (hf _ _ ‹_›)

theorem within {x : Traced α} {y : Traced β} (h : Alike R x y) (wrap : TreeError → TreeError) :
    Alike R (x.within wrap) (y.within wrap) := by
  unfold Alike at h ⊢
  cases hx : x.result <;> cases hy : y.result <;> rw [hx, hy] at h <;> cases h
  · rw [result_within_malformed hx, result_within_malformed hy]
    exact .malformed _
  · rw [result_within_ok hx, result_within_ok hy]
    exact .ok ‹_›

theorem mono {R' : α → β → Prop} {x : Traced α} {y : Traced β} (h : Alike R x y)
    (hR : ∀ a b, R a b → R' a b) : Alike R' x y := by
  obtain ⟨_, x⟩ := x
  obtain ⟨_, y⟩ := y
  cases h with
  | ok h => exact .ok (hR _ _ h)
  | malformed c => exact .malformed c

theorem symm {x : Traced α} {y : Traced β} (h : Alike R x y) : Alike (fun b a => R a b) y x := by
  obtain ⟨_, x⟩ := x
  obtain ⟨_, y⟩ := y
  cases h with
  | ok h => exact .ok h
  | malformed c => exact .malformed c

theorem trans {T : α → γ → Prop} {S' : β → γ → Prop} {x : Traced α} {y : Traced β} {z : Traced γ}
    (h : Alike R x y) (h' : Alike S' y z) (hT : ∀ a b c, R a b → S' b c → T a c) :
    Alike T x z := by
  obtain ⟨_, x⟩ := x
  obtain ⟨_, y⟩ := y
  obtain ⟨_, z⟩ := z
  cases h with
  | ok h => cases h' with
    | ok h' => exact .ok (hT _ _ _ h h')
  | malformed c => cases h' with
    | malformed => exact .malformed c

theorem exists_ok {x : Traced α} {y : Traced β} {a : α} (h : Alike R x y)
    (hx : x.result = .ok a) : ∃ b, y.result = .ok b ∧ R a b := by
  unfold Alike at h
  rw [hx] at h
  generalize y.result = r at h
  cases h with
  | ok h => exact ⟨_, rfl, h⟩

/-- A step that is like another fails only because of the tree. -/
theorem exists_malformed {x : Traced α} {y : Traced β} {e : Failure} (h : Alike R x y)
    (hx : x.result = .error e) : ∃ c, e = .malformed c := by
  unfold Alike at h
  rw [hx] at h
  generalize y.result = r at h
  cases h with
  | malformed c => exact ⟨c, rfl⟩

/-- A step that is like itself has a value that is like itself. -/
theorem self {R : α → α → Prop} {x : Traced α} {a : α} (h : Alike R x x)
    (hx : x.result = .ok a) : R a a := by
  obtain ⟨b, hb, h⟩ := h.exists_ok hx
  cases hx.symm.trans hb
  exact h

theorem succeeds_eq {x : Traced α} {y : Traced β} (h : Alike R x y) :
    x.succeeds = y.succeeds := by
  obtain ⟨_, x⟩ := x
  obtain ⟨_, y⟩ := y
  cases h <;> rfl

theorem congr {x x' : Traced α} {y y' : Traced β} (h : Alike R x' y')
    (hx : x.result = x'.result) (hy : y.result = y'.result) : Alike R x y := by
  unfold Alike at h ⊢
  rw [hx, hy]
  exact h

end Alike

end PhpDecl.Traced
