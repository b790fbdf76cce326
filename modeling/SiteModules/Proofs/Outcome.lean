namespace SiteModules.Except

variable {ε ε' α β : Type} {x : Except ε α} {y : β}

theorem bind_eq_ok_iff {f : α → Except ε β} : x >>= f = .ok y ↔ ∃ z, x = .ok z ∧ f z = .ok y := by
  cases x <;> simp [bind, Except.bind]

theorem map_eq_ok_iff {f : α → β} : f <$> x = .ok y ↔ ∃ z, x = .ok z ∧ f z = y := by
  cases x <;> simp [Functor.map, Except.map]

@[simp] theorem mapError_ok {f : ε → ε'} (a : α) :
    (.ok a : Except ε α).mapError f = .ok a := rfl

@[simp] theorem mapError_error {f : ε → ε'} (e : ε) :
    (.error e : Except ε α).mapError f = .error (f e) := rfl

theorem toOption_eq_some_iff {a : α} : x.toOption = some a ↔ x = .ok a := by
  cases x <;> simp [Except.toOption]

theorem mapError_eq_ok_iff {f : ε → ε'} {z : α} : x.mapError f = .ok z ↔ x = .ok z := by
  cases x <;> simp

theorem mapError_eq_error_iff {f : ε → ε'} {e : ε'} :
    x.mapError f = .error e ↔ ∃ g, x = .error g ∧ f g = e := by
  cases x <;> simp

def Fails (p : ε → Prop) (x : Except ε α) : Prop := ∃ e, x = .error e ∧ p e

variable {p : ε → Prop}

@[simp] theorem not_fails_ok (a : α) : ¬Fails p (.ok a : Except ε α) := by
  rintro ⟨e, h, -⟩
  cases h

@[simp] theorem fails_error_iff {e : ε} : Fails p (.error e : Except ε α) ↔ p e := by
  simp [Fails]

theorem fails_bind_iff {f : α → Except ε β} :
    Fails p (x >>= f) ↔ Fails p x ∨ ∃ z, x = .ok z ∧ Fails p (f z) := by
  cases x <;> simp [bind, Except.bind]

theorem fails_ok_bind_iff {f : α → Except ε β} {a : α} :
    Fails p (.ok a >>= f) ↔ Fails p (f a) := Iff.rfl

theorem fails_error_bind_iff {f : α → Except ε β} {e : ε} : Fails p (.error e >>= f) ↔ p e :=
  fails_error_iff

theorem fails_bind_iff_of_not_fails {f : α → Except ε β} (hf : ∀ z, ¬Fails p (f z)) :
    Fails p (x >>= f) ↔ Fails p x := by
  cases x with
  | error e => rw [fails_error_bind_iff, fails_error_iff]
  | ok z => exact iff_of_false (hf z) (not_fails_ok z)

theorem fails_bind_pure_iff {f : α → β} :
    Fails p (x >>= fun z => pure (f z)) ↔ Fails p x :=
  fails_bind_iff_of_not_fails fun z => not_fails_ok (f z)

theorem not_fails_bind {f : α → Except ε β} (hx : ¬Fails p x) (hf : ∀ z, ¬Fails p (f z)) :
    ¬Fails p (x >>= f) := by
  rw [fails_bind_iff_of_not_fails hf]
  exact hx

theorem fails_mapError_iff {q : ε' → Prop} {f : ε → ε'} :
    Fails q (x.mapError f) ↔ Fails (fun e => q (f e)) x := by
  cases x <;> simp

theorem fails_iff_of_not_fails (h : ¬Fails (fun e => ¬p e) x) :
    Fails p x ↔ ¬∃ z, x = .ok z := by
  cases x with
  | ok z => simp
  | error e => simpa using h

theorem not_fails_mapM {f : α → Except ε β} (hf : ∀ a, ¬Fails p (f a)) (as : List α) :
    ¬Fails p (as.mapM f) := by
  induction as with
  | nil => exact not_fails_ok []
  | cons a as ih =>
    rw [List.mapM_cons]
    apply not_fails_bind (hf a)
    intro b
    apply not_fails_bind ih
    intro bs
    exact not_fails_ok (b :: bs)

theorem exists_mapM_eq_ok_iff {f : α → Except ε β} {as : List α} :
    (∃ bs, as.mapM f = .ok bs) ↔ ∀ a ∈ as, ∃ b, f a = .ok b := by
  induction as with
  | nil => simp [pure, Except.pure]
  | cons a as ih =>
    rw [List.mapM_cons, List.forall_mem_cons, ← ih]
    constructor
    · rintro ⟨bs, h⟩
      obtain ⟨b, hb, h⟩ := bind_eq_ok_iff.1 h
      obtain ⟨rest, hrest, -⟩ := bind_eq_ok_iff.1 h
      exact ⟨⟨b, hb⟩, rest, hrest⟩
    · rintro ⟨⟨b, hb⟩, rest, hrest⟩
      exact ⟨b :: rest, bind_eq_ok_iff.2 ⟨b, hb, bind_eq_ok_iff.2 ⟨rest, hrest, rfl⟩⟩⟩

end SiteModules.Except
