import Mathlib.Data.List.Forall2

/-!
# Successful computations

What is known of the parts of a computation that may fail when the whole has succeeded.
-/

namespace ScriptMachine

variable {ε α β : Type}

theorem bind_eq_ok {x : Except ε α} {f : α → Except ε β} {b : β} (h : (x >>= f) = .ok b) :
    ∃ a, x = .ok a ∧ f a = .ok b := by
  cases x with
  | error e => cases h
  | ok a => exact ⟨a, rfl, h⟩

theorem map_eq_ok {x : Except ε α} {f : α → β} {b : β} (h : f <$> x = .ok b) :
    ∃ a, x = .ok a ∧ b = f a := by
  cases x with
  | error e => cases h
  | ok a =>
    cases h
    exact ⟨a, rfl, rfl⟩

theorem optionMapM_eq_ok {f : α → Except ε β} {o : Option α} {o' : Option β}
    (h : o.mapM f = .ok o') :
    o = none ∧ o' = none ∨ ∃ a b, o = some a ∧ o' = some b ∧ f a = .ok b := by
  cases o with
  | none =>
    cases h
    exact .inl ⟨rfl, rfl⟩
  | some a =>
    obtain ⟨b, hb, rfl⟩ := map_eq_ok h
    exact .inr ⟨a, b, rfl, rfl, hb⟩

theorem mapM_eq_ok_iff {f : α → Except ε β} {l : List α} {ys : List β} :
    l.mapM f = .ok ys ↔ List.Forall₂ (fun x y => f x = .ok y) l ys := by
  induction l generalizing ys with
  | nil =>
    rw [List.mapM_nil, List.forall₂_nil_left_iff]
    exact ⟨fun h => (Except.ok.inj h).symm, fun h => h ▸ rfl⟩
  | cons x rest ih =>
    rw [List.mapM_cons, List.forall₂_cons_left_iff]
    constructor
    · intro h
      obtain ⟨y, hx, h⟩ := bind_eq_ok h
      obtain ⟨tail, hrest, h⟩ := bind_eq_ok h
      cases h
      exact ⟨y, tail, hx, ih.1 hrest, rfl⟩
    · rintro ⟨y, tail, hx, hrest, rfl⟩
      rw [hx, ih.2 hrest]
      rfl

/-- Lists that are related place by place have something at the same places. -/
theorem getElem?_of_forall₂ {R : α → β → Prop} {l : List α} {l' : List β} (h : List.Forall₂ R l l')
    {i : Nat} {x : α} (hx : l[i]? = some x) : ∃ y, l'[i]? = some y ∧ R x y := by
  induction h generalizing i with
  | nil => simp at hx
  | cons hab _ ih =>
    cases i with
    | zero =>
      cases hx
      exact ⟨_, rfl, hab⟩
    | succ i => exact ih hx

end ScriptMachine
