import Mathlib

/-!
# When a computation that may fail succeeds

Checks and decoders are sequences of steps that each may fail. Such a sequence succeeds
exactly if every step does, so a proof about a success takes it apart with the lemmas here
and never looks at a failure. It fails where the first step does that fails, and that step is
found in the same way.

## Main results

* `bind_iff`, `map_iff`, `mapError_iff`, `mapM_iff` — what a success is made of.
* `bind_error_iff`, `forM_error_iff` — which step a failure comes from.
-/

namespace CrateGraph.Success

variable {ε ε' : Type u} {α β : Type v}

theorem bind_iff (x : Except ε α) (f : α → Except ε β) (b : β) :
    (x >>= f) = .ok b ↔ ∃ a, x = .ok a ∧ f a = .ok b := by
  cases x <;> simp [bind, Except.bind]

theorem bind_error_iff (x : Except ε α) (f : α → Except ε β) (e : ε) :
    (x >>= f) = .error e ↔ x = .error e ∨ ∃ a, x = .ok a ∧ f a = .error e := by
  cases x <;> simp [bind, Except.bind]

theorem map_iff (x : Except ε α) (f : α → β) (b : β) :
    x.map f = .ok b ↔ ∃ a, x = .ok a ∧ f a = b := by
  cases x <;> simp [Except.map]

theorem mapError_iff (x : Except ε α) (f : ε → ε') (a : α) :
    x.mapError f = .ok a ↔ x = .ok a := by
  cases x <;> simp [Except.mapError]

/-- Every item of a list is turned into a value, in the order of the items. -/
theorem mapM_iff (f : α → Except ε β) (items : List α) (out : List β) :
    items.mapM f = .ok out ↔ List.Forall₂ (fun a b => f a = .ok b) items out := by
  induction items generalizing out with
  | nil => simp [pure, Except.pure, eq_comm]
  | cons a items ih =>
      rw [List.mapM_cons, bind_iff, List.forall₂_cons_left_iff]
      simp only [bind_iff, ih]
      constructor
      · rintro ⟨b, hb, bs, hbs, h⟩
        cases h
        exact ⟨b, bs, hb, hbs, rfl⟩
      · rintro ⟨b, bs, hb, hbs, rfl⟩
        exact ⟨b, hb, bs, hbs, rfl⟩

/-! ## Checks of one item after the other -/

theorem forM_ok_iff (f : α → Except ε Unit) (l : List α) :
    forM l f = .ok () ↔ ∀ a ∈ l, f a = .ok () := by
  induction l with
  | nil => simp [pure, Except.pure]
  | cons a l ih =>
      rw [List.forM_cons, bind_iff, ih, List.forall_mem_cons]
      constructor
      · rintro ⟨_, ha, hl⟩
        exact ⟨ha, hl⟩
      · rintro ⟨ha, hl⟩
        exact ⟨(), ha, hl⟩

/-- Checks fail as the first one does that fails. -/
theorem forM_error_iff (f : α → Except ε Unit) (l : List α) (e : ε) :
    forM l f = .error e ↔ ∃ before a after, l = before ++ a :: after ∧
      (∀ b ∈ before, f b = .ok ()) ∧ f a = .error e := by
  induction l with
  | nil => simp [pure, Except.pure]
  | cons b l ih =>
      rw [List.forM_cons, bind_error_iff, ih]
      constructor
      · rintro (h | ⟨u, hb, before, a, after, rfl, hbefore, ha⟩)
        · exact ⟨[], b, l, rfl, by simp, h⟩
        · exact ⟨b :: before, a, after, rfl, List.forall_mem_cons.2 ⟨hb, hbefore⟩, ha⟩
      · rintro ⟨before, a, after, hl, hbefore, ha⟩
        cases before with
        | nil =>
            obtain ⟨rfl, rfl⟩ := List.cons.inj hl
            exact .inl ha
        | cons c before =>
            obtain ⟨rfl, rfl⟩ := List.cons.inj hl
            obtain ⟨hb, hrest⟩ := List.forall_mem_cons.1 hbefore
            exact .inr ⟨(), hb, before, a, after, rfl, hrest, ha⟩

end CrateGraph.Success
