import Mathlib.Data.List.Forall2

namespace Schematic

theorem Except.bind_eq_ok {ε α β : Type} {x : Except ε α} {f : α → Except ε β} {b : β} :
    x >>= f = .ok b ↔ ∃ a, x = .ok a ∧ f a = .ok b := by
  cases x <;> simp [bind, Except.bind]

theorem Except.map_eq_ok {ε α β : Type} {x : Except ε α} {f : α → β} {b : β} :
    x.map f = .ok b ↔ ∃ a, x = .ok a ∧ f a = b := by
  cases x <;> simp [Except.map]

theorem forall_of_mapM {ε α β : Type} {f : α → Except ε β} {P : β → Prop} {items : List α} {results : List β}
    (hf : ∀ a ∈ items, ∀ b, f a = .ok b → P b) (h : items.mapM f = .ok results) : ∀ b ∈ results, P b := by
  induction items generalizing results with
  | nil =>
    obtain rfl : [] = results := Except.ok.inj h
    simp
  | cons a items ih =>
    obtain ⟨hfirst, hitems⟩ := List.forall_mem_cons.mp hf
    simp only [List.mapM_cons, Except.bind_eq_ok] at h
    obtain ⟨b, hb, more, hmore, hresults⟩ := h
    obtain rfl := Except.ok.inj hresults
    exact List.forall_mem_cons.mpr ⟨hfirst b hb, ih hitems hmore⟩

theorem exists_mapM {ε α β : Type} {f : α → Except ε β} {items : List α} (h : ∀ a ∈ items, ∃ b, f a = .ok b) :
    ∃ results, items.mapM f = .ok results := by
  induction items with
  | nil => exact ⟨[], rfl⟩
  | cons a items ih =>
    obtain ⟨b, hb⟩ := h a List.mem_cons_self
    obtain ⟨results, hresults⟩ := ih fun c hc => h c (List.mem_cons_of_mem _ hc)
    exact ⟨b :: results, by rw [List.mapM_cons, hb, hresults]; rfl⟩

theorem mapM_eq_of_forall₂ {ε α β γ : Type} {P : α → β → Prop} {f : α → Except ε γ} {g : β → Except ε γ} {xs : List α}
    {ys : List β} (h : List.Forall₂ P xs ys) (hP : ∀ a b, P a b → f a = g b) : xs.mapM f = ys.mapM g := by
  induction h with
  | nil => rfl
  | cons hab _ ih => rw [List.mapM_cons, List.mapM_cons, hP _ _ hab, ih]

end Schematic
