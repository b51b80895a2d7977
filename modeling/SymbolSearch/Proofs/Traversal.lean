import Mathlib.Data.List.Forall2

namespace SymbolSearch.Proofs.Traversal

variable {α β ε : Type}

theorem bind_eq_ok_iff {x : Except ε α} {f : α → Except ε β} {b : β} :
    x >>= f = .ok b ↔ ∃ a, x = .ok a ∧ f a = .ok b := by
  cases x <;> simp [bind, Except.bind]

theorem map_eq_ok_iff {x : Except ε α} {f : α → β} {b : β} :
    x.map f = .ok b ↔ ∃ a, x = .ok a ∧ f a = b := by
  cases x <;> simp [Except.map]

theorem toOption_eq_some_iff {x : Except ε α} {a : α} : x.toOption = some a ↔ x = .ok a := by
  cases x <;> simp [Except.toOption]

theorem mapM_ok {f : α → Except ε β} {g : α → β} {xs : List α}
    (h : ∀ x ∈ xs, f x = .ok (g x)) : xs.mapM f = .ok (xs.map g) := by
  induction xs with
  | nil => rfl
  | cons x xs ih =>
      have hx := h x List.mem_cons_self
      have hxs := ih fun y hy => h y (List.mem_cons_of_mem x hy)
      simp [List.mapM_cons, hx, hxs, bind, Except.bind, pure, Except.pure]

theorem mapM_congr {f g : α → Except ε β} {xs : List α} (h : ∀ x ∈ xs, f x = g x) :
    xs.mapM f = xs.mapM g := by
  induction xs with
  | nil => rfl
  | cons x xs ih =>
      rw [List.mapM_cons, List.mapM_cons, h x List.mem_cons_self,
        ih fun y hy => h y (List.mem_cons_of_mem x hy)]

theorem mapM_exists {f : α → Except ε β} {xs : List α} (h : ∀ x ∈ xs, ∃ y, f x = .ok y) :
    ∃ ys, xs.mapM f = .ok ys := by
  induction xs with
  | nil => exact ⟨[], rfl⟩
  | cons x xs ih =>
      obtain ⟨y, hy⟩ := h x List.mem_cons_self
      obtain ⟨ys, hys⟩ := ih fun x' hx' => h x' (List.mem_cons_of_mem x hx')
      exact ⟨y :: ys, by simp [List.mapM_cons, hy, hys, bind, Except.bind, pure, Except.pure]⟩

theorem mapM_error {f : α → Except ε β} {xs : List α} {x : α} {e : ε} (hmem : x ∈ xs)
    (hx : f x = .error e) : ∃ e', xs.mapM f = .error e' := by
  induction xs with
  | nil => cases hmem
  | cons y xs ih =>
      rw [List.mapM_cons]
      cases hy : f y with
      | error e' => exact ⟨e', rfl⟩
      | ok b =>
          have hne : x ≠ y := by
            rintro rfl
            rw [hx] at hy
            cases hy
          obtain ⟨e', he'⟩ := ih ((List.mem_cons.mp hmem).resolve_left hne)
          exact ⟨e', by simp [he', bind, Except.bind]⟩

theorem exists_of_mem_mapM {f : α → Except ε β} {xs : List α} {ys : List β} {y : β}
    (h : xs.mapM f = .ok ys) (hy : y ∈ ys) : ∃ x ∈ xs, f x = .ok y := by
  induction xs generalizing ys with
  | nil =>
      cases h
      cases hy
  | cons x xs ih =>
      rw [List.mapM_cons] at h
      obtain ⟨y', hx, h⟩ := bind_eq_ok_iff.mp h
      obtain ⟨rest, hrest, h⟩ := bind_eq_ok_iff.mp h
      cases h
      rcases List.mem_cons.mp hy with rfl | hy
      · exact ⟨x, by simp, hx⟩
      · obtain ⟨x', hmem, hx'⟩ := ih hrest hy
        exact ⟨x', by simp [hmem], hx'⟩

theorem forall₂_of_mapM {f : α → Except ε β} {xs : List α} {ys : List β}
    (h : xs.mapM f = .ok ys) : List.Forall₂ (fun x y => f x = .ok y) xs ys := by
  induction xs generalizing ys with
  | nil =>
      cases h
      exact .nil
  | cons x xs ih =>
      rw [List.mapM_cons] at h
      obtain ⟨y, hy, h⟩ := bind_eq_ok_iff.mp h
      obtain ⟨rest, hrest, h⟩ := bind_eq_ok_iff.mp h
      cases h
      exact .cons hy (ih hrest)

theorem map_eq_map_ok_of_mapM {f : α → Except ε β} {xs : List α} {ys : List β}
    (h : xs.mapM f = .ok ys) : xs.map f = ys.map .ok := by
  have hforall : List.Forall₂ (· = ·) (xs.map f) (ys.map .ok) :=
    List.forall₂_map_left_iff.mpr (List.forall₂_map_right_iff.mpr (forall₂_of_mapM h))
  rwa [List.forall₂_eq_eq_eq] at hforall

theorem map_eq_of_mapM {γ : Type} {f : α → Except ε β} {g : α → γ} {h : β → γ} {xs : List α}
    {ys : List β} (hstep : ∀ x y, f x = .ok y → h y = g x) (hxs : xs.mapM f = .ok ys) :
    ys.map h = xs.map g := by
  induction xs generalizing ys with
  | nil =>
      cases hxs
      rfl
  | cons x xs ih =>
      rw [List.mapM_cons] at hxs
      obtain ⟨y, hx, hxs⟩ := bind_eq_ok_iff.mp hxs
      obtain ⟨rest, hrest, hxs⟩ := bind_eq_ok_iff.mp hxs
      cases hxs
      rw [List.map_cons, List.map_cons, hstep x y hx, ih hrest]

end SymbolSearch.Proofs.Traversal
