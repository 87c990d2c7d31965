import Mathlib.Data.List.Forall2

namespace Residue256.Fallible

variable {ε α β : Type} {e : ε} {a : α} {f : α → Except ε β} {P : α → β → Prop} {xs : List α}
  {ys : List β}

@[simp] theorem ok_bind : (Except.ok a >>= f) = f a := rfl

@[simp] theorem error_bind : ((Except.error e : Except ε α) >>= f) = .error e := rfl

theorem map_eq_ok_iff {g : α → β} {r : Except ε α} {b : β} :
    r.map g = .ok b ↔ ∃ a, r = .ok a ∧ g a = b := by
  cases r with
  | ok a => simp [Except.map]
  | error e => simp [Except.map]

theorem map_eq_error_iff {g : α → β} {r : Except ε α} : r.map g = .error e ↔ r = .error e := by
  cases r with
  | ok a => simp [Except.map]
  | error e => simp [Except.map]

theorem mapM_eq_ok (h : List.Forall₂ (fun x y => f x = .ok y) xs ys) : xs.mapM f = .ok ys := by
  induction h with
  | nil => rfl
  | cons hx _ ih =>
    rw [List.mapM_cons, hx, ih]
    rfl

theorem exists_forall₂ (h : ∀ x ∈ xs, ∃ y, P x y) : ∃ ys, List.Forall₂ P xs ys := by
  induction xs with
  | nil => exact ⟨[], .nil⟩
  | cons x xs ih =>
    obtain ⟨y, hy⟩ := h x (by simp)
    obtain ⟨ys, hys⟩ := ih fun z hz => h z (by simp [hz])
    exact ⟨y :: ys, .cons hy hys⟩

theorem forall_mem_right {Q : β → Prop} (h : List.Forall₂ P xs ys) (hq : ∀ x y, P x y → Q y) :
    ∀ y ∈ ys, Q y := by
  induction h with
  | nil => simp
  | cons hp _ ih => exact List.forall_mem_cons.mpr ⟨hq _ _ hp, ih⟩

theorem map_right_eq_map {γ : Type} {g : β → γ} {f : α → γ} (h : List.Forall₂ P xs ys)
    (hg : ∀ x y, P x y → g y = f x) : ys.map g = xs.map f := by
  induction h with
  | nil => rfl
  | cons hp _ ih => rw [List.map_cons, List.map_cons, hg _ _ hp, ih]

/-- The step ends in a value of one kind, or in a fault of another. -/
def Ends (S : α → Prop) (Q : ε → Prop) : Except ε α → Prop
  | .ok a => S a
  | .error e => Q e

variable {S S' : α → Prop} {T : β → Prop} {Q : ε → Prop} {r : Except ε α}

theorem Ends.bind (h : Ends S Q r) (hf : ∀ a, S a → Ends T Q (f a)) : Ends T Q (r >>= f) := by
  cases r with
  | ok a => exact hf a h
  | error e => exact h

theorem Ends.map {g : α → β} (h : Ends S Q r) (hg : ∀ a, S a → T (g a)) : Ends T Q (r.map g) := by
  cases r with
  | ok a => exact hg a h
  | error e => exact h

theorem Ends.imp (h : Ends S Q r) (hs : ∀ a, S a → S' a) : Ends S' Q r := by
  cases r with
  | ok a => exact hs a h
  | error e => exact h

theorem Ends.and {Q' : ε → Prop} (h : Ends S Q r) (h' : Ends S' Q' r) :
    Ends (fun a => S a ∧ S' a) Q r := by
  cases r with
  | ok a => exact ⟨h, h'⟩
  | error e => exact h

theorem Ends.mapError {ε' : Type} {Q' : ε' → Prop} {g : ε → ε'} (h : Ends S Q r)
    (hg : ∀ e, Q e → Q' (g e)) : Ends S Q' (r.mapError g) := by
  cases r with
  | ok a => exact h
  | error e => exact hg e h

abbrev Gives (S : α → Prop) (r : Except ε α) : Prop := Ends S (fun _ => True) r

theorem gives_any (r : Except ε α) : Gives (fun _ => True) r := by cases r <;> trivial

theorem ends_mapM (h : ∀ x ∈ xs, Ends T Q (f x)) :
    Ends (fun ys => ∀ y ∈ ys, T y) Q (xs.mapM f) := by
  induction xs with
  | nil =>
    rw [List.mapM_nil]
    exact fun y hy => absurd hy List.not_mem_nil
  | cons x xs ih =>
    rw [List.forall_mem_cons] at h
    rw [List.mapM_cons]
    apply h.1.bind
    intro y hy
    apply (ih h.2).bind
    intro ys hys
    exact List.forall_mem_cons.mpr ⟨hy, hys⟩

end Residue256.Fallible
