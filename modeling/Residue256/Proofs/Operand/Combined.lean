import Residue256.Proofs.Operand.Sound

namespace Residue256.Operand

open Fallible

variable {op : Arithmetic} {a b c : Operand} {h k : Int256.Halves} {is : Items}
  {r : Except Fault Operand} {xs ys : List Operand} {n : Int}

theorem gives_combineHalves {f : Int256 → Int256 → Except Fault Int256}
    (hf : ∀ v w, Gives Int256.Valid (f v w)) : Gives Sound (combineHalves f h k) := by
  apply (gives_any h.value).bind
  intro v _
  apply (gives_any k.value).bind
  intro w _
  exact (hf v w).bind fun z hz => sound_plain hz

theorem reduced_of_combine? {x y : Scalar} (h : x.combine? op b = some y) : y.Reduced := by
  obtain ⟨z, -, rfl⟩ := Option.map_eq_some_iff.mp h
  exact Scalar.reduced_ofInt

theorem gives_of_fromLeft? (h : fromLeft? op a b = some r) : Gives Sound r := by
  rw [fromLeft?.eq_def] at h
  split at h
  · obtain ⟨y, hy, rfl⟩ := Option.map_eq_some_iff.mp h
    exact sound_scalar.mpr (reduced_of_combine? hy)
  · split at h
    · cases h
      exact gives_combineHalves fun v w => Int256.gives_ofInt _
    · cases h
      exact gives_combineHalves fun v w => Int256.gives_ofInt _
    · cases h
  · split at h
    · cases h
      exact sound_of_empty rfl
    · cases h
  · cases h

theorem gives_of_fromRight? (h : fromRight? op a b = some r) : Gives Sound r := by
  rw [fromRight?.eq_def] at h
  split at h
  · split at h
    · cases h
    · obtain ⟨y, hy, rfl⟩ := Option.map_eq_some_iff.mp h
      exact sound_scalar.mpr (reduced_of_combine? hy)
  · cases h

theorem sound_flatten_replicate (m : Nat) (h : ∀ x ∈ xs, x.Sound) :
    ∀ x ∈ (List.replicate m xs).flatten, x.Sound := by
  intro x hx
  obtain ⟨ys, hy, hx⟩ := List.mem_flatten.mp hx
  rw [List.eq_of_mem_replicate hy] at hx
  exact h x hx

theorem sound_of_repeated? (ha : a.Sound) (h : a.repeated? n = some c) : c.Sound := by
  cases a with
  | text s | bytes bs =>
    cases h
    exact sound_of_empty rfl
  | list xs =>
    cases h
    exact sound_list.mpr (sound_flatten_replicate _ (sound_list.mp ha))
  | tuple xs =>
    cases h
    exact sound_tuple.mpr (sound_flatten_replicate _ (sound_tuple.mp ha))
  | _ => cases h

theorem sound_of_ofSequences? (ha : a.Sound) (hb : b.Sound) (h : ofSequences? op a b = some c) :
    c.Sound := by
  rw [ofSequences?.eq_def] at h
  split at h
  · cases h
    exact sound_of_empty rfl
  · cases h
    exact sound_of_empty rfl
  · cases h
    exact sound_list.mpr (List.forall_mem_append.mpr ⟨sound_list.mp ha, sound_list.mp hb⟩)
  · cases h
    exact sound_tuple.mpr (List.forall_mem_append.mpr ⟨sound_tuple.mp ha, sound_tuple.mp hb⟩)
  · obtain ⟨n, -, h⟩ := Option.bind_eq_some_iff.mp h
    exact sound_of_repeated? ha h
  · obtain ⟨n, -, h⟩ := Option.bind_eq_some_iff.mp h
    exact sound_of_repeated? hb h
  · cases h

theorem gives_combine (ha : a.Sound) (hb : b.Sound) : Gives Sound (combine op a b) := by
  rw [combine]
  cases hl : fromLeft? op a b with
  | some r => exact gives_of_fromLeft? hl
  | none =>
    cases hr : fromRight? op a b with
    | some r => exact gives_of_fromRight? hr
    | none =>
      cases hc : ofSequences? op a b with
      | some c => exact sound_of_ofSequences? ha hb hc
      | none => trivial

theorem gives_neg : Gives Sound a.neg := by
  cases a with
  | number x =>
    cases x with
    | real x => cases x <;> exact sound_of_empty rfl
    | _ => exact sound_of_empty rfl
  | scalar y => exact sound_scalar.mpr Scalar.reduced_ofInt
  | int256 h =>
    apply (gives_any h.value).bind
    intro v _
    exact (Int256.gives_ofInt _).bind fun w hw => sound_plain hw
  | _ => trivial

theorem gives_sum (hi : is.Sound) : Gives Sound (sum is).1 :=
  Items.gives_fold hi (sound_of_empty rfl) fun _ _ hs hx => gives_combine hs hx

theorem gives_sort (hx : ∀ x ∈ xs, x.Sound) : Gives (fun ys => ∀ y ∈ ys, y.Sound) (sort xs) := by
  apply (Sorting.ends_sort fun x y => gives_any (less x y)).imp
  exact fun ys hy y hm => hx y (hy.mem_iff.mp hm)

theorem gives_extreme {name : String} {beats : Operand → Operand → Except Fault Bool}
    (hi : is.Sound) : Gives Sound (extreme name beats is).1 := by
  -- The best so far is one of the items, whichever of them beats which.
  have hf : Gives (fun best => ∀ y ∈ best, y.Sound) (is.fold (better beats) none).1 := by
    apply Items.gives_fold hi (fun y hy => by cases hy)
    intro best x hb hx
    cases best with
    | none =>
      rintro y ⟨⟩
      exact hx
    | some z =>
      apply (gives_any (beats x z)).bind
      rintro (_ | _) -
      · exact hb
      · rintro y ⟨⟩
        exact hx
  apply hf.bind
  intro best hb
  cases best with
  | some x => exact hb x rfl
  | none => trivial

end Residue256.Operand
