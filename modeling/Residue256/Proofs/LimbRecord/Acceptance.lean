import Residue256.LimbRecord.Basic
import Residue256.Proofs.Fallible

namespace Residue256.LimbRecord

variable {counted : Bool} {i : Nat} {ns : List Nat} {ws : List (Option Int)} {ks : List Int}
  {r : LimbRecord}

theorem complaintAt_eq_none_iff : complaintAt ws i = none ↔ ∃ n, ws[i]? = some (some n) := by
  rw [complaintAt]
  cases h : ws[i]? with
  | none => simp
  | some w => cases w <;> simp

theorem complaints_eq_nil_iff :
    (List.range 4).filterMap (complaintAt ws) = [] ↔ ∀ i < 4, ∃ n, ws[i]? = some (some n) := by
  rw [List.filterMap_eq_nil_iff]
  simp only [List.mem_range, complaintAt_eq_none_iff]

theorem exists_eq_map_some (hl : ws.length ≤ 4) (h : ∀ i < 4, ∃ n, ws[i]? = some (some n)) :
    ∃ ks : List Int, ks.length = 4 ∧ ws = ks.map some := by
  -- A limb in the last position leaves no room for fewer than four.
  obtain ⟨n, hn⟩ := h 3 (by omega)
  obtain ⟨h3, -⟩ := List.getElem?_eq_some_iff.mp hn
  have hw : ∀ w ∈ ws, ∃ n, w = some n := by
    intro w hm
    obtain ⟨i, hi, rfl⟩ := List.getElem_of_mem hm
    obtain ⟨n, hn⟩ := h i (by omega)
    rw [List.getElem?_eq_getElem hi, Option.some_inj] at hn
    exact ⟨n, hn⟩
  obtain ⟨ks, hk⟩ := Fallible.exists_forall₂ hw
  rw [← List.forall₂_map_right_iff, List.forall₂_eq_eq_eq] at hk
  subst hk
  rw [List.length_map] at *
  exact ⟨ks, by omega, rfl⟩

theorem isWord_iff {w : Int} : isWord w = true ↔ 0 ≤ w ∧ w < 2 ^ 64 := by
  simp [isWord]

theorem rangeComplaint_eq_none_iff : rangeComplaint i ks = none ↔ ∀ w ∈ ks, isWord w = true := by
  induction ks generalizing i with
  | nil => simp [rangeComplaint]
  | cons w ws ih =>
    rw [rangeComplaint, List.forall_mem_cons]
    by_cases hw : isWord w
    · rw [if_pos hw, ih]
      simp [hw]
    · rw [if_neg hw]
      simp [hw]

theorem map_natCast_toNat (h : ∀ w ∈ ks, isWord w = true) :
    (ks.map Int.toNat).map (fun (n : Nat) => (n : Int)) = ks := by
  rw [List.map_map]
  refine (List.map_congr_left fun w hw => ?_).trans (List.map_id ks)
  exact Int.toNat_of_nonneg (isWord_iff.mp (h w hw)).1

theorem accept_map_some (hl : ks.length = 4) :
    accept counted (ks.map some) =
      match rangeComplaint 0 ks with
      | none => .ok ⟨ks.map Int.toNat⟩
      | some c => .error [c] := by
  have hc : (List.range 4).filterMap (complaintAt (ks.map some)) = [] := by
    rw [complaints_eq_nil_iff]
    intro i hi
    have hi' : i < ks.length := by omega
    exact ⟨ks[i], by simp [List.getElem?_eq_getElem hi']⟩
  have hf : (ks.map some).filterMap id = ks := by simp
  cases hr : rangeComplaint 0 ks <;>
    rw [accept, if_neg (by simp [hl]), hc, hf] <;>
    simp only [hr]

theorem accept_map_some_iff (hl : ks.length = 4) :
    accept counted (ks.map some) = .ok r ↔
      (∀ w ∈ ks, isWord w = true) ∧ ⟨ks.map Int.toNat⟩ = r := by
  rw [accept_map_some hl, ← rangeComplaint_eq_none_iff (i := 0)]
  cases rangeComplaint 0 ks with
  | none => simp
  | some c => simp

/-- The limbs that are accepted are those of the valid records. -/
theorem accept_eq_ok_iff :
    accept counted ws = .ok r ↔ r.Valid ∧ ws = r.limbs.map fun (n : Nat) => some (n : Int) := by
  constructor
  · intro h
    have hl : ws.length ≤ 4 := by
      by_contra hc
      rw [accept, if_pos (Nat.lt_of_not_le hc)] at h
      cases h
    have hp : ∀ i < 4, ∃ n, ws[i]? = some (some n) := by
      rw [← complaints_eq_nil_iff]
      rw [accept, if_neg (Nat.not_lt.mpr hl)] at h
      by_contra hc
      split at h
      · exact hc ‹_›
      · cases h
    obtain ⟨ks, hk, rfl⟩ := exists_eq_map_some hl hp
    obtain ⟨hw, rfl⟩ := (accept_map_some_iff hk).mp h
    refine ⟨⟨by simp [hk], ?_⟩, ?_⟩
    · intro n hn
      obtain ⟨w, hm, rfl⟩ := List.mem_map.mp hn
      have := isWord_iff.mp (hw w hm)
      omega
    · conv_lhs => rw [← map_natCast_toNat hw]
      rw [List.map_map]
      rfl
  · rintro ⟨hr, rfl⟩
    have hm : r.limbs.map (fun (n : Nat) => some (n : Int)) =
        (r.limbs.map fun (n : Nat) => (n : Int)).map some := by
      rw [List.map_map]
      rfl
    have hw : ∀ w ∈ r.limbs.map (fun (n : Nat) => (n : Int)), isWord w = true := by
      intro w hw
      obtain ⟨n, hn, rfl⟩ := List.mem_map.mp hw
      have := hr.lt n hn
      rw [isWord_iff]
      omega
    rw [hm, accept_map_some_iff (by simp [hr.length_eq])]
    refine ⟨hw, ?_⟩
    simp only [List.map_map, Function.comp_def, Int.toNat_natCast, List.map_id']

theorem ofLimbs_eq_ok (hr : r.Valid) :
    ofLimbs (r.limbs.map fun (n : Nat) => (n : Int)) = .ok r := by
  have h : accept true ((r.limbs.map fun (n : Nat) => (n : Int)).map some) = .ok r := by
    rw [accept_eq_ok_iff, List.map_map]
    exact ⟨hr, rfl⟩
  rw [ofLimbs, h]
  rfl

end Residue256.LimbRecord
