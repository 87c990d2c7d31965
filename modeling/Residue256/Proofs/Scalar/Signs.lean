import Mathlib.Data.Finset.Card
import Mathlib.Data.Finset.Image
import Mathlib.Order.Interval.Finset.Nat
import Residue256.Proofs.Opposite

namespace Residue256

variable {F : Field} {x : Scalar}

namespace Scalar

theorem neg_neg_of_reduced (hx : x.Reduced) : - -x = x := by
  rw [neg_eq_ofInt, signed_neg hx, neg_neg, field_neg, ofInt_signed hx]

theorem signed_mk_zero : (⟨F, 0⟩ : Scalar).signed = 0 := by
  rw [signed, Nat.cast_zero, if_neg (by simp [isNegative_iff])]

theorem neg_mk_zero : -(⟨F, 0⟩ : Scalar) = ⟨F, 0⟩ := by
  rw [neg_eq_ofInt, signed_mk_zero]
  exact ofInt_value (x := ⟨F, 0⟩) F.modulus.pos

theorem signed_eq_zero_iff (hx : x.Reduced) : x.signed = 0 ↔ x.value = 0 := by
  constructor
  · intro hs
    rw [← ofInt_signed hx, hs, ofInt, Int.zero_emod, Int.toNat_zero]
  · intro hv
    have h : x = ⟨x.field, 0⟩ := congrArg (mk x.field) hv
    rw [h, signed_mk_zero]

theorem signed_pos_iff (hx : x.Reduced) : 0 < x.signed ↔ x.isNegative = false ∧ x.value ≠ 0 := by
  rw [lt_iff_le_and_ne, ← not_lt, ← isNegative_iff_signed_neg hx, Bool.not_eq_true, ne_comm, Ne,
    signed_eq_zero_iff hx]

end Scalar

namespace Field

/-- All scalars of a field. -/
def scalars (F : Field) : Finset Scalar := (Finset.range F.modulus.value).image (Scalar.mk F)

def negatives (F : Field) : Finset Scalar := F.scalars.filter fun x => x.isNegative = true

def positives (F : Field) : Finset Scalar :=
  F.scalars.filter fun x => x.isNegative = false ∧ x.value ≠ 0

theorem mem_scalars : x ∈ F.scalars ↔ x.field = F ∧ x.Reduced := by
  rw [scalars, Finset.mem_image]
  constructor
  · rintro ⟨n, hn, rfl⟩
    exact ⟨rfl, Finset.mem_range.mp hn⟩
  · rintro ⟨rfl, hx⟩
    exact ⟨x.value, Finset.mem_range.mpr hx, rfl⟩

theorem mem_negatives : x ∈ F.negatives ↔ x ∈ F.scalars ∧ x.signed < 0 := by
  rw [negatives, Finset.mem_filter]
  apply and_congr_right
  intro hx
  exact Scalar.isNegative_iff_signed_neg (mem_scalars.mp hx).2

theorem mem_positives : x ∈ F.positives ↔ x ∈ F.scalars ∧ 0 < x.signed := by
  rw [positives, Finset.mem_filter]
  apply and_congr_right
  intro hx
  exact (Scalar.signed_pos_iff (mem_scalars.mp hx).2).symm

theorem neg_mem_scalars (hx : x ∈ F.scalars) : -x ∈ F.scalars :=
  mem_scalars.mpr ⟨(mem_scalars.mp hx).1, Scalar.reduced_neg⟩

theorem neg_neg_of_mem (hx : x ∈ F.scalars) : - -x = x :=
  Scalar.neg_neg_of_reduced (mem_scalars.mp hx).2

theorem neg_mem_positives_iff (hx : x ∈ F.scalars) : -x ∈ F.positives ↔ x ∈ F.negatives := by
  rw [mem_positives, mem_negatives, Scalar.signed_neg (mem_scalars.mp hx).2, neg_pos]
  exact and_congr_left fun _ => iff_of_true (neg_mem_scalars hx) hx

theorem image_neg_negatives : F.negatives.image (fun x => -x) = F.positives := by
  ext x
  rw [Finset.mem_image]
  constructor
  · rintro ⟨y, hy, rfl⟩
    exact (neg_mem_positives_iff (mem_negatives.mp hy).1).mpr hy
  · intro hx
    have hm := (mem_positives.mp hx).1
    refine ⟨-x, (neg_mem_positives_iff (neg_mem_scalars hm)).mp ?_, neg_neg_of_mem hm⟩
    rwa [neg_neg_of_mem hm]

theorem image_neg_positives : F.positives.image (fun x => -x) = F.negatives := by
  rw [← image_neg_negatives, Finset.image_image]
  refine (Finset.image_congr fun x hx => ?_).trans Finset.image_id
  exact neg_neg_of_mem (mem_negatives.mp hx).1

theorem positives_eq_image : F.positives = (Finset.Icc 1 F.modulus.half).image (Scalar.mk F) := by
  have hm := F.modulus.two_mul_half
  ext x
  rw [positives, Finset.mem_filter, mem_scalars, Finset.mem_image, ← Bool.not_eq_true,
    Scalar.isNegative_iff]
  constructor
  · rintro ⟨⟨rfl, -⟩, hn, hz⟩
    exact ⟨x.value, Finset.mem_Icc.mpr (by omega), rfl⟩
  · rintro ⟨n, hn, rfl⟩
    rw [Finset.mem_Icc] at hn
    have hv : n < F.modulus.value := by omega
    exact ⟨⟨rfl, hv⟩, hn.2.not_gt, Nat.one_le_iff_ne_zero.mp hn.1⟩

theorem card_positives : F.positives.card = F.modulus.half := by
  rw [positives_eq_image, Finset.card_image_of_injective, Nat.card_Icc, Nat.add_sub_cancel]
  intro m n h
  exact congrArg Scalar.value h

/-- No two negative scalars have the same opposite. -/
theorem card_negatives : F.negatives.card = F.modulus.half := by
  rw [← card_positives, ← image_neg_negatives, Finset.card_image_of_injOn]
  intro x hx y hy h
  rw [← neg_neg_of_mem (mem_negatives.mp hx).1, ← neg_neg_of_mem (mem_negatives.mp hy).1]
  exact congrArg (fun z : Scalar => -z) h

theorem disjoint_negatives_positives : Disjoint F.negatives F.positives := by
  rw [Finset.disjoint_left]
  intro x hn hp
  exact (mem_negatives.mp hn).2.not_gt (mem_positives.mp hp).2

theorem zero_notMem : (⟨F, 0⟩ : Scalar) ∉ F.negatives ∪ F.positives := by
  rw [Finset.mem_union, mem_negatives, mem_positives, Scalar.signed_mk_zero]
  simp

theorem scalars_eq_insert : F.scalars = insert ⟨F, 0⟩ (F.negatives ∪ F.positives) := by
  ext x
  rw [Finset.mem_insert, Finset.mem_union, mem_negatives, mem_positives]
  constructor
  · intro hx
    obtain ⟨rfl, hr⟩ := mem_scalars.mp hx
    obtain hs | hs | hs := lt_trichotomy x.signed 0
    · exact .inr (.inl ⟨hx, hs⟩)
    · exact .inl (congrArg (Scalar.mk x.field) ((Scalar.signed_eq_zero_iff hr).mp hs))
    · exact .inr (.inr ⟨hx, hs⟩)
  · rintro (rfl | ⟨hx, -⟩ | ⟨hx, -⟩)
    · exact mem_scalars.mpr ⟨rfl, F.modulus.pos⟩
    · exact hx
    · exact hx

end Field

end Residue256
