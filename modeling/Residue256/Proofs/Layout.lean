import Residue256.Proofs.Column
import Residue256.Proofs.LimbRecord.Pattern

namespace Residue256

open Fallible

namespace LimbRecord

variable {r : LimbRecord}

/-- The 256-bit integers and their limb records. -/
def equivInt256 : {v : Int256 // v.Valid} ≃ {r : LimbRecord // r.Valid} where
  toFun v := ⟨ofPatternOf v.1.toInt, valid_ofPatternOf⟩
  invFun r := ⟨⟨(r.1.toInt % 2 ^ 128).toNat, r.1.toInt / 2 ^ 128⟩,
    Int256.valid_of_ofInt (Int256.ofInt_of_bounds r.2.bounds)⟩
  left_inv v := by
    have hn : (ofPatternOf v.1.toInt).toInt = v.1.toInt :=
      toInt_ofPatternOf v.2.minInt_le v.2.le_maxInt
    have h := Int256.ofInt_toInt v.2
    rw [Int256.ofInt_of_bounds ⟨v.2.minInt_le, v.2.le_maxInt⟩, Except.ok.injEq] at h
    apply Subtype.ext
    dsimp only
    rw [hn, h]
  right_inv r := by
    have hn := Int256.toInt_eq_of_ofInt (Int256.ofInt_of_bounds r.2.bounds)
    apply Subtype.ext
    dsimp only
    rw [hn, ofPatternOf_toInt r.2]

theorem ofInt_toInt (hr : r.Valid) : Int256.ofInt r.toInt = .ok (equivInt256.symm ⟨r, hr⟩).1 :=
  Int256.ofInt_of_bounds hr.bounds

theorem ofPatternOf_symm (hr : r.Valid) :
    ofPatternOf (equivInt256.symm ⟨r, hr⟩).1.toInt = r :=
  congrArg Subtype.val (equivInt256.apply_symm_apply ⟨r, hr⟩)

end LimbRecord

namespace Operand

variable {h : Int256.Halves} {v : Int256} {x : Scalar} {n : Int} {hs : List Int256.Halves}
  {vs : List Int256} {supply : Supply}

theorem toInt_of_holds (hh : h.Holds v) : (int256 h).toInt = .ok (int v.toInt) := by
  rw [toInt, askInt256, hh.value]
  · rfl
  · rintro r ⟨⟩

theorem toBytes_of_holds (hh : h.Holds v) : (int256 h).toBytes = .ok (bytes v.toBytes) := by
  rw [toBytes, askInt256, hh.value]
  rfl

theorem slot_of_holds (hh : h.Holds v) : slot (int256 h) = .ok v.toBytes := by
  rw [slot, hh.value]
  rfl

theorem toRecord_of_holds (hh : h.Holds v) (hv : v.Valid) :
    (int256 h).toRecord = .ok (record (LimbRecord.ofPatternOf v.toInt)) := by
  rw [toRecord, askInt256, hh.value, ok_bind, LimbRecord.ofInt256_eq_ok hv]
  rfl

theorem int256OfNumber_of_ofInt (hn : Int256.ofInt n = .ok v) :
    (int n).int256OfNumber = .ok (plain v) := by
  obtain ⟨hv, rfl⟩ := Int256.ofInt_eq_ok_iff.mp hn
  have hw : (Number.int v.toInt).within Int256.minInt Int256.maxInt = true :=
    Number.within_int.mpr ⟨hv.minInt_le, hv.le_maxInt⟩
  rw [int256OfNumber, hw, Bool.not_true, if_neg Bool.false_ne_true]
  simp only [Number.whole?_int, hn]
  rfl

theorem toRecord_rows (hh : List.Forall₂ Int256.Halves.Holds hs vs) (hv : ∀ v ∈ vs, v.Valid) :
    List.Forall₂ (fun h r => (int256 h).toRecord = .ok (record r)) hs
      (vs.map fun v => LimbRecord.ofPatternOf v.toInt) := by
  rw [List.forall₂_map_right_iff]
  induction hh with
  | nil => exact .nil
  | cons h _ ih =>
    rw [List.forall_mem_cons] at hv
    exact .cons (toRecord_of_holds h hv.1) (ih hv.2)

theorem columnToRecords {rs : List LimbRecord} (supply : Supply)
    (h : List.Forall₂ (fun h r => (int256 h).toRecord = .ok (record r)) hs rs) :
    (mapItems supply toRecord (list (hs.map int256))).result = .ok (list (rs.map record)) := by
  apply mapItems_list
  rwa [List.forall₂_map_left_iff, List.forall₂_map_right_iff]

theorem toBuffer_of_holds (supply : Supply) (hh : List.Forall₂ Int256.Halves.Holds hs vs) :
    (toBuffer supply (list (hs.map int256))).result = .ok (bytes (Int256.toBuffer vs)) := by
  rw [Int256.toBuffer, List.flatMap_def]
  apply toBuffer_eq_flatten
  rw [List.forall₂_map_left_iff, List.forall₂_map_right_iff]
  exact hh.imp fun _ _ => slot_of_holds

theorem toBuffer_eq_flatMap_limbs :
    Int256.toBuffer vs = (vs.map fun v => LimbRecord.ofPatternOf v.toInt).flatMap
      LimbRecord.toBytes := by
  rw [Int256.toBuffer, List.flatMap_map]
  simp only [LimbRecord.toBytes_ofPatternOf]

end Operand

namespace Scalar

variable {x : Scalar}

theorem pattern_signed (hx : x.Reduced) : Int256.pattern x.signed =
    if x.isNegative then 2 ^ 256 - (x.field.modulus.value - x.value) else x.value := by
  have hm := x.field.modulus.lt
  rw [Reduced] at hx
  by_cases h : x.isNegative
  · rw [signed, if_pos h, if_pos h, Int256.pattern]
    omega
  · rw [signed, if_neg h, if_neg h, Int256.pattern]
    omega

end Scalar

open Operand in
/-- The limbs, the bytes and the halves of a 256-bit integer stand for the same integer, and the
bytes are those of the limbs, also along a column. Every limb record is that of one 256-bit integer,
the one of its own integer. The record of a scalar holds the words of the scalar, or, for a negative
one, those of the bit pattern below `2 ^ 256`. -/
theorem layouts_agree (supply : Supply) :
    (∀ (h : Int256.Halves) (v : Int256), h.Holds v → v.Valid →
      (int256 h).toInt = .ok (int (v.high * 2 ^ 128 + v.low)) ∧
      ∃ r : LimbRecord, r.Valid ∧ (int256 h).toRecord = .ok (record r) ∧
        (record r).toInt = .ok (int (v.high * 2 ^ 128 + v.low)) ∧
        (int256 h).toBytes = .ok (bytes (r.limbs.flatMap LimbRecord.limbBytes))) ∧
    (∀ (hs : List Int256.Halves) (vs : List Int256), List.Forall₂ Int256.Halves.Holds hs vs →
      (∀ v ∈ vs, v.Valid) → ∃ rs : List LimbRecord,
        List.Forall₂ (fun h r => (int256 h).toRecord = .ok (record r)) hs rs ∧
        (mapItems supply toRecord (list (hs.map int256))).result = .ok (list (rs.map record)) ∧
        (toBuffer supply (list (hs.map int256))).result =
          .ok (bytes (rs.flatMap fun r => r.limbs.flatMap LimbRecord.limbBytes))) ∧
    (∃ e : {v : Int256 // v.Valid} ≃ {r : LimbRecord // r.Valid},
      (∀ v, (plain v.1).toRecord = .ok (record (e v).1)) ∧
      ∀ r, (int r.1.toInt).int256OfNumber = .ok (plain (e.symm r).1) ∧
        ((int r.1.toInt).int256OfNumber >>= toRecord) = .ok (record r.1)) ∧
    ∀ x : Scalar, x.Reduced → ∃ r : LimbRecord,
      ((scalar x).toInt256 >>= toRecord) = .ok (record r) ∧
      (x.isNegative = false → (scalar x).toWords = .ok (tuple (nats r.limbs))) ∧
      (x.isNegative = true → r.limbs =
        Digits.split (2 ^ 64) 4 (2 ^ 256 - (x.field.modulus.value - x.value))) := by
  refine ⟨fun h v hh hv => ?_, fun hs vs hh hv => ?_, ⟨LimbRecord.equivInt256, ?_, fun r => ?_⟩, ?_⟩
  · have hn := LimbRecord.toInt_ofPatternOf hv.minInt_le hv.le_maxInt
    have hb := LimbRecord.toBytes_ofPatternOf (v := v)
    refine ⟨toInt_of_holds hh, _, LimbRecord.valid_ofPatternOf, toRecord_of_holds hh hv, ?_, ?_⟩
    · rw [Operand.toInt, hn]
      rfl
    · rw [toBytes_of_holds hh, ← hb]
      rfl
  · have hr := toRecord_rows hh hv
    refine ⟨_, hr, columnToRecords supply hr, ?_⟩
    rw [toBuffer_of_holds supply hh, toBuffer_eq_flatMap_limbs]
    rfl
  · exact fun v => toRecord_of_holds v.1.holds_toHalves v.2
  · have h := int256OfNumber_of_ofInt (LimbRecord.ofInt_toInt r.2)
    refine ⟨h, ?_⟩
    rw [h, ok_bind, plain, toRecord_of_holds (Int256.holds_toHalves _) (Subtype.property _),
      LimbRecord.ofPatternOf_symm]
  · intro x hx
    obtain ⟨v, h, hv, hn⟩ := exists_toInt256_eq_ok hx
    have hp := Scalar.pattern_signed hx
    refine ⟨LimbRecord.ofPatternOf x.signed, ?_, fun hneg => ?_, fun hneg => ?_⟩
    · rw [h, ok_bind, plain, toRecord_of_holds v.holds_toHalves hv, hn]
    · rw [hneg, if_neg Bool.false_ne_true] at hp
      rw [LimbRecord.ofPatternOf, hp]
      rfl
    · rw [hneg, if_pos rfl] at hp
      rw [LimbRecord.ofPatternOf, hp]

open Operand in
/-- The value next to the lowest one, with a truth value as its low half, in a column before five,
and both kinds of scalars over seven residues. -/
theorem layouts_agree_low_end :
    let supply : Supply := fun _ => []
    let h : Int256.Halves := ⟨.truth true, .int (-2 ^ 127)⟩
    let v : Int256 := ⟨1, -2 ^ 127⟩
    let k : Int256 := ⟨5, 0⟩
    let F : Field := .root "a" "Seven" { value := 7 }
    (h.Holds v ∧ v.Valid ∧ k.toHalves.Holds k ∧ k.Valid) ∧
      (int256 h).toRecord = .ok (record ⟨[1, 0, 0, 2 ^ 63]⟩) ∧
      (record ⟨[1, 0, 0, 2 ^ 63]⟩).toInt = .ok (int (-2 ^ 255 + 1)) ∧
      (int256 h).toBytes = .ok (bytes (1 :: List.replicate 30 0 ++ [128])) ∧
      (mapItems supply toRecord (list [int256 h, plain k])).result =
        .ok (list [record ⟨[1, 0, 0, 2 ^ 63]⟩, record ⟨[5, 0, 0, 0]⟩]) ∧
      (toBuffer supply (list [int256 h, plain k])).result =
        .ok (bytes (1 :: List.replicate 30 0 ++ 128 :: 5 :: List.replicate 31 0)) ∧
      (∃ r : LimbRecord, ((scalar ⟨F, 4⟩).toInt256 >>= toRecord) = .ok (record r) ∧
        r.limbs = [2 ^ 64 - 3, 2 ^ 64 - 1, 2 ^ 64 - 1, 2 ^ 64 - 1]) ∧
      ∃ r : LimbRecord, ((scalar ⟨F, 3⟩).toInt256 >>= toRecord) = .ok (record r) ∧
        (scalar ⟨F, 3⟩).toWords = .ok (tuple (nats r.limbs)) := by
  intro supply h v k F
  obtain ⟨h₁, h₂, -, h₃⟩ := layouts_agree supply
  have hh : h.Holds v := ⟨rfl, rfl⟩
  have hv : v.Valid := by decide
  have hk : k.Valid := by decide
  have hr := toRecord_of_holds hh hv
  have hr' := toRecord_of_holds k.holds_toHalves hk
  have hl : LimbRecord.ofPatternOf v.toInt = ⟨[1, 0, 0, 2 ^ 63]⟩ := by decide
  have hl' : LimbRecord.ofPatternOf k.toInt = ⟨[5, 0, 0, 0]⟩ := by decide
  rw [hl] at hr
  rw [hl'] at hr'
  obtain ⟨-, r, -, hr₁, hn, hb⟩ := h₁ h v hh hv
  cases hr₁.symm.trans hr
  obtain ⟨rs, hrs, hm, hbs⟩ := h₂ [h, k.toHalves] [v, k] (.cons hh (.cons k.holds_toHalves .nil))
    (List.forall_mem_cons.mpr ⟨hv, List.forall_mem_singleton.mpr hk⟩)
  obtain _ | ⟨hc, _ | ⟨hc', ⟨⟩⟩⟩ := hrs
  cases hc.symm.trans hr
  cases hc'.symm.trans hr'
  obtain ⟨s, hs, -, hw⟩ := h₃ ⟨F, 4⟩ (by decide)
  obtain ⟨t, ht, hw', -⟩ := h₃ ⟨F, 3⟩ (by decide)
  exact ⟨⟨hh, hv, k.holds_toHalves, hk⟩, hr, hn, hb, hm, hbs,
    ⟨s, hs, (hw (by decide)).trans (by decide)⟩, t, ht, hw' (by decide)⟩

end Residue256
