import Residue256.Int256.Bytes
import Residue256.Proofs.Fallible
import Residue256.Proofs.Int256.Integer

namespace Residue256.Int256

open Fallible

variable {n : Int} {bits i k : Nat} {bs : List UInt8} {v : Int256} {vs : List Int256}

/-- The integer that bytes stand for in two's complement, the lowest byte first: the number with
these digits, brought into the range around zero. -/
def signedReading (bs : List UInt8) : Int :=
  Int.bmod (Digits.join 256 (bs.map UInt8.toNat)) (256 ^ bs.length)

def slot (bs : List UInt8) (i : Nat) : List UInt8 := (bs.drop (32 * i)).take 32

def slotReading (bs : List UInt8) (i : Nat) : Int := signedReading (slot bs i)

theorem ofPattern_eq_bmod (h : bits < 2 ^ 256) : ofPattern bits = Int.bmod bits (2 ^ 256) := by
  simp only [ofPattern, Int.bmod]
  split <;> split <;> omega

theorem pattern_ofPattern (h : bits < 2 ^ 256) : pattern (ofPattern bits) = bits := by
  simp only [ofPattern, pattern]
  split <;> omega

theorem map_ofNat_map_toNat : (bs.map UInt8.toNat).map UInt8.ofNat = bs := by
  rw [List.map_map]
  exact (List.map_congr_left fun b _ => UInt8.ofNat_toNat).trans (List.map_id bs)

theorem map_toNat_map_ofNat {ds : List Nat} (h : ∀ d ∈ ds, d < 256) :
    (ds.map UInt8.ofNat).map UInt8.toNat = ds := by
  rw [List.map_map]
  refine (List.map_congr_left fun d hd => ?_).trans (List.map_id ds)
  exact UInt8.toNat_ofNat_of_lt' (h d hd)

theorem lt_of_mem_map_toNat (bs : List UInt8) : ∀ d ∈ bs.map UInt8.toNat, d < 256 := by
  intro d hd
  obtain ⟨b, -, rfl⟩ := List.mem_map.mp hd
  exact b.toNat_lt

theorem join_bytes_lt (hl : bs.length = 32) : Digits.join 256 (bs.map UInt8.toNat) < 2 ^ 256 := by
  have h := Digits.join_lt (lt_of_mem_map_toNat bs)
  rwa [List.length_map, hl] at h

theorem signedReading_eq_ofPattern (hl : bs.length = 32) :
    signedReading bs = ofPattern (Digits.join 256 (bs.map UInt8.toNat)) := by
  have hp : 256 ^ 32 = 2 ^ 256 := by decide
  rw [ofPattern_eq_bmod (join_bytes_lt hl), signedReading, hl, hp]

theorem signedReading_toBytes (hv : v.Valid) : signedReading v.toBytes = v.toInt := by
  have hp : pattern v.toInt < 256 ^ 32 := pattern_lt
  rw [signedReading_eq_ofPattern length_toBytes, toBytes,
    map_toNat_map_ofNat (Digits.lt_of_mem_split (by decide)), Digits.join_split_of_lt hp,
    ofPattern_pattern hv.minInt_le hv.le_maxInt]

theorem ofBytes_eq_ofInt (hl : bs.length = 32) : ofBytes bs = ofInt (signedReading bs) := by
  rw [ofBytes, if_neg (not_not_intro hl), signedReading_eq_ofPattern hl]

theorem ofBytes_toBytes (hv : v.Valid) : ofBytes v.toBytes = .ok v := by
  rw [ofBytes_eq_ofInt length_toBytes, signedReading_toBytes hv, ofInt_toInt hv]

theorem exists_ofBytes_eq_ok (hl : bs.length = 32) :
    ∃ v, ofBytes bs = .ok v ∧ v.Valid ∧ v.toInt = signedReading bs ∧ v.toBytes = bs := by
  have hj := join_bytes_lt hl
  have hb := ofPattern_bounds hj
  rw [← signedReading_eq_ofPattern hl] at hb
  obtain ⟨v, h⟩ := exists_ofInt_eq_ok hb.1 hb.2
  obtain ⟨hv, hn⟩ := ofInt_eq_ok_iff.mp h
  have hs := Digits.split_join (by decide) (lt_of_mem_map_toNat bs)
  rw [List.length_map, hl] at hs
  refine ⟨v, by rw [ofBytes_eq_ofInt hl, h], hv, hn, ?_⟩
  rw [toBytes, hn, signedReading_eq_ofPattern hl, pattern_ofPattern hj, hs, map_ofNat_map_toNat]

theorem slots_eq_map : slots k bs = (List.range k).map (slot bs) := by
  induction k generalizing bs with
  | zero => rfl
  | succ k ih =>
    rw [slots, ih, List.range_succ_eq_map, List.map_cons, List.map_map]
    congr 1
    apply List.map_congr_left
    intro i _
    simp only [slot, Function.comp_apply, List.drop_drop]
    rw [show 32 + 32 * i = 32 * (i + 1) by omega]

theorem flatten_slots (h : bs.length = 32 * k) : (slots k bs).flatten = bs := by
  induction k generalizing bs with
  | zero =>
    rw [List.length_eq_zero_iff.mp h]
    rfl
  | succ k ih =>
    have ht : (bs.drop 32).length = 32 * k := by
      rw [List.length_drop]
      omega
    rw [slots, List.flatten_cons, ih ht, List.take_append_drop]

theorem length_slot (h : bs.length = 32 * k) (hi : i < k) : (slot bs i).length = 32 := by
  rw [slot, List.length_take, List.length_drop]
  omega

theorem slots_toBuffer : slots vs.length (toBuffer vs) = vs.map toBytes := by
  induction vs with
  | nil => rfl
  | cons v vs ih =>
    have hb : toBuffer (v :: vs) = v.toBytes ++ toBuffer vs := List.flatMap_cons
    rw [hb, List.length_cons, slots, List.take_left' length_toBytes,
      List.drop_left' length_toBytes, ih, List.map_cons]

theorem ofBuffer_toBuffer (h : ∀ v ∈ vs, v.Valid) : ofBuffer (toBuffer vs) = .ok vs := by
  have hl : (toBuffer vs).length / 32 = vs.length := by
    rw [length_toBuffer]
    omega
  rw [ofBuffer, if_neg (by rw [length_toBuffer]; omega), hl, slots_toBuffer]
  apply mapM_eq_ok
  rw [List.forall₂_map_left_iff, List.forall₂_same]
  exact fun v hv => ofBytes_toBytes (h v hv)

/-- A buffer of whole slots is read, value by value, and is the buffer of what was read. -/
theorem exists_ofBuffer_eq_ok (h : 32 ∣ bs.length) :
    ∃ vs, ofBuffer bs = .ok vs ∧ (∀ v ∈ vs, v.Valid) ∧ toBuffer vs = bs ∧
      vs.length = bs.length / 32 ∧ ∀ i (hi : i < vs.length), vs[i].toInt = slotReading bs i := by
  obtain ⟨k, hk⟩ := h
  have hd : bs.length / 32 = k := by omega
  have hs : ∀ s ∈ slots k bs, ∃ v, ofBytes s = .ok v ∧ v.Valid ∧ v.toInt = signedReading s ∧
      v.toBytes = s := by
    intro s hs
    rw [slots_eq_map] at hs
    obtain ⟨i, hi, rfl⟩ := List.mem_map.mp hs
    exact exists_ofBytes_eq_ok (length_slot hk (List.mem_range.mp hi))
  obtain ⟨vs, hp⟩ := exists_forall₂ hs
  have hb : vs.map toBytes = (slots k bs).map id := map_right_eq_map hp fun _ _ h => h.2.2.2
  rw [slots_eq_map] at hp
  have hl := hp.length_eq
  rw [List.length_map, List.length_range] at hl
  refine ⟨vs, ?_, forall_mem_right hp fun _ _ h => h.2.1, ?_, by rw [← hl, hd], fun i hi => ?_⟩
  · rw [ofBuffer, if_neg (by omega), hd, slots_eq_map]
    exact mapM_eq_ok (hp.imp fun _ _ h => h.1)
  · rw [toBuffer, List.flatMap_def, hb, List.map_id, flatten_slots hk]
  · have := (hp.get (by simpa [hl] using hi) hi).2.2.1
    simpa [slotReading] using this

theorem ofBuffer_ragged (h : ¬32 ∣ bs.length) : ofBuffer bs = .error (.bufferLength bs.length) :=
  if_pos (mt Nat.dvd_of_mod_eq_zero h)

theorem ofBuffer_eq_ok_iff : ofBuffer bs = .ok vs ↔ (∀ v ∈ vs, v.Valid) ∧ toBuffer vs = bs := by
  constructor
  · intro h
    by_cases hd : 32 ∣ bs.length
    · obtain ⟨ws, hw, hv, hb, -⟩ := exists_ofBuffer_eq_ok hd
      cases hw.symm.trans h
      exact ⟨hv, hb⟩
    · cases (ofBuffer_ragged hd).symm.trans h
  · rintro ⟨hv, rfl⟩
    exact ofBuffer_toBuffer hv

theorem ofBuffer_append {ds : List UInt8} {ws : List Int256} (hb : ofBuffer bs = .ok vs)
    (hd : ofBuffer ds = .ok ws) : ofBuffer (bs ++ ds) = .ok (vs ++ ws) := by
  obtain ⟨hv, rfl⟩ := ofBuffer_eq_ok_iff.mp hb
  obtain ⟨hw, rfl⟩ := ofBuffer_eq_ok_iff.mp hd
  exact ofBuffer_eq_ok_iff.mpr ⟨List.forall_mem_append.mpr ⟨hv, hw⟩, List.flatMap_append⟩

end Residue256.Int256
