import Residue256.Operand.Construct
import Residue256.Proofs.LimbRecord.Acceptance

namespace Residue256

open Fallible

namespace LimbRecord

variable {counted : Bool} {i : Nat} {ws : List (Option Int)} {before rest ks : List Int} {w : Int}

theorem accept_of_many (hl : 4 < ws.length) :
    accept counted ws = .error [.tooMany (if counted then some ws.length else none)] := if_pos hl

theorem complaintAt_eq_some (h : ¬∃ n, ws[i]? = some (some n)) :
    complaintAt ws i = some (if i < ws.length then .notInteger i else .absentLimb i) := by
  rw [complaintAt]
  cases hw : ws[i]? with
  | none => rw [if_neg (Nat.not_lt.mpr (List.getElem?_eq_none_iff.mp hw))]
  | some w =>
    obtain ⟨hi, -⟩ := List.getElem?_eq_some_iff.mp hw
    cases w with
    | none => rw [if_pos hi]
    | some n => exact absurd ⟨n, hw⟩ h

/-- Each position without an integer is reported once, and the positions are reported in order. -/
theorem accept_of_positions (hl : ws.length ≤ 4) (h : ∃ i < 4, ¬∃ n, ws[i]? = some (some n)) :
    ∃ positions : List Nat, positions.Pairwise (· < ·) ∧
      (∀ i, i ∈ positions ↔ i < 4 ∧ ¬∃ n, ws[i]? = some (some n)) ∧
      accept counted ws = .error (positions.map fun i =>
        if i < ws.length then .notInteger i else .absentLimb i) := by
  let bad : Nat → Bool := fun i => (complaintAt ws i).isSome
  have hb : ∀ i, bad i = true ↔ ¬∃ n, ws[i]? = some (some n) := by
    intro i
    rw [Option.isSome_iff_ne_none, ne_eq, complaintAt_eq_none_iff]
  have hc : (List.range 4).filterMap (complaintAt ws) =
      ((List.range 4).filter bad).map fun i =>
        if i < ws.length then .notInteger i else .absentLimb i := by
    rw [← List.filterMap_eq_map, List.filterMap_filter]
    apply List.filterMap_congr
    intro i _
    by_cases hi : bad i = true
    · rw [if_pos hi, complaintAt_eq_some ((hb i).mp hi)]
      rfl
    · rw [if_neg hi, complaintAt_eq_none_iff]
      exact not_not.mp (mt (hb i).mpr hi)
  refine ⟨(List.range 4).filter bad, List.pairwise_lt_range.filter bad, fun i => ?_, ?_⟩
  · rw [List.mem_filter, List.mem_range, hb]
  · rw [accept, if_neg (Nat.not_lt.mpr hl), ← hc]
    split
    · obtain ⟨i, hi, hn⟩ := h
      rename_i hnil
      exact absurd (complaints_eq_nil_iff.mp hnil i hi) hn
    · rfl

theorem rangeComplaint_append (h : ∀ n ∈ before, isWord n = true) (hw : ¬isWord w = true) :
    rangeComplaint i (before ++ w :: rest) = some (.ofLimb (i + before.length) w) := by
  induction before generalizing i with
  | nil => rw [List.nil_append, rangeComplaint, if_neg hw, List.length_nil, Nat.add_zero]
  | cons n before ih =>
    rw [List.forall_mem_cons] at h
    rw [List.cons_append, rangeComplaint, if_pos h.1, ih h.2, List.length_cons, Nat.add_right_comm,
      Nat.add_assoc]

theorem accept_of_not_isWord (hl : ks.length = 4) (hi : i < ks.length)
    (h : ∀ n ∈ ks.take i, isWord n = true) (hw : ¬isWord ks[i] = true) :
    accept counted (ks.map some) = .error [.ofLimb i ks[i]] := by
  have hs : ks = ks.take i ++ ks[i] :: ks.drop (i + 1) := by
    rw [← List.drop_eq_getElem_cons hi, List.take_append_drop]
  have hc : rangeComplaint 0 (ks.take i ++ ks[i] :: ks.drop (i + 1)) = _ :=
    rangeComplaint_append h hw
  rw [← hs, List.length_take_of_le (Nat.le_of_lt hi), Nat.zero_add] at hc
  rw [accept_map_some hl, hc]

end LimbRecord

namespace Operand

variable {supply : Supply} {counted : Bool} {limbs a : Operand} {ws : List Operand} {ks : List Int}
  {i : Nat} {n : Int}

theorem limb?_eq_some_iff {w : Operand} : w.limb? = some n ↔ w = int n := by
  constructor
  · intro h
    cases w with
    | number x =>
      cases x with
      | int m =>
        cases h
        rfl
      | truth b => cases h
      | real y => cases h
    | _ => cases h
  · rintro rfl
    rfl

theorem map_limb?_getElem?_iff : (ws.map limb?)[i]? = some (some n) ↔ ws[i]? = some (int n) := by
  rw [List.getElem?_map, Option.map_eq_some_iff]
  simp only [limb?_eq_some_iff, exists_eq_right]

theorem map_limb?_eq_iff : ws.map limb? = ks.map some ↔ ws = ks.map int := by
  induction ws generalizing ks with
  | nil => cases ks <;> simp
  | cons w ws ih =>
    cases ks with
    | nil => simp
    | cons k ks => simp [limb?_eq_some_iff, ih]

theorem recordOf_eq_ok_iff : recordOf counted ws = .ok a ↔
    ∃ r : LimbRecord, a = record r ∧ r.Valid ∧ ws = nats r.limbs := by
  have hn : ∀ r : LimbRecord, ws.map limb? = r.limbs.map (fun (n : Nat) => some (n : Int)) ↔
      ws = nats r.limbs := by
    intro r
    have h : ws.map limb? = (r.limbs.map fun (n : Nat) => (n : Int)).map some ↔ _ :=
      map_limb?_eq_iff
    rwa [List.map_map, List.map_map] at h
  rw [recordOf]
  constructor
  · intro h
    cases hc : LimbRecord.accept counted (ws.map limb?) with
    | ok r =>
      rw [hc] at h
      cases h
      obtain ⟨hr, hw⟩ := LimbRecord.accept_eq_ok_iff.mp hc
      exact ⟨r, rfl, hr, (hn r).mp hw⟩
    | error cs =>
      rw [hc] at h
      cases h
  · rintro ⟨r, rfl, hr, hw⟩
    rw [LimbRecord.accept_eq_ok_iff.mpr ⟨hr, (hn r).mpr hw⟩]
    rfl

theorem exists_recordOf_iff : (∃ a, recordOf counted ws = .ok a) ↔
    ws.length = 4 ∧ ∀ w ∈ ws, ∃ n, w = int n ∧ 0 ≤ n ∧ n < 2 ^ 64 := by
  simp only [recordOf_eq_ok_iff]
  constructor
  · rintro ⟨-, r, -, hr, rfl⟩
    refine ⟨by rw [nats, List.length_map, hr.length_eq], ?_⟩
    rw [nats, List.forall_mem_map]
    intro n hn
    have := hr.lt n hn
    exact ⟨n, rfl, by omega, by omega⟩
  · rintro ⟨hl, h⟩
    have hw : ∀ w ∈ ws, ∃ n : Nat, w = int n ∧ n < 2 ^ 64 := by
      intro w hm
      obtain ⟨n, rfl, h₀, hn⟩ := h w hm
      exact ⟨n.toNat, by rw [Int.toNat_of_nonneg h₀], by omega⟩
    obtain ⟨ns, hns⟩ := exists_forall₂ hw
    have hn : nats ns = ws.map id := map_right_eq_map hns fun _ _ h => h.1.symm
    rw [List.map_id] at hn
    refine ⟨record ⟨ns⟩, ⟨ns⟩, rfl, ⟨?_, forall_mem_right hns fun _ _ h => h.2⟩, hn.symm⟩
    rw [← hl, hns.length_eq]

theorem recordOf_of_accept {cs : List Complaint}
    (h : LimbRecord.accept counted (ws.map limb?) = .error cs) :
    recordOf counted ws = .error (.badRecord cs) := by
  rw [recordOf, h]
  rfl

theorem recordOf_of_not_isWord (hl : ks.length = 4) (hi : i < ks.length)
    (hp : ∀ n ∈ ks.take i, 0 ≤ n ∧ n < 2 ^ 64) (hw : ¬(0 ≤ ks[i] ∧ ks[i] < 2 ^ 64)) :
    recordOf counted (ks.map int) = .error (.badRecord [.ofLimb i ks[i]]) := by
  apply recordOf_of_accept
  rw [map_limb?_eq_iff.mpr rfl]
  apply LimbRecord.accept_of_not_isWord hl hi
  · simpa only [LimbRecord.isWord_iff] using hp
  · rwa [LimbRecord.isWord_iff]

theorem recordOfLimbs_of_items (h : supply.items limbs = .ok (ws.map .ok)) :
    (recordOfLimbs supply limbs).result = recordOf true ws := by
  simp only [recordOfLimbs, Supply.read, h, Items.gather_map_ok]
  rfl

/-- Limbs make a record of themselves if they are four integers of 64 bits and no truth values. What
else is given is reported as no valid record. More than four limbs are reported as such. Otherwise
each position that is absent, or has something there that is no integer, is reported by itself, from
the first to the last. If there are four integers, the first one out of range is reported, by its
place and value if it can be written. -/
theorem limbs_are_admitted_or_reported (supply : Supply) :
    (∀ (limbs : Operand) (ws : List Operand), supply.items limbs = .ok (ws.map .ok) →
      let result := (recordOfLimbs supply limbs).result
      ((∃ a, result = .ok a) ↔
        ws.length = 4 ∧ ∀ w ∈ ws, ∃ n, w = int n ∧ 0 ≤ n ∧ n < 2 ^ 64) ∧
      (∀ a, result = .ok a → ∃ r : LimbRecord, a = record r ∧ r.Valid ∧ nats r.limbs = ws) ∧
      (4 < ws.length → result = .error (.badRecord [.tooMany (some ws.length)])) ∧
      (ws.length ≤ 4 → (∃ i < 4, ¬∃ n, ws[i]? = some (int n)) →
        ∃ positions : List Nat, positions.Pairwise (· < ·) ∧
          (∀ i, i ∈ positions ↔ i < 4 ∧ ¬∃ n, ws[i]? = some (int n)) ∧
          result = .error (.badRecord (positions.map fun i =>
            if i < ws.length then .notInteger i else .absentLimb i))) ∧
      ∀ ks : List Int, ws = ks.map int → ks.length = 4 → ∀ (i : Nat) (hi : i < ks.length),
        (∀ n ∈ ks.take i, 0 ≤ n ∧ n < 2 ^ 64) → ¬(0 ≤ ks[i] ∧ ks[i] < 2 ^ 64) →
          (ks[i].natAbs < 10 ^ Number.maxDigits →
            result = .error (.badRecord [.limbRange i ks[i]])) ∧
          (10 ^ Number.maxDigits ≤ ks[i].natAbs → result = .error (.badRecord [.unnamedLimb]))) ∧
    (∀ cs, (Fault.badRecord cs).kind = "ValidationError") ∧
    ∀ (i k : Nat) (n : Int),
      ((Complaint.tooMany (some k)).code = "too_long" ∧
        (Complaint.tooMany (some k)).path = ["limbs"]) ∧
      ((Complaint.notInteger i).code = "int_type" ∧
        (Complaint.notInteger i).path = ["limbs", toString i]) ∧
      ((Complaint.absentLimb i).code = "missing" ∧
        (Complaint.absentLimb i).path = ["limbs", toString i]) ∧
      ((Complaint.limbRange i n).code = "value_error" ∧
        (Complaint.limbRange i n).path = ["limbs"] ∧
        (Complaint.limbRange i n).message =
          some s!"Value error, limb {i} out of u64 range: {n}") ∧
      Complaint.unnamedLimb.code = "value_error" ∧ Complaint.unnamedLimb.path = ["limbs"] ∧
        Complaint.unnamedLimb.message = some ("Value error, " ++ digitsText none) := by
  refine ⟨fun limbs ws h => ?_, fun cs => rfl, fun i k n =>
    ⟨⟨rfl, rfl⟩, ⟨rfl, rfl⟩, ⟨rfl, rfl⟩, ⟨rfl, rfl, rfl⟩, rfl, rfl, rfl⟩⟩
  intro result
  have hr : result = recordOf true ws := recordOfLimbs_of_items h
  rw [hr]
  refine ⟨exists_recordOf_iff, fun a ha => ?_, fun hl => ?_, fun hl hp => ?_, ?_⟩
  · obtain ⟨r, rfl, hv, rfl⟩ := recordOf_eq_ok_iff.mp ha
    exact ⟨r, rfl, hv, rfl⟩
  · rw [recordOf_of_accept (LimbRecord.accept_of_many (by rwa [List.length_map])), if_pos rfl,
      List.length_map]
  · simp only [← map_limb?_getElem?_iff] at hp ⊢
    obtain ⟨positions, ho, hm, hc⟩ :=
      LimbRecord.accept_of_positions (by rwa [List.length_map]) hp
    rw [List.length_map] at hc
    exact ⟨positions, ho, hm, recordOf_of_accept hc⟩
  · rintro ks rfl hl i hi hp hw
    rw [recordOf_of_not_isWord hl hi hp hw]
    refine ⟨fun hn => ?_, fun hn => ?_⟩
    · rw [Complaint.ofLimb_of_lt hn]
    · rw [Complaint.ofLimb_of_le hn]

/-- The least limb with too many digits to be written is reported without its place and value. -/
theorem long_limb_is_not_named :
    let limb : Int := 10 ^ Number.maxDigits
    let result := (recordOfLimbs (fun _ => []) (list [int 0, int limb, int 0, int 0])).result
    ¬(0 ≤ limb ∧ limb < 2 ^ 64) ∧ result ≠ .error (.badRecord [.limbRange 1 limb]) ∧
      ∃ c, result = .error (.badRecord [c]) ∧ c.code = "value_error" ∧
        c.message = some ("Value error, Exceeds the limit (4300 digits) for integer string " ++
          "conversion; use sys.set_int_max_str_digits() to increase the limit") := by
  intro limb result
  have hn : 10 ^ Number.maxDigits ≤ limb.natAbs := Number.le_natAbs_ten_pow _
  -- From here on only its size counts, and it is too long a number to compute with.
  clear_value limb
  have hlong := Number.lt_natAbs_of_le hn
  have hw : ¬(0 ≤ limb ∧ limb < 2 ^ 64) := by omega
  have hi : 1 < [0, limb, 0, 0].length := by simp
  have hr : result = .error (.badRecord [.ofLimb 1 limb]) :=
    recordOf_of_not_isWord rfl hi (by simp) hw
  rw [Complaint.ofLimb_of_le hn] at hr
  exact ⟨hw, by simp [hr], _, hr, rfl, rfl⟩

theorem limbs_are_admitted_or_reported_ends :
    let new (ws : List Operand) := (recordOfLimbs (fun _ => []) (list ws)).result
    (∃ r : LimbRecord, new [int 0, int (2 ^ 64 - 1), int 0, int 7] = .ok (record r) ∧ r.Valid ∧
        nats r.limbs = [int 0, int (2 ^ 64 - 1), int 0, int 7]) ∧
      new [nothing, int (-1), int 0, int 0, int 0] = .error (.badRecord [.tooMany (some 5)]) ∧
      (∃ cs, new [truth true, int (2 ^ 64), text "7"] = .error (.badRecord cs) ∧
        .notInteger 0 ∈ cs ∧ .notInteger 2 ∈ cs ∧ .absentLimb 3 ∈ cs) ∧
      new [int 0, int (2 ^ 64), int (-1), int 0] =
        .error (.badRecord [.limbRange 1 (2 ^ 64)]) := by
  intro new
  obtain ⟨h, -⟩ := limbs_are_admitted_or_reported fun _ => []
  have hn : ∀ ws : List Operand, Supply.items (fun _ => []) (list ws) = .ok (ws.map .ok) :=
    fun _ => rfl
  obtain ⟨hok, hr, -⟩ := h _ [int 0, int (2 ^ 64 - 1), int 0, int 7] (hn _)
  obtain ⟨a, ha⟩ := hok.mpr ⟨rfl, by simp⟩
  obtain ⟨r, rfl, hv, hl⟩ := hr a ha
  obtain ⟨-, -, hmany, -⟩ := h _ [nothing, int (-1), int 0, int 0, int 0] (hn _)
  obtain ⟨-, -, -, hpos, -⟩ := h _ [truth true, int (2 ^ 64), text "7"] (hn _)
  obtain ⟨positions, -, hm, hp⟩ := hpos (by decide) ⟨3, by decide, by simp⟩
  obtain ⟨-, -, -, -, hrange⟩ := h _ [int 0, int (2 ^ 64), int (-1), int 0] (hn _)
  refine ⟨⟨r, ha, hv, hl⟩, hmany (by decide), ⟨_, hp, ?_, ?_, ?_⟩,
    (hrange [0, 2 ^ 64, -1, 0] rfl rfl 1 (by decide) (by decide) (by decide)).1
      (Number.isWritable_int.mp rfl)⟩
  · exact List.mem_map.mpr ⟨0, (hm 0).mpr (by simp), rfl⟩
  · exact List.mem_map.mpr ⟨2, (hm 2).mpr (by simp), rfl⟩
  · exact List.mem_map.mpr ⟨3, (hm 3).mpr (by simp), rfl⟩

end Operand

end Residue256
