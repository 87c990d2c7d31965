import Residue256.Proofs.Int256.Arithmetic
import Residue256.Proofs.Json.Naturals
import Residue256.Proofs.LimbRecord.Report

namespace Residue256

open Fallible

namespace LimbRecord

variable {r s : LimbRecord}

theorem Valid.limbs_ne_nil (hr : r.Valid) : r.limbs ≠ [] := by
  have hl := hr.length_eq
  rintro h
  rw [h] at hl
  cases hl

theorem read?_toJson (hr : r.Valid) : Json.read? r.toJson =
    some (.object [(limbsKey, .array (r.limbs.map fun (n : Nat) => .int n))]) := by
  have ht : r.toJson = '\x7b' :: '"' :: (limbsKey.toList ++ '"' :: ':' :: '[' ::
      ([','].intercalate (r.limbs.map (Nat.toDigits 10)) ++ [']', '\x7d'])) := by
    have hl : "\x7b\"limbs\":[".toList =
        '\x7b' :: '"' :: (limbsKey.toList ++ ['"', ':', '[']) := rfl
    have hr : "]\x7d".toList = [']', '\x7d'] := rfl
    have hd : digits = Nat.toDigits 10 := rfl
    unfold toJson
    rw [hl, hr, hd]
    simp only [List.cons_append, List.append_assoc, List.nil_append]
  have hp : ∀ c ∈ limbsKey.toList, Json.Token.isPlain c = true := List.all_eq_true.mp rfl
  have hs : ∀ n ∈ r.limbs, Json.Short n := fun n hn => Json.short_of_lt (hr.lt n hn)
  rw [ht, Json.read?_object hp hs hr.limbs_ne_nil, String.ofList_toList]

theorem ofJson_toJson (hr : r.Valid) : ofJson r.toJson = .ok r := by
  have hm : Json.lastMember? limbsKey
      [(limbsKey, .array (r.limbs.map fun (n : Nat) => .int n))] =
      some (.array (r.limbs.map fun (n : Nat) => .int n)) := by
    simp [Json.lastMember?]
  rw [ofJson, read?_toJson hr]
  dsimp only
  rw [ofJsonValue, hm]
  dsimp only
  rw [accept_eq_ok_iff, List.map_map]
  exact ⟨hr, rfl⟩

theorem toJson_inj (hr : r.Valid) (hs : s.Valid) : r.toJson = s.toJson ↔ r = s := by
  refine ⟨fun h => ?_, fun h => h ▸ rfl⟩
  have h' := ofJson_toJson hr
  rw [h, ofJson_toJson hs] at h'
  cases h'
  rfl

/-- The text of a record, with its limbs in decimal. -/
theorem ofList_toJson : String.ofList r.toJson =
    "\x7b\"limbs\":[" ++ ",".intercalate (r.limbs.map toString) ++ "]\x7d" := by
  rw [← String.toList_inj, String.toList_ofList, String.toList_append, String.toList_append,
    String.toList_intercalate, List.map_map]
  have hd : r.limbs.map (String.toList ∘ toString) = r.limbs.map digits :=
    List.map_congr_left fun n _ => Nat.toList_repr
  rw [hd]
  rfl

end LimbRecord

namespace Operand

variable {supply : Supply} {r : LimbRecord}

theorem toTable_bind_recordOfValue (hr : r.Valid) :
    ((record r).toTable >>= fun d => (d.recordOfValue supply).result) = .ok (record r) := by
  have ht : (record r).toTable = .ok (table [(LimbRecord.limbsKey, tuple (nats r.limbs))]) := rfl
  have hi : supply.items (tuple (nats r.limbs)) = .ok ((nats r.limbs).map .ok) := rfl
  rw [ht, ok_bind, recordOfValue, List.lookup_cons_self]
  dsimp only
  rw [recordOfEntry, recordOfLimbs_of_items hi, recordOf_eq_ok_iff]
  exact ⟨r, rfl, hr, rfl⟩

theorem toJson_bind_recordOfJson (hr : r.Valid) :
    ((record r).toJson >>= recordOfJson) = .ok (record r) := by
  have ht : (record r).toJson = .ok (text (String.ofList r.toJson)) := rfl
  rw [ht, ok_bind, recordOfJson, String.toList_ofList, LimbRecord.ofJson_toJson hr]
  rfl

theorem compare_record (r : LimbRecord) : compare .eq (record r) (record r) = .ok true := by
  have h := (equal_iff (.record r) (.record r)).mpr ⟨rfl, Related.refl⟩
  exact congrArg Except.ok h

/-- A limb record is stored as a table and as a text, which has its limbs in decimal, and either is
read as the same record. Different records have different texts. So the record of a 256-bit integer
is read back as one of the same integer, and that makes the 256-bit integer again. -/
theorem stored_records_are_read_back (supply : Supply) :
    (∀ r : LimbRecord, r.Valid →
      (record r).toTable = .ok (table [("limbs", tuple (nats r.limbs))]) ∧
      ((record r).toTable >>= fun d => (d.recordOfValue supply).result) = .ok (record r) ∧
      (record r).toJson =
        .ok (text ("\x7b\"limbs\":[" ++ ",".intercalate (r.limbs.map toString) ++ "]\x7d")) ∧
      ((record r).toJson >>= recordOfJson) = .ok (record r) ∧
      compare .eq (record r) (record r) = .ok true) ∧
    (∀ r s : LimbRecord, r.Valid → s.Valid → r ≠ s → (record r).toJson ≠ (record s).toJson) ∧
    ∀ x : Int256.Given, ∃ a b, (x.toOperand.toRecord >>= toJson >>= recordOfJson) = .ok a ∧
      a.toInt = .ok (int x.toInt) ∧ (a.toInt >>= int256OfNumber) = .ok b ∧
      compare .eq b x.toOperand = .ok true := by
  refine ⟨fun r hr => ⟨rfl, toTable_bind_recordOfValue hr, ?_, toJson_bind_recordOfJson hr,
    compare_record r⟩, fun r s hr hs hne h => ?_, fun x => ?_⟩
  · rw [← LimbRecord.ofList_toJson]
    rfl
  · simp only [toJson, askRecord, Except.ok.injEq, text.injEq, String.ofList_inj] at h
    exact hne ((LimbRecord.toJson_inj hr hs).mp h)
  · have hn : (LimbRecord.ofPatternOf x.toInt).toInt = x.toInt :=
      LimbRecord.toInt_ofPatternOf x.fits.1 x.fits.2
    have hi : (record (LimbRecord.ofPatternOf x.toInt)).toInt = .ok (int x.toInt) := by
      rw [toInt, hn]
    refine ⟨record (LimbRecord.ofPatternOf x.toInt), plain x.value, ?_, hi, ?_, ?_⟩
    · rw [Int256.Given.toOperand, toRecord_of_holds x.holds x.valid, ok_bind]
      exact toJson_bind_recordOfJson LimbRecord.valid_ofPatternOf
    · rw [hi]
      exact int256OfNumber_of_ofInt (Int256.ofInt_toInt x.valid)
    · exact Int256.Given.equal_of_toInt_eq (x := .ofValid x.valid) rfl

theorem stored_records_are_read_back_large :
    let r : LimbRecord := ⟨[2 ^ 53 + 1, 0, 2 ^ 63, 2 ^ 64 - 1]⟩
    let s : LimbRecord := ⟨[2 ^ 53, 0, 2 ^ 63, 2 ^ 64 - 1]⟩
    r.Valid ∧ s.Valid ∧
      (record r).toTable = .ok (table [("limbs",
        tuple [int (2 ^ 53 + 1), int 0, int (2 ^ 63), int (2 ^ 64 - 1)])]) ∧
      ((record r).toTable >>= fun d => (d.recordOfValue fun _ => []).result) = .ok (record r) ∧
      ((record r).toJson >>= recordOfJson) = .ok (record r) ∧
      (record r).toJson ≠ (record s).toJson := by
  intro r s
  obtain ⟨h₁, h₂, -⟩ := stored_records_are_read_back fun _ => []
  have hr : r.Valid := by decide
  have hs : s.Valid := by decide
  obtain ⟨ht, hb, -, hj, -⟩ := h₁ r hr
  exact ⟨hr, hs, ht, hb, hj, h₂ r s hr hs (by decide)⟩

end Operand

end Residue256
