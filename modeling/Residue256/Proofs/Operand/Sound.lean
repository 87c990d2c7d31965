import Residue256.Proofs.Conversion
import Residue256.Proofs.LimbRecord.Pattern
import Residue256.Proofs.Operand.Values
import Residue256.Proofs.Sorting.Permutation

namespace Residue256

open Fallible

namespace Int256

variable {n : Int} {v w : Int256} {bs : List UInt8}

theorem gives_ofInt (n : Int) : Gives Valid (ofInt n) := by
  cases h : ofInt n with
  | ok v => exact valid_of_ofInt h
  | error e => trivial

theorem gives_ofBytes (bs : List UInt8) : Gives Valid (ofBytes bs) := by
  rw [ofBytes]
  split
  · trivial
  · exact gives_ofInt _

theorem gives_ofBuffer (bs : List UInt8) : Gives (fun vs => ∀ v ∈ vs, v.Valid) (ofBuffer bs) := by
  rw [ofBuffer]
  split
  · trivial
  · exact ends_mapM fun bs _ => gives_ofBytes bs

end Int256

namespace LimbRecord

theorem gives_accept (counted : Bool) (ws : List (Option Int)) :
    Gives Valid (accept counted ws) := by
  cases h : accept counted ws with
  | ok r => exact (accept_eq_ok_iff.mp h).1
  | error cs => trivial

theorem gives_ofJson (cs : List Char) : Gives Valid (ofJson cs) := by
  rw [ofJson]
  split
  · trivial
  · rw [ofJsonValue.eq_def]
    split
    · split
      · trivial
      · exact gives_accept true _
      · trivial
    · trivial

end LimbRecord

namespace Target

theorem gives_convert? (t : Target) {x : Operand} (hx : x.Sound) :
    Gives (fun y => ∀ z ∈ y, z.Reduced) (t.convert? x) := by
  rw [convert?]
  apply (gives_any t.field).bind
  intro F _
  cases x with
  | int256 h =>
    obtain ⟨v, hh, hv⟩ := Operand.sound_int256.mp hx
    simp only [hh.value?, Int256.toScalar?_eq_ok hv]
    intro z hz
    split at hz
    · cases hz
      exact Scalar.reduced_ofInt
    · cases hz
  | _ => trivial

theorem gives_convert (t : Target) {x : Operand} (hx : x.Sound) :
    Gives Scalar.Reduced (t.convert x) := by
  rw [convert]
  apply (t.gives_convert? hx).bind
  intro y hy
  split
  · exact hy _ rfl
  · trivial
  · trivial

end Target

namespace Operand

variable {a b x : Operand} {h k : Int256.Halves} {supply : Supply} {is : Items}

theorem gives_value (hh : (int256 h).Sound) : Gives Int256.Valid h.value := by
  obtain ⟨v, hv, hr⟩ := sound_int256.mp hh
  rw [hv.value]
  exact hr

theorem gives_askScalar {f : Scalar → Operand} (hf : ∀ y, (f y).Sound) :
    Gives Sound (a.askScalar f) := by
  cases a with
  | scalar y => exact hf y
  | _ => trivial

theorem gives_askInt256 {f : Int256 → Except Fault Operand} (ha : a.Sound)
    (hf : ∀ v, v.Valid → Gives Sound (f v)) : Gives Sound (a.askInt256 f) := by
  cases a with
  | int256 h => exact (gives_value ha).bind hf
  | _ => trivial

theorem gives_askRecord {f : LimbRecord → Operand} (hf : ∀ r, (f r).Sound) :
    Gives Sound (a.askRecord f) := by
  cases a with
  | record r => exact hf r
  | _ => trivial

theorem gives_makeScalar : Gives Sound (makeScalar a b) := by
  cases a with
  | family F =>
    rw [makeScalar]
    split
    · trivial
    · apply (gives_any (fieldOf F)).map
      exact fun F _ => sound_scalar.mpr Scalar.reduced_ofInt
  | _ => trivial

theorem gives_scalarOfWords (hs : supply.Sound) (hb : b.Sound) :
    Gives Sound (scalarOfWords supply a b).result := by
  rw [scalarOfWords]
  split
  · trivial
  · rename_i F _
    apply Supply.gives_read hs hb
    intro is hi
    apply (Items.gives_gather hi).bind
    intro ws _
    apply (gives_any (Scalar.magnitude checkWord ws)).bind
    intro n _
    apply (gives_any (fieldOf F)).bind
    intro F _
    rw [Scalar.ofResidue]
    split
    · exact sound_scalar.mpr Scalar.reduced_ofInt
    · trivial

theorem gives_checkHalf {low high : Int} {fault : Number → Fault} :
    Gives (fun x => x.within low high = true ∧ x.whole? = a.whole?)
      (checkHalf low high fault a) := by
  cases a with
  | number x =>
    rw [checkHalf]
    split
    · exact ⟨‹_›, rfl⟩
    · trivial
  | _ => trivial

/-- Halves are checked to be in range, and are kept as they are. -/
theorem gives_inRange_int256OfParts :
    Gives (fun x => ∃ h, x = int256 h ∧ h.InRange ∧ h.low.whole? = a.whole? ∧
      h.high.whole? = b.whole?) (int256OfParts a b) := by
  apply gives_checkHalf.bind
  rintro low ⟨hl, hl'⟩
  apply gives_checkHalf.bind
  rintro high ⟨hh, hh'⟩
  exact ⟨⟨low, high⟩, rfl, ⟨hl, hh⟩, hl', hh'⟩

theorem gives_int256OfParts (ha : a.whole?.isSome) (hb : b.whole?.isSome) :
    Gives Sound (int256OfParts a b) := by
  obtain ⟨m, hm⟩ := Option.isSome_iff_exists.mp ha
  obtain ⟨n, hn⟩ := Option.isSome_iff_exists.mp hb
  apply gives_inRange_int256OfParts.imp
  rintro _ ⟨h, rfl, hr, hl, hh⟩
  have hv := hr.holds (hl.trans hm) (hh.trans hn)
  exact sound_int256.mpr ⟨_, hv, hr.valid hv⟩

theorem gives_int256OfNumber : Gives Sound a.int256OfNumber := by
  cases a with
  | number x =>
    rw [int256OfNumber]
    split
    · trivial
    · split
      · exact (Int256.gives_ofInt _).map fun v hv => sound_plain hv
      · trivial
  | _ => trivial

theorem gives_int256OfBytes : Gives Sound a.int256OfBytes := by
  rw [int256OfBytes]
  split
  · trivial
  · split
    · trivial
    · apply (gives_any a.toByteList).bind
      intro bs _
      apply (Int256.gives_ofBytes bs).bind
      exact fun v hv => sound_plain hv

theorem gives_wrappingNeg (ha : a.Sound) : Gives Sound a.wrappingNeg := by
  apply gives_askInt256 ha
  intro v _
  exact (Int256.gives_ofInt _).map fun w hw => sound_plain hw

theorem gives_toInt (ha : a.Sound) : Gives Sound a.toInt := by
  cases a with
  | record r => exact sound_of_empty rfl
  | int256 h => exact (gives_value ha).bind fun v _ => sound_of_empty rfl
  | _ => trivial

theorem gives_toWords : Gives Sound a.toWords :=
  gives_askScalar fun _ => sound_tuple.mpr (sound_nats _)

theorem gives_signed : Gives Sound a.signed := gives_askScalar fun _ => sound_of_empty rfl

theorem gives_isNegative : Gives Sound a.isNegative := by
  cases a with
  | scalar y => exact sound_of_empty rfl
  | int256 h => exact sound_of_empty rfl
  | _ => trivial

theorem gives_toParts : Gives Sound a.toParts := by
  cases a with
  | int256 h => exact sound_of_empty rfl
  | _ => trivial

theorem gives_toBytes (ha : a.Sound) : Gives Sound a.toBytes :=
  gives_askInt256 ha fun _ _ => sound_of_empty rfl

theorem gives_toTable : Gives Sound a.toTable := by
  apply gives_askRecord
  intro r
  rw [sound_table, List.forall_mem_singleton, sound_tuple]
  exact sound_nats _

theorem gives_toJson : Gives Sound a.toJson := gives_askRecord fun _ => sound_of_empty rfl

theorem gives_wholeOfText (shown : String) (cs : List Char) :
    Gives Sound (wholeOfText shown cs) := by
  rw [wholeOfText]
  split
  · trivial
  · split
    · exact sound_of_empty rfl
    · trivial

theorem gives_toWhole (ha : a.Sound) : Gives Sound a.toWhole := by
  cases a with
  | number x =>
    cases x with
    | real x =>
      rw [toWhole]
      split
      · exact sound_of_empty rfl
      · trivial
    | _ => exact sound_of_empty rfl
  | text s => exact gives_wholeOfText _ _
  | bytes bs => exact gives_wholeOfText _ _
  | scalar y => exact sound_of_empty rfl
  | int256 h => exact (gives_value ha).map fun v _ => sound_of_empty rfl
  | _ => trivial

theorem gives_describe (ha : a.Sound) : Gives Sound a.describe := by
  rw [describe]
  split
  · trivial
  · rename_i F _
    apply (gives_any (fieldOf F)).bind
    intro F _
    apply sound_list.mpr
    simp only [List.forall_mem_cons, sound_scalar]
    exact ⟨ha, sound_of_empty rfl, Scalar.reduced_ofInt, Scalar.reduced_ofInt,
      Scalar.reduced_ofInt, List.forall_mem_nil _⟩

theorem gives_fieldOfName : Gives Sound a.fieldOfName := by
  cases a with
  | text s => exact (gives_any (Field.ofName s)).map fun F _ => sound_of_empty rfl
  | _ => trivial

theorem gives_toInt256 (ha : a.Sound) : Gives Sound a.toInt256 := by
  cases a with
  | scalar y =>
    obtain ⟨v, hy, hv, -⟩ := exists_toInt256_eq_ok (sound_scalar.mp ha)
    rw [hy]
    exact sound_plain hv
  | _ => trivial

theorem gives_window : Gives Sound a.window := by
  apply (gives_any (Target.ofOperand a).field).bind
  intro F _
  obtain ⟨least, greatest, hw, hl, hg, -⟩ := F.exists_window_eq_ok
  rw [hw]
  apply sound_tuple.mpr
  simp only [List.forall_mem_cons]
  exact ⟨sound_plain hl, sound_plain hg, List.forall_mem_nil _⟩

theorem gives_toScalar? (ha : a.Sound) : Gives Sound (a.toScalar? b) := by
  apply ((Target.ofOperand b).gives_convert? ha).bind
  intro y hy
  cases y with
  | some y => exact sound_scalar.mpr (hy y rfl)
  | none => exact sound_of_empty rfl

theorem gives_toScalar (ha : a.Sound) : Gives Sound (a.toScalar b) :=
  ((Target.ofOperand b).gives_convert ha).map fun _ hy => sound_scalar.mpr hy

theorem gives_toRecord (ha : a.Sound) : Gives Sound a.toRecord := by
  apply gives_askInt256 ha
  intro v hv
  rw [LimbRecord.ofInt256_eq_ok hv]
  exact sound_record.mpr LimbRecord.valid_ofPatternOf

theorem gives_record {r : Except (List Complaint) LimbRecord} (hr : Gives LimbRecord.Valid r) :
    Gives Sound ((r.map record).mapError Fault.badRecord) :=
  (hr.map fun _ hr => sound_record.mpr hr).mapError fun _ _ => trivial

theorem gives_recordOf {counted : Bool} {ws : List Operand} : Gives Sound (recordOf counted ws) :=
  gives_record (LimbRecord.gives_accept _ _)

theorem gives_recordOfLimbs (hs : supply.Sound) (ha : a.Sound) :
    Gives Sound (recordOfLimbs supply a).result := by
  apply Supply.gives_read hs ha
  intro is hi
  exact (Items.gives_gather hi).bind fun _ _ => gives_recordOf

theorem gives_recordOfItems : Gives Sound (recordOfItems is).1 :=
  (gives_any (limbsOf 0 (is.take 5))).bind fun _ _ => gives_recordOf

theorem gives_recordOfEntry (hs : supply.Sound) (ha : a.Sound) :
    Gives Sound (recordOfEntry supply a).result := by
  cases a with
  | list xs => exact gives_recordOfLimbs hs ha
  | tuple xs => exact gives_recordOfLimbs hs ha
  | stream s => exact Supply.gives_read hs ha fun is _ => gives_recordOfItems
  | record r => exact Supply.gives_read hs ha fun is _ => gives_recordOfItems
  | _ => trivial

theorem gives_recordOfValue (hs : supply.Sound) (ha : a.Sound) :
    Gives Sound (recordOfValue supply a).result := by
  cases a with
  | record r => exact ha
  | table es =>
    rw [recordOfValue]
    split
    · rename_i limbs hl
      -- The limbs are one of the entries, so they are sound as the table is.
      obtain ⟨before, after, rfl, -⟩ := List.lookup_eq_some_iff.mp hl
      exact gives_recordOfEntry hs (sound_table.mp ha (LimbRecord.limbsKey, limbs) (by simp))
    · trivial
  | _ => trivial

theorem gives_recordOfJson : Gives Sound a.recordOfJson := by
  cases a with
  | text s => exact gives_record (LimbRecord.gives_ofJson _)
  | bytes bs =>
    rw [recordOfJson]
    split
    · exact gives_record (LimbRecord.gives_ofJson _)
    · trivial
  | _ => trivial

theorem gives_assign : Gives Sound (assign a b) := by
  rw [assign.eq_def]
  split
  · trivial
  · split
    · exact sound_of_empty rfl
    · trivial
  · trivial

theorem gives_mapItems {f : Operand → Except Fault Operand} (hs : supply.Sound) (ha : a.Sound)
    (hf : ∀ x, x.Sound → Gives Sound (f x)) : Gives Sound (mapItems supply f a).result := by
  apply Supply.gives_read hs ha
  intro is hi
  exact (Items.gives_mapEach hi hf).map fun ys hy => sound_list.mpr hy

theorem gives_toBuffer (hs : supply.Sound) (ha : a.Sound) :
    Gives Sound (toBuffer supply a).result := by
  apply Supply.gives_read hs ha
  intro is _
  exact (gives_any (is.mapEach slot).1).map fun slots _ => sound_of_empty rfl

theorem gives_ofBuffer : Gives Sound a.ofBuffer := by
  cases a with
  | bytes bs =>
    apply (Int256.gives_ofBuffer bs).map
    intro vs hv
    apply sound_list.mpr
    intro x hx
    obtain ⟨v, hm, rfl⟩ := List.mem_map.mp hx
    exact sound_plain (hv v hm)
  | _ =>
    rw [ofBuffer]
    · split
      · trivial
      · split <;> trivial
    · simp

end Operand

end Residue256
