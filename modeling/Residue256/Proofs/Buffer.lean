import Residue256.Proofs.Layout

namespace Residue256

open Fallible

namespace Operand

variable {hs : List Int256.Halves} {vs : List Int256} {bs : List UInt8}

theorem equal_list_plain (hh : List.Forall₂ Int256.Halves.Holds hs vs) :
    equal (list (vs.map plain)) (list (hs.map int256)) = true := by
  rw [equal]
  induction hh with
  | nil => rfl
  | cons h _ ih =>
    rw [List.map_cons, List.map_cons, equalAll, equal_plain h, ih, beq_self_eq_true, Bool.and_self]

theorem ofBuffer_ragged (h : ¬32 ∣ bs.length) :
    ofBuffer (bytes bs) = .error (.bufferLength bs.length) := by
  rw [ofBuffer, Int256.ofBuffer_ragged h]
  rfl

end Operand

open Operand in
/-- A buffer has 32 bytes for each value, and is read as values that are equal to those it was
written of. Bytes that are no whole number of slots are refused. All others are read slot by slot,
as integers in two's complement, and are the buffer of what was read. Two such buffers after each
other are read as the values of the first and then those of the second. -/
theorem buffer_codec (supply : Supply) :
    (∀ (hs : List Int256.Halves) (vs : List Int256), List.Forall₂ Int256.Halves.Holds hs vs →
      (∀ v ∈ vs, v.Valid) → ∃ (bs : List UInt8) (xs : Operand),
        (toBuffer supply (list (hs.map int256))).result = .ok (bytes bs) ∧
        bs.length = 32 * hs.length ∧ ofBuffer (bytes bs) = .ok xs ∧
        equal xs (list (hs.map int256)) = true) ∧
    (∀ bs : List UInt8, ¬32 ∣ bs.length →
      ofBuffer (bytes bs) = .error (.bufferLength bs.length) ∧
        (Fault.bufferLength bs.length).kind = "ValueError") ∧
    (∀ bs : List UInt8, 32 ∣ bs.length → ∃ vs : List Int256,
      ofBuffer (bytes bs) = .ok (list (vs.map plain)) ∧ vs.length = bs.length / 32 ∧
      (∀ i (hi : i < vs.length), vs[i].Valid ∧
        vs[i].toInt = Int256.signedReading (Int256.slot bs i)) ∧
      (toBuffer supply (list (vs.map plain))).result = .ok (bytes bs)) ∧
    ∀ bs ds : List UInt8, 32 ∣ bs.length → 32 ∣ ds.length → ∃ xs ys : List Operand,
      ofBuffer (bytes bs) = .ok (list xs) ∧ ofBuffer (bytes ds) = .ok (list ys) ∧
        ofBuffer (bytes (bs ++ ds)) = .ok (list (xs ++ ys)) := by
  refine ⟨fun hs vs hh hv => ?_, fun bs h => ⟨ofBuffer_ragged h, rfl⟩, fun bs h => ?_,
    fun bs ds hb hd => ?_⟩
  · refine ⟨_, _, toBuffer_of_holds supply hh, ?_, ofBuffer_bytes (Int256.ofBuffer_toBuffer hv),
      equal_list_plain hh⟩
    rw [Int256.length_toBuffer, hh.length_eq]
  · obtain ⟨vs, hr, hv, hb, hl, hn⟩ := Int256.exists_ofBuffer_eq_ok h
    refine ⟨vs, ofBuffer_bytes hr, hl, fun i hi => ⟨hv _ (List.getElem_mem hi), hn i hi⟩, ?_⟩
    rw [toBuffer_list, hb]
  · obtain ⟨vs, hv, -⟩ := Int256.exists_ofBuffer_eq_ok hb
    obtain ⟨ws, hw, -⟩ := Int256.exists_ofBuffer_eq_ok hd
    refine ⟨_, _, ofBuffer_bytes hv, ofBuffer_bytes hw, ?_⟩
    rw [ofBuffer_bytes (Int256.ofBuffer_append hv hw), List.map_append]

open Operand in
/-- The least value with a truth value as its low half and the greatest value, three bytes too many,
and the slots of -2 and of the least value. -/
theorem buffer_codec_ends :
    let supply : Supply := fun _ => []
    let least : Int256.Halves := ⟨.truth false, .int (-2 ^ 127)⟩
    let greatest : Int256.Halves := ⟨.int (2 ^ 128 - 1), .int (2 ^ 127 - 1)⟩
    let minusTwo : List UInt8 := 254 :: List.replicate 31 255
    let lowest : List UInt8 := List.replicate 31 0 ++ [128]
    (∃ (bs : List UInt8) (xs : Operand),
      (toBuffer supply (list [int256 least, int256 greatest])).result = .ok (bytes bs) ∧
      bs.length = 64 ∧ ofBuffer (bytes bs) = .ok xs ∧
      equal xs (list [int256 least, int256 greatest]) = true) ∧
    ofBuffer (bytes (lowest ++ [1, 2, 3])) = .error (.bufferLength 35) ∧
    (∃ v w : Int256, ofBuffer (bytes (minusTwo ++ lowest)) = .ok (list [plain v, plain w]) ∧
      v.toInt = -2 ∧ w.toInt = Int256.minInt) ∧
    ∃ xs ys : List Operand, ofBuffer (bytes minusTwo) = .ok (list xs) ∧
      ofBuffer (bytes lowest) = .ok (list ys) ∧
      ofBuffer (bytes (minusTwo ++ lowest)) = .ok (list (xs ++ ys)) := by
  intro supply least greatest minusTwo lowest
  obtain ⟨h₁, h₂, h₃, h₄⟩ := buffer_codec supply
  have hl : least.Holds ⟨0, -2 ^ 127⟩ := ⟨rfl, rfl⟩
  have hg : greatest.Holds ⟨2 ^ 128 - 1, 2 ^ 127 - 1⟩ := ⟨rfl, rfl⟩
  refine ⟨h₁ [least, greatest] _ (.cons hl (.cons hg .nil)) (by decide),
    (h₂ (lowest ++ [1, 2, 3]) (by decide)).1, ?_, h₄ minusTwo lowest (by decide) (by decide)⟩
  obtain ⟨vs, hv, hn, hi, -⟩ := h₃ (minusTwo ++ lowest) (by decide)
  obtain ⟨v, w, rfl⟩ := List.length_eq_two.mp (hn.trans (by decide))
  exact ⟨v, w, hv, (hi 0 Nat.zero_lt_two).2.trans (by decide +kernel),
    (hi 1 Nat.one_lt_two).2.trans (by decide +kernel)⟩

end Residue256
