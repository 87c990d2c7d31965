import Mathlib.Data.Nat.Find
import Mathlib.Order.Bounds.Defs
import Residue256.Proofs.Column

namespace Residue256

open Fallible

variable {F : Field} {settings : Settings} {supply : Supply} {bs : List UInt8} {xs : List Scalar}
  {vs : List Int256} {i k n : Nat}

/-- The scalars of a field that are read from a buffer. -/
def readBuffer (settings : Settings) (supply : Supply) (F : Field) (bs : List UInt8) :
    Except Fault (List Scalar) := do
  let column ← Operand.ofBuffer (.bytes bs)
  (Reading.ofOperand settings supply column (.family (.field F))).result

/-- The buffer that is written of scalars. -/
def writeBuffer (supply : Supply) (xs : List Scalar) : Except Fault Operand := do
  let column ← (Operand.mapItems supply Operand.toInt256 (.list (xs.map .scalar))).result
  (Operand.toBuffer supply column).result

theorem readBuffer_eq (h : Int256.ofBuffer bs = .ok vs) :
    readBuffer settings supply F bs =
      (Reading.ofRows (.ofField F) ((vs.map Operand.plain).map .ok)).result := by
  rw [readBuffer, Operand.ofBuffer_bytes h]
  rfl

theorem readBuffer_of_inWindow (h : Int256.ofBuffer bs = .ok vs) (hv : ∀ v ∈ vs, v.Valid)
    (hw : ∀ v ∈ vs, F.modulus.InWindow v.toInt) :
    readBuffer settings supply F bs = .ok (Reading.scalarsOf F vs) := by
  rw [readBuffer_eq h, Reading.ofRows_converted (Reading.converts_all hv hw)]

theorem eq_of_map_toInt {ws : List Int256} (hv : ∀ v ∈ vs, v.Valid) (hw : ∀ w ∈ ws, w.Valid)
    (h : vs.map Int256.toInt = ws.map Int256.toInt) : vs = ws := by
  induction vs generalizing ws with
  | nil => exact (List.map_eq_nil_iff.mp h.symm).symm
  | cons v vs ih =>
    cases ws with
    | nil => cases h
    | cons w ws =>
      obtain ⟨h₁, h₂⟩ := List.cons.inj h
      rw [List.forall_mem_cons] at hv hw
      rw [(Int256.toInt_inj hv.1 hw.1).mp h₁, ih hv.2 hw.2 h₂]

theorem writeBuffer_scalarsOf (hv : ∀ v ∈ vs, v.Valid)
    (hw : ∀ v ∈ vs, F.modulus.InWindow v.toInt) :
    writeBuffer supply (Reading.scalarsOf F vs) = .ok (.bytes (Int256.toBuffer vs)) := by
  have hr : ∀ x ∈ Reading.scalarsOf F vs, x.Reduced := by
    intro x hx
    obtain ⟨v, -, rfl⟩ := List.mem_map.mp hx
    exact Scalar.reduced_ofInt
  obtain ⟨ws, h, hws, hn⟩ := Operand.exists_mapItems_toInt256 supply hr
  have hs : ws = vs := by
    apply eq_of_map_toInt hws hv
    rw [hn, Reading.scalarsOf, List.map_map]
    exact List.map_congr_left fun v hm => Scalar.signed_ofInt (hw v hm)
  rw [writeBuffer, h, ok_bind, hs, Operand.toBuffer_list]

theorem exists_eq_scalarsOf (h : ∀ x ∈ xs, x.field = F ∧ x.Reduced) :
    ∃ vs, (∀ v ∈ vs, v.Valid) ∧ (∀ v ∈ vs, F.modulus.InWindow v.toInt) ∧
      Reading.scalarsOf F vs = xs := by
  have hx : ∀ x ∈ xs, ∃ v : Int256, v.Valid ∧ F.modulus.InWindow v.toInt ∧
      Scalar.ofInt F v.toInt = id x := by
    intro x hm
    obtain ⟨rfl, hr⟩ := h x hm
    obtain ⟨v, -, hv, hn⟩ := Scalar.exists_toInt256_eq_ok hr
    refine ⟨v, hv, ?_, ?_⟩
    · rw [hn]
      exact Scalar.inWindow_signed hr
    · rw [hn, Scalar.ofInt_signed hr, id]
  obtain ⟨vs, hp⟩ := exists_forall₂ hx
  refine ⟨vs, forall_mem_right hp fun _ _ h => h.1, forall_mem_right hp fun _ _ h => h.2.1, ?_⟩
  rw [Reading.scalarsOf, map_right_eq_map hp fun _ _ h => h.2.2, List.map_id]

theorem readBuffer_of_outside (h : Int256.ofBuffer bs = .ok vs) (hv : ∀ v ∈ vs, v.Valid)
    (hk : k < vs.length) (hw : ∀ v ∈ vs.take k, F.modulus.InWindow v.toInt)
    (ho : ¬F.modulus.InWindow vs[k].toInt) :
    readBuffer settings supply F bs = .error (.outsideWindow vs[k].toHalves F (some k)) := by
  have hs : vs = vs.take k ++ vs[k] :: vs.drop (k + 1) := by
    rw [← List.drop_eq_getElem_cons hk, List.take_append_drop]
  have hp : ∀ v ∈ vs.take k, v.Valid := fun v hm => hv v (List.mem_of_mem_take hm)
  have hc := Reading.converts_all hp hw
  rw [readBuffer_eq h]
  conv_lhs => rw [hs]
  rw [List.map_append, List.map_append, List.map_cons, List.map_cons,
    Reading.ofRows_outside hc vs[k].holds_toHalves (hv _ (List.getElem_mem hk)) ho,
    List.length_map, List.length_map, List.length_take_of_le hk.le]

/-- Reading a buffer fails if its length is no multiple of 32. Otherwise either every slot lies in
the window, and writing what was read gives the buffer, or the first slot that does not is reported.
Reading what was written of scalars gives the scalars. -/
theorem buffer_pipeline (settings : Settings) (supply : Supply) (F : Field) :
    (∀ bs : List UInt8, ¬32 ∣ bs.length →
      Operand.ofBuffer (.bytes bs) = .error (.bufferLength bs.length) ∧
        (Fault.bufferLength bs.length).kind = "ValueError") ∧
    (∀ bs : List UInt8, 32 ∣ bs.length →
      (∀ i < bs.length / 32, F.modulus.InWindow (Int256.slotReading bs i)) →
        (readBuffer settings supply F bs >>= writeBuffer supply) = .ok (.bytes bs)) ∧
    (∀ bs : List UInt8, 32 ∣ bs.length →
      (∃ i < bs.length / 32, ¬F.modulus.InWindow (Int256.slotReading bs i)) →
        ∃ (k : Nat) (v : Int256),
          IsLeast {i | i < bs.length / 32 ∧ ¬F.modulus.InWindow (Int256.slotReading bs i)} k ∧
          v.Valid ∧ v.toInt = Int256.slotReading bs k ∧
          readBuffer settings supply F bs = .error (.outsideWindow v.toHalves F (some k))) ∧
    ∀ xs : List Scalar, (∀ x ∈ xs, x.field = F ∧ x.Reduced) →
      ∃ bs, writeBuffer supply xs = .ok (.bytes bs) ∧ readBuffer settings supply F bs = .ok xs := by
  refine ⟨fun bs h => ⟨?_, rfl⟩, fun bs h hw => ?_, fun bs h ho => ?_, fun xs h => ?_⟩
  · rw [Operand.ofBuffer, Int256.ofBuffer, if_pos (mt Nat.dvd_of_mod_eq_zero h)]
    rfl
  · obtain ⟨vs, hb, hv, rfl, hl, hn⟩ := Int256.exists_ofBuffer_eq_ok h
    have hw' : ∀ v ∈ vs, F.modulus.InWindow v.toInt := by
      intro v hm
      obtain ⟨i, hi, rfl⟩ := List.getElem_of_mem hm
      rw [hn i hi]
      exact hw i (hl ▸ hi)
    rw [readBuffer_of_inWindow hb hv hw', ok_bind, writeBuffer_scalarsOf hv hw']
  · obtain ⟨vs, hb, hv, -, hl, hn⟩ := Int256.exists_ofBuffer_eq_ok h
    obtain ⟨hk, ho'⟩ := Nat.find_spec ho
    have hk' : Nat.find ho < vs.length := by rwa [hl]
    refine ⟨Nat.find ho, vs[Nat.find ho], ⟨⟨hk, ho'⟩, fun i hi => Nat.find_min' ho hi⟩,
      hv _ (List.getElem_mem hk'), hn _ hk', ?_⟩
    apply readBuffer_of_outside hb hv hk'
    · intro v hm
      obtain ⟨i, hi, rfl⟩ := List.getElem_of_mem hm
      rw [List.length_take] at hi
      rw [List.getElem_take, hn i (by omega)]
      -- A slot before the first one outside lies in the window.
      by_contra hc
      exact Nat.find_min ho (by omega) ⟨by omega, hc⟩
    · rwa [hn _ hk']
  · obtain ⟨vs, hv, hw, rfl⟩ := exists_eq_scalarsOf h
    exact ⟨_, writeBuffer_scalarsOf hv hw,
      readBuffer_of_inWindow (Int256.ofBuffer_toBuffer hv) hv hw⟩

theorem buffer_pipeline_seven :
    let F : Field := .under (.root "a" "Seven" { value := 7 }) "b" "Below" none
    let three : List UInt8 := 3 :: List.replicate 31 0
    let minusThree : List UInt8 := 253 :: List.replicate 31 255
    let four : List UInt8 := 4 :: List.replicate 31 0
    let read := readBuffer {} (fun _ => []) F
    let write := writeBuffer fun _ => []
    Operand.ofBuffer (.bytes [0]) = .error (.bufferLength 1) ∧
      (read (three ++ minusThree) >>= write) = .ok (.bytes (three ++ minusThree)) ∧
      (∃ v : Int256, v.toInt = 4 ∧
        read (three ++ four ++ four) = .error (.outsideWindow v.toHalves F (some 1))) ∧
      ∃ bs, write [⟨F, 4⟩, ⟨F, 3⟩] = .ok (.bytes bs) ∧ read bs = .ok [⟨F, 4⟩, ⟨F, 3⟩] := by
  intro F three minusThree four read write
  obtain ⟨h₁, h₂, h₃, h₄⟩ := buffer_pipeline {} (fun _ => []) F
  refine ⟨(h₁ [0] (by decide)).1, h₂ _ (by decide) (by decide +kernel), ?_, h₄ _ (by decide)⟩
  obtain ⟨k, v, hk, -, hv, h⟩ := h₃ (three ++ four ++ four) (by decide) ⟨1, by decide +kernel⟩
  have h1 : k ≤ 1 := hk.2 (show _ ∧ _ from by decide +kernel)
  have h0 : k ≠ 0 := by
    rintro rfl
    exact hk.1.2 (by decide +kernel)
  obtain rfl : k = 1 := by omega
  exact ⟨v, hv.trans (by decide +kernel), h⟩

end Residue256
