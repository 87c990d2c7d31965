import Residue256.Proofs.Conversion

namespace Residue256

open Fallible

variable {F G H : Field} {x y : Scalar} {n : Int}

namespace Modulus

variable {l m : Modulus}

theorem half_le_half (h : l.value ≤ m.value) : l.half ≤ m.half := by
  have hl := l.two_mul_half
  have hm := m.two_mul_half
  omega

theorem InWindow.mono (hn : l.InWindow n) (h : l.value ≤ m.value) : m.InWindow n := by
  have hh := half_le_half h
  rw [inWindow_iff_natAbs_le] at *
  exact hn.trans hh

end Modulus

namespace Operand

/-- The scalar of a field that has the signed reading of a given scalar, or nothing if there is
none. -/
def transfer (G : Field) (x : Operand) : Except Fault Operand := do
  let v ← x.toInt256
  v.toScalar? (family (.field G))

theorem transfer_scalar (G : Field) (hx : x.Reduced) : transfer G (scalar x) =
    .ok (if G.modulus.InWindow x.signed then scalar (Scalar.ofInt G x.signed) else nothing) := by
  obtain ⟨v, h, hv, hn⟩ := exists_toInt256_eq_ok hx
  rw [transfer, h, ok_bind, plain, toScalar?_of_holds v.holds_toHalves hv, hn]

theorem transfer_of_inWindow (hx : x.Reduced) (hw : G.modulus.InWindow x.signed) :
    transfer G (scalar x) = .ok (scalar (Scalar.ofInt G x.signed)) := by
  rw [transfer_scalar G hx, if_pos hw]

theorem transfer_eq_nothing_iff (hx : x.Reduced) :
    transfer G (scalar x) = .ok nothing ↔ G.modulus.half < x.signed.natAbs := by
  rw [transfer_scalar G hx, ← not_le, ← Modulus.inWindow_iff_natAbs_le]
  by_cases hw : G.modulus.InWindow x.signed
  · simp [hw]
  · simp [hw]

theorem transfer_back (hx : x.Reduced) (hw : G.modulus.InWindow x.signed) :
    transfer x.field (scalar (Scalar.ofInt G x.signed)) = .ok (scalar x) := by
  have hs : (Scalar.ofInt G x.signed).signed = x.signed := Scalar.signed_ofInt hw
  have hw' := Scalar.inWindow_signed hx
  rw [← hs] at hw'
  rw [transfer_of_inWindow Scalar.reduced_ofInt hw', hs, Scalar.ofInt_signed hx]

theorem transfer_through (hx : x.Reduced) (hw : H.modulus.InWindow x.signed) :
    (transfer H (scalar x) >>= transfer G) = transfer G (scalar x) := by
  rw [transfer_of_inWindow hx hw, ok_bind, transfer_scalar G Scalar.reduced_ofInt,
    Scalar.signed_ofInt hw, transfer_scalar G hx]

theorem transfer_inj (hx : x.Reduced) (hy : y.Reduced) (hf : x.field = y.field)
    (hw : G.modulus.InWindow x.signed) (h : transfer G (scalar x) = transfer G (scalar y)) :
    x = y := by
  have hb : (transfer G (scalar x) >>= transfer x.field) = .ok (scalar x) := by
    rw [transfer_of_inWindow hx hw, ok_bind, transfer_back hx hw]
  rw [h] at hb
  by_cases hw' : G.modulus.InWindow y.signed
  · rw [transfer_of_inWindow hy hw', ok_bind, hf, transfer_back hy hw'] at hb
    cases hb
    rfl
  · rw [transfer_scalar G hy, if_neg hw'] at hb
    cases hb

theorem exists_window_eq_ok (F : Field) :
    ∃ least greatest : Int256,
      window (family (.field F)) = .ok (tuple [plain least, plain greatest]) ∧
      least.toInt = -F.modulus.half ∧ greatest.toInt = F.modulus.half := by
  obtain ⟨least, greatest, h, -, -, hl, hg⟩ := F.exists_window_eq_ok
  exact ⟨least, greatest, window_family h, hl, hg⟩

end Operand

open Operand in
/-- A scalar is refused by the fields whose window does not reach its signed reading. In any other
field it becomes the scalar with that reading, and comes back from there. A field with a modulus at
least as large refuses nothing, keeps different scalars apart, and may be passed through on the way
to any other field. -/
theorem transfer_keeps_signed_reading :
    (∀ (F G : Field) (x : Scalar), x.field = F → x.Reduced →
      (transfer G (scalar x) = .ok nothing ↔ (G.modulus.value - 1) / 2 < x.signed.natAbs) ∧
      (¬(G.modulus.value - 1) / 2 < x.signed.natAbs → ∃ y : Scalar, y.field = G ∧ y.Reduced ∧
        transfer G (scalar x) = .ok (scalar y) ∧ y.signed = x.signed ∧
        transfer F (scalar y) = .ok (scalar x))) ∧
    (∀ F G : Field, F.modulus.value ≤ G.modulus.value →
      (∃ l g l' g' : Int256, window (family (.field F)) = .ok (tuple [plain l, plain g]) ∧
        window (family (.field G)) = .ok (tuple [plain l', plain g']) ∧
        l'.toInt ≤ l.toInt ∧ g.toInt ≤ g'.toInt) ∧
      (∀ x : Scalar, x.field = F → x.Reduced → ∃ y, transfer G (scalar x) = .ok (scalar y)) ∧
      ∀ x x' : Scalar, x.field = F → x.Reduced → x'.field = F → x'.Reduced →
        transfer G (scalar x) = transfer G (scalar x') → x = x') ∧
    ∀ F G H : Field, F.modulus.value ≤ H.modulus.value →
      ∀ x : Scalar, x.field = F → x.Reduced →
        (transfer H (scalar x) >>= transfer G) = transfer G (scalar x) := by
  refine ⟨?_, fun F G h => ⟨?_, ?_, ?_⟩, ?_⟩
  · rintro F G x rfl hx
    refine ⟨transfer_eq_nothing_iff hx, fun hn => ?_⟩
    have hw : G.modulus.InWindow x.signed := Modulus.inWindow_iff_natAbs_le.mpr (not_lt.mp hn)
    exact ⟨_, rfl, Scalar.reduced_ofInt, transfer_of_inWindow hx hw, Scalar.signed_ofInt hw,
      transfer_back hx hw⟩
  · obtain ⟨l, g, hF, hl, hg⟩ := exists_window_eq_ok F
    obtain ⟨l', g', hG, hl', hg'⟩ := exists_window_eq_ok G
    have hh := Modulus.half_le_half h
    refine ⟨l, g, l', g', hF, hG, ?_, ?_⟩ <;> omega
  · rintro x rfl hx
    exact ⟨_, transfer_of_inWindow hx ((Scalar.inWindow_signed hx).mono h)⟩
  · rintro x x' rfl hx hf hx' ht
    exact transfer_inj hx hx' hf.symm ((Scalar.inWindow_signed hx).mono h) ht
  · rintro F G H h x rfl hx
    exact transfer_through hx ((Scalar.inWindow_signed hx).mono h)

/-- Between five, seven and nine residues: -3 is refused by the smallest field, and -2 becomes the
largest residue but one of each field. -/
theorem transfer_keeps_signed_reading_seven :
    let five : Field := .root "a" "Five" { value := 5 }
    let seven : Field := .under five "b" "Seven" (some { value := 7 })
    let nine : Field := .root "c" "Nine" { value := 9 }
    let move := Operand.transfer
    move five (.scalar ⟨seven, 4⟩) = .ok .nothing ∧
      (∃ y : Scalar, y.field = five ∧ y.signed = -2 ∧
        move five (.scalar ⟨seven, 5⟩) = .ok (.scalar y) ∧
        move seven (.scalar y) = .ok (.scalar ⟨seven, 5⟩)) ∧
      (∃ y, move nine (.scalar ⟨seven, 4⟩) = .ok (.scalar y)) ∧
      move nine (.scalar ⟨seven, 4⟩) ≠ move nine (.scalar ⟨seven, 3⟩) ∧
      (move nine (.scalar ⟨seven, 4⟩) >>= move five) = .ok .nothing := by
  intro five seven nine move
  obtain ⟨h₁, h₂, h₃⟩ := transfer_keeps_signed_reading
  have hn := (h₁ seven five ⟨seven, 4⟩ rfl (by decide)).1.mpr (by decide)
  obtain ⟨y, hy, -, hf, hs, hb⟩ := (h₁ seven five ⟨seven, 5⟩ rfl (by decide)).2 (by decide)
  obtain ⟨-, he, hi⟩ := h₂ seven nine (by decide)
  refine ⟨hn, ⟨y, hy, hs.trans (by decide), hf, hb⟩, he ⟨seven, 4⟩ rfl (by decide), fun h => ?_, ?_⟩
  · exact absurd (hi ⟨seven, 4⟩ ⟨seven, 3⟩ rfl (by decide) rfl (by decide) h) (by decide)
  · exact (h₃ seven five nine (by decide) ⟨seven, 4⟩ rfl (by decide)).trans hn

end Residue256
