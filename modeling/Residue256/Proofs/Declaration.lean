import Residue256.Proofs.Conversion
import Residue256.Proofs.Int256.Order
import Residue256.Proofs.Operand.Words
import Residue256.Proofs.Scalar.Signs

namespace Residue256

open Fallible

variable {base : Family} {tag name : String} {m : Modulus} {z : Number} {p : Int}

namespace Digits

variable {bits k n : Nat}

/-- The `k` lowest digits of so many bits, each moved to the lowest place and cut off by a mask. -/
def masked (bits k n : Nat) : List Nat :=
  (List.range k).map fun i => (n >>> (bits * i)) &&& (2 ^ bits - 1)

theorem masked_eq_split : masked bits k n = split (2 ^ bits) k n := by
  induction k generalizing n with
  | zero => rfl
  | succ k ih =>
    have hs : (fun i => (n >>> (bits * i)) &&& (2 ^ bits - 1)) ∘ Nat.succ =
        fun i => ((n / 2 ^ bits) >>> (bits * i)) &&& (2 ^ bits - 1) := by
      funext i
      rw [Function.comp_apply, Nat.mul_succ, Nat.add_comm, Nat.shiftRight_add,
        Nat.shiftRight_eq_div_pow n]
    rw [masked, List.range_succ_eq_map, List.map_cons, List.map_map, hs, split_succ, ← ih, masked,
      Nat.mul_zero, Nat.shiftRight_zero, Nat.and_two_pow_sub_one_eq_mod]

theorem overlay_masked : overlay bits (masked bits k n) = n % 2 ^ (bits * k) := by
  rw [masked_eq_split, overlay_eq_join (lt_of_mem_split (Nat.two_pow_pos bits)), join_split,
    ← Nat.pow_mul]

theorem overlay_masked_eq_iff : overlay bits (masked bits k n) = n ↔ n < 2 ^ (bits * k) := by
  rw [overlay_masked, Nat.mod_eq_iff_lt (Nat.two_pow_pos _).ne']

end Digits

namespace Modulus

theorem ofInt_of_not_odd (h : p < 3 ∨ p % 2 = 0) : ofInt p = .error .notOdd := dif_pos h

theorem ofInt_of_large (ho : p % 2 = 1) (h : 2 ^ 256 ≤ p) : ofInt p = .error .tooLarge := by
  rw [ofInt, dif_neg (by omega), dif_pos (by omega)]

theorem exists_ofInt_eq_ok (ho : p % 2 = 1) (h3 : 3 ≤ p) (h : p < 2 ^ 256) :
    ∃ m, ofInt p = .ok m ∧ (m.value : Int) = p := by
  rw [ofInt, dif_neg (by omega), dif_neg (by omega)]
  exact ⟨_, rfl, Int.toNat_of_nonneg (by omega)⟩

theorem words_recover_iff (ho : p % 2 = 1) :
    (∀ r : Nat, r < p → Digits.overlay 64 (Digits.masked 64 4 r) = r) ↔ p < 2 ^ 256 := by
  simp only [Digits.overlay_masked_eq_iff, Nat.reduceMul]
  constructor
  · intro h
    by_contra hp
    exact absurd (h (2 ^ 256) (by omega)) (by omega)
  · intro hp r hr
    omega

theorem magnitudes_fit_iff (ho : p % 2 = 1) :
    (∀ m : Nat, m ≤ (p - 1) / 2 → m / 2 ^ 128 ≤ 2 ^ 127 - 1) ↔ p < 2 ^ 256 := by
  constructor
  · intro h
    by_contra hp
    exact absurd (h (2 ^ 255) (by omega)) (by decide)
  · intro hp m hm
    omega

end Modulus

namespace Family

theorem exists_field_extend (base : Family) (tag name : String) (m : Modulus) :
    ∃ F : Field, base.extend tag name (some m) = .field F ∧ F.name = name ∧ F.modulus = m ∧
      F.owner = F := by
  cases base with
  | unset t n => exact ⟨_, rfl, rfl, rfl, rfl⟩
  | field G => exact ⟨_, rfl, rfl, rfl, rfl⟩

def rejected (name : String) : Modulus.Rejection → Fault
  | .notOdd => .modulusNotOdd name
  | .tooLarge => .modulusTooLarge name

theorem declare_of_whole? (hn : name.contains '\x00' = false) (hz : z.whole? = some p) :
    declare base tag name (some (.number z)) =
      ((Modulus.ofInt p).map fun m => base.extend tag name (some m)).mapError (rejected name) := by
  have hd : declare base tag name (some (.number z)) =
      declare base tag name (some (.number (.int p))) := by
    cases z with
    | int n =>
      cases hz
      rfl
    | truth b =>
      cases hz
      rfl
    | real x => cases hz
  have hp : Operand.whole? (.number (.int p)) = some p := rfl
  rw [hd]
  unfold declare
  rw [if_neg (by simp [hn])]
  simp only [hp]
  cases Modulus.ofInt p with
  | ok m => rfl
  | error e => cases e <;> rfl

theorem exists_declare_iff (hn : name.contains '\x00' = false) (hz : z.whole? = some p) :
    (∃ B, declare base tag name (some (.number z)) = .ok B) ↔
      p % 2 = 1 ∧ 3 ≤ p ∧ p < 2 ^ 256 := by
  rw [declare_of_whole? hn hz]
  constructor
  · rintro ⟨B, hB⟩
    by_cases ho : p < 3 ∨ p % 2 = 0
    · rw [Modulus.ofInt_of_not_odd ho] at hB
      cases hB
    · by_cases hl : 2 ^ 256 ≤ p
      · rw [Modulus.ofInt_of_large (by omega) hl] at hB
        cases hB
      · omega
  · rintro ⟨ho, h3, hl⟩
    obtain ⟨m, hm, -⟩ := Modulus.exists_ofInt_eq_ok ho h3 hl
    rw [hm]
    exact ⟨_, rfl⟩

end Family

theorem Field.maxSigned_eq {F : Field} : F.maxSigned = ⟨F.owner, F.modulus.half⟩ := by
  have h : F.maxSigned = ⟨F.maxSigned.field, F.maxSigned.value⟩ := rfl
  rw [h, field_maxSigned, value_maxSigned]

namespace Operand

theorem exists_int256OfParts_natCast_iff {m : Nat} :
    (∃ a, (int (m % 2 ^ 128 : Nat)).int256OfParts (int (m / 2 ^ 128 : Nat)) = .ok a) ↔
      m / 2 ^ 128 ≤ 2 ^ 127 - 1 := by
  rw [exists_int256OfParts_iff, Int256.Halves.inRange_iff Number.whole?_int Number.whole?_int]
  constructor
  · rintro ⟨-, -, -, h⟩
    dsimp only at h
    omega
  · intro h
    constructor <;> dsimp only <;> omega

end Operand

open Operand in
/-- Below any family a field may be declared over an integer if that is odd and at least 3 and less
than `2 ^ 256`. An integer that is even or below 3 is refused as such, and any other one for its
size. An odd integer from 3 on is accepted just if every residue is recovered from its four 64-bit
words and the high half of every magnitude leaves the sign bit clear, and of these two each implies
the other. The new field has the integer as its modulus and half of it as its largest positive
scalar, and all its scalars have these words and become 256-bit integers. Apart from zero it has as
many negative scalars as positive ones, half of the modulus of each, and the opposites of the ones
are the others. -/
theorem declarations_admit_what_conversions_need (base : Family) (tag name : String)
    (hn : name.contains '\x00' = false) {z : Number} {p : Int} (hz : z.whole? = some p) :
    let result := base.declare tag name (some (number z))
    let recovered := ∀ r : Nat, r < p → Digits.overlay 64 (Digits.masked 64 4 r) = r
    let fitting := ∀ m : Nat, m ≤ (p - 1) / 2 → m / 2 ^ 128 ≤ 2 ^ 127 - 1
    ((∃ B, result = .ok B) ↔ p % 2 = 1 ∧ 3 ≤ p ∧ p < 2 ^ 256) ∧
    (p < 3 ∨ p % 2 = 0 → result = .error (.modulusNotOdd name)) ∧
    (¬(p < 3 ∨ p % 2 = 0) → (¬∃ B, result = .ok B) → result = .error (.modulusTooLarge name)) ∧
    ((Fault.modulusNotOdd name).kind = "ValueError" ∧
      (Fault.modulusNotOdd name).message = some s!"{name}.MODULUS must be odd and > 2" ∧
      (Fault.modulusTooLarge name).kind = "ValueError" ∧
      (Fault.modulusTooLarge name).message =
        some s!"{name}.MODULUS too large: MAX_SIGNED must be < 2^255") ∧
    (p % 2 = 1 → 3 ≤ p → ((∃ B, result = .ok B) ↔ recovered ∧ fitting) ∧ (recovered ↔ fitting)) ∧
    (∀ m : Nat, m / 2 ^ 128 ≤ 2 ^ 127 - 1 ↔
      ∃ a, (int (m % 2 ^ 128 : Nat)).int256OfParts (int (m / 2 ^ 128 : Nat)) = .ok a) ∧
    ∀ B, result = .ok B → ∃ F : Field, B = .field F ∧ B = base.extend tag name (some F.modulus) ∧
      F.name = name ∧ (F.modulus.value : Int) = p ∧ F.maxSigned = ⟨F, ((p - 1) / 2).toNat⟩ ∧
      (∀ x ∈ F.scalars, (scalar x).toWords = .ok (tuple (nats (Digits.masked 64 4 x.value))) ∧
        ∃ v : Int256, (scalar x).toInt256 = .ok (plain v) ∧ v.toInt = x.signed) ∧
      F.scalars = insert ⟨F, 0⟩ (F.negatives ∪ F.positives) ∧
      (⟨F, 0⟩ : Scalar) ∉ F.negatives ∪ F.positives ∧ Disjoint F.negatives F.positives ∧
      (F.negatives.card : Int) = (p - 1) / 2 ∧ (F.positives.card : Int) = (p - 1) / 2 ∧
      F.negatives.image (fun x => -x) = F.positives ∧
      F.positives.image (fun x => -x) = F.negatives ∧ -(⟨F, 0⟩ : Scalar) = ⟨F, 0⟩ := by
  intro result recovered fitting
  have hr : result = _ := Family.declare_of_whole? hn hz
  have ha : (∃ B, result = .ok B) ↔ p % 2 = 1 ∧ 3 ≤ p ∧ p < 2 ^ 256 :=
    Family.exists_declare_iff hn hz
  refine ⟨ha, fun ho => ?_, fun ho hb => ?_, ⟨rfl, rfl, rfl, rfl⟩, fun ho h3 => ?_,
    fun m => exists_int256OfParts_natCast_iff.symm, fun B hB => ?_⟩
  · rw [hr, Modulus.ofInt_of_not_odd ho]
    rfl
  · have hl : 2 ^ 256 ≤ p := by
      rw [ha] at hb
      omega
    rw [hr, Modulus.ofInt_of_large (by omega) hl]
    rfl
  · have hw : recovered ↔ p < 2 ^ 256 := Modulus.words_recover_iff ho
    have hm : fitting ↔ p < 2 ^ 256 := Modulus.magnitudes_fit_iff ho
    rw [ha, hw, hm]
    exact ⟨by simp [ho, h3], Iff.rfl⟩
  · obtain ⟨ho, h3, hl⟩ := ha.mp ⟨B, hB⟩
    obtain ⟨m, hm, hv⟩ := Modulus.exists_ofInt_eq_ok ho h3 hl
    obtain ⟨F, hF, hf, rfl, hw⟩ := Family.exists_field_extend base tag name m
    rw [hr, hm] at hB
    cases hB
    have hh := F.modulus.two_mul_half
    refine ⟨F, hF, rfl, hf, hv, ?_, fun x hx => ⟨?_, ?_⟩, Field.scalars_eq_insert,
      Field.zero_notMem, Field.disjoint_negatives_positives, ?_, ?_, Field.image_neg_negatives,
      Field.image_neg_positives, Scalar.neg_mk_zero⟩
    · have hp : ((p - 1) / 2).toNat = F.modulus.half := by omega
      rw [Field.maxSigned_eq, hw, hp]
    · rw [Digits.masked_eq_split]
      rfl
    · obtain ⟨v, hv, -, hs⟩ := Operand.exists_toInt256_eq_ok (Field.mem_scalars.mp hx).2
      exact ⟨v, hv, hs⟩
    · rw [Field.card_negatives]
      omega
    · rw [Field.card_positives]
      omega

open Operand in
/-- Below a field with seven residues: the greatest modulus that is accepted, the odd number after
it, a truth value, which is as small as the number it counts as, and the least modulus. -/
theorem declarations_admit_what_conversions_need_ends :
    let base : Family := .field (.root "a" "Seven" { value := 7 })
    let declared := fun z : Number => base.declare "b" "Below" (some (number z))
    (∃ B, declared (.int (2 ^ 256 - 1)) = .ok B) ∧
      (∀ m : Nat, m ≤ ((2 ^ 256 - 1 - 1) / 2 : Int) → m / 2 ^ 128 ≤ 2 ^ 127 - 1) ∧
      declared (.int (2 ^ 256 + 1)) = .error (.modulusTooLarge "Below") ∧
      ¬(∀ r : Nat, r < (2 ^ 256 + 1 : Int) → Digits.overlay 64 (Digits.masked 64 4 r) = r) ∧
      declared (.truth true) = .error (.modulusNotOdd "Below") ∧
      ∃ F : Field, declared (.int 3) = .ok (.field F) ∧ F.maxSigned = ⟨F, 1⟩ ∧
        (F.negatives.card : Int) = 1 ∧ F.negatives.image (fun x => -x) = F.positives := by
  intro base declared
  have hn : "Below".contains '\x00' = false := by simp
  have hi := fun p : Int =>
    declarations_admit_what_conversions_need base "b" "Below" hn (z := .int p) rfl
  obtain ⟨h₁, -, -, -, h₂, -⟩ := hi (2 ^ 256 - 1)
  obtain ⟨h₃, -, h₄, -, h₅, -⟩ := hi (2 ^ 256 + 1)
  obtain ⟨-, h₆, -⟩ :=
    declarations_admit_what_conversions_need base "b" "Below" hn (z := .truth true) rfl
  obtain ⟨h₇, -, -, -, -, -, h₈⟩ := hi 3
  have ha := h₁.mpr (by decide)
  have hl : ¬(∃ B, declared (.int (2 ^ 256 + 1)) = .ok B) := mt h₃.mp (by decide)
  obtain ⟨B, hB⟩ := h₇.mpr (by decide)
  obtain ⟨F, rfl, -, -, -, hm, -, -, -, -, hc, -, hs, -⟩ := h₈ B hB
  obtain ⟨h₅, h₅'⟩ := h₅ (by decide) (by decide)
  exact ⟨ha, ((h₂ (by decide) (by decide)).1.mp ha).2, h₄ (by decide) hl,
    fun hr => hl (h₅.mpr ⟨hr, h₅'.mp hr⟩), h₆ (by decide), F, hB, hm, hc, hs⟩

end Residue256
