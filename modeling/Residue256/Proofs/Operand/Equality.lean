import Residue256.Operand.Set
import Residue256.Proofs.Int256.Integer
import Residue256.Proofs.Scalar.Order

namespace Residue256

namespace Operand

variable {x y : Scalar} {a b : Operand} {z w : Number} {h k : Int256.Halves} {l l' m m' n : Int}
  {r s : LimbRecord}

/-- A scalar, an integer or a truth value, a 256-bit integer with whole halves, or a limb record. -/
inductive Exact : Operand → Prop where
  | scalar (x : Scalar) : Exact (scalar x)
  | whole {z : Number} {n : Int} (hz : z.whole? = some n) : Exact (number z)
  | int256 {h : Int256.Halves} {low high : Int} (hl : h.low.whole? = some low)
    (hh : h.high.whole? = some high) : Exact (int256 h)
  | record (r : LimbRecord) : Exact (record r)

/-- The operands are not two scalars of fields of which neither is below the other. -/
def Related (a b : Operand) : Prop :=
  ∀ x y, a = scalar x → b = scalar y → x.field.Related y.field

theorem Related.refl : a.Related a := by
  rintro x y rfl ⟨⟩
  exact .inl (Field.refines_refl _)

theorem Related.symm (h : a.Related b) : b.Related a := fun x y hx hy => (h y x hy hx).symm

theorem related_scalar : (scalar x).Related (scalar y) ↔ x.field.Related y.field := by
  constructor
  · intro h
    exact h x y rfl rfl
  · rintro h _ _ ⟨⟩ ⟨⟩
    exact h

theorem answer?_ne : answer? .ne a b = (answer? .eq a b).map not := by
  rw [answer?.eq_def, answer?.eq_def]
  split
  -- All answers are negated as they stand, but those that wait for what a number is: two numbers
  -- may not compare, and a double is no residue.
  case h_2 u v =>
    rw [answerNumbers, answerNumbers]
    cases u.compare? v <;> rfl
  case h_7 u n => cases n.whole? <;> rfl
  all_goals rfl

theorem settle_ne : settle .ne a b = some (!(settle .eq a b).getD false) := by
  rw [settle, Comparison.swap, answer?_ne, answer?_ne, Comparison.settle_ne]
  rfl

theorem Exact.equal_eq_settle (ha : a.Exact) : equal a b = (settle .eq a b).getD false := by
  cases ha <;> cases b <;> rfl

theorem answer?_eq_whole (hz : z.whole? = some n) :
    answer? .eq (scalar x) (number z) = some ((x.value : Int) == n) := by
  rw [answer?, hz]
  rfl

theorem equal_scalar_whole (hz : z.whole? = some n) :
    equal (scalar x) (number z) = ((x.value : Int) == n) := by
  rw [(Exact.scalar x).equal_eq_settle, settle, answer?_eq_whole hz]
  rfl

theorem equal_whole_scalar (hz : z.whole? = some n) :
    equal (number z) (scalar x) = ((x.value : Int) == n) := by
  rw [(Exact.whole hz).equal_eq_settle, settle, Comparison.swap, answer?_eq_whole hz]
  rfl

theorem equal_whole (hz : z.whole? = some m) (hw : w.whole? = some n) :
    equal (number z) (number w) = true ↔ m = n := by
  have ha : equal (number z) (number w) = answerNumbers .eq z w := rfl
  rw [ha, answerNumbers, Number.compare?_of_whole? hz hw]
  simp [Comparison.ofOrdering, Comparison.derive]

theorem equal_int256 (hl : h.low.whole? = some l) (hh : h.high.whole? = some m)
    (kl : k.low.whole? = some l') (kh : k.high.whole? = some m') :
    equal (int256 h) (int256 k) = true ↔ l = l' ∧ m = m' := by
  have ha : equal (int256 h) (int256 k) = h.equal k := rfl
  rw [ha, Int256.Halves.equal, Number.compare?_of_whole? hl kl, Number.compare?_of_whole? hh kh]
  simp

theorem numberKey_of_whole? (hz : z.whole? = some n) : numberKey z = .int n := by
  cases z with
  | real x => cases hz
  | _ =>
    cases hz
    rfl

theorem key_scalar_inj : key (scalar x) = key (scalar y) ↔ x.value = y.value := by
  rw [key, key, Except.ok.injEq, List.cons.injEq, KeyPart.int.injEq, Int.natCast_inj]
  exact and_iff_left rfl

theorem key_record_inj : key (record r) = key (record s) ↔ r = s := by
  constructor
  · intro h
    have hl : r.limbs.map (fun (n : Nat) => KeyPart.int n) =
        s.limbs.map fun (n : Nat) => KeyPart.int n :=
      List.tail_eq_of_cons_eq (Except.ok.inj h)
    have hi : ∀ m n : Nat, KeyPart.int m = KeyPart.int n → m = n :=
      fun _ _ h => Int.natCast_inj.mp (KeyPart.int.inj h)
    exact congrArg LimbRecord.mk ((List.map_inj_right hi).mp hl)
  · rintro rfl
    rfl

theorem equal_iff (ha : a.Exact) (hb : b.Exact) :
    equal a b = true ↔ key a = key b ∧ a.Related b := by
  cases ha with
  | scalar x =>
    cases hb with
    | scalar y =>
      have he : equal (scalar x) (scalar y) = x.equal y := rfl
      rw [he, Scalar.equal_iff, related_scalar, key_scalar_inj, and_comm]
    | whole hw =>
      rw [equal_scalar_whole hw, key, key, numberKey_of_whole? hw]
      simp [Related]
    | int256 | record => exact iff_of_false nofun (by simp [key])
  | whole hz =>
    cases hb with
    | scalar y =>
      rw [equal_whole_scalar hz, key, key, numberKey_of_whole? hz, beq_iff_eq, @eq_comm Int]
      simp [Related]
    | whole hw =>
      rw [equal_whole hz hw, key, key, numberKey_of_whole? hz, numberKey_of_whole? hw]
      simp [Related]
    | int256 | record => exact iff_of_false nofun (by simp [key, numberKey_of_whole? hz])
  | int256 hl hh =>
    cases hb with
    | int256 kl kh =>
      rw [equal_int256 hl hh kl kh, key, key, numberKey_of_whole? hl, numberKey_of_whole? hh,
        numberKey_of_whole? kl, numberKey_of_whole? kh]
      simp [Related]
    | scalar | whole | record => exact iff_of_false nofun (by simp [key])
  | record r =>
    cases hb with
    | record s =>
      have he : equal (record r) (record s) = (r == s) := rfl
      rw [he, beq_iff_eq, key_record_inj]
      exact ⟨fun h => ⟨h, nofun⟩, fun h => h.1⟩
    | whole hw => exact iff_of_false nofun (by simp [key, numberKey_of_whole? hw])
    | scalar | int256 => exact iff_of_false nofun (by simp [key])

end Operand

end Residue256
