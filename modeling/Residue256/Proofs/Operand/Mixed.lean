import Residue256.Proofs.Hierarchy
import Residue256.Proofs.Operand.Arithmetic

namespace Residue256

variable {op : Arithmetic} {x w : Scalar} {a b y : Operand} {n : Int}

namespace Scalar

/-- The scalar takes the operand, which counts as the integer. -/
inductive Takes (x : Scalar) : Operand → Int → Prop where
  | whole {y : Operand} {n : Int} (h : y.whole? = some n) : Takes x y n
  | scalar {w : Scalar} (h : w.field.refines x.field = true) : Takes x (.scalar w) w.value

theorem Takes.combine? (h : x.Takes y n) :
    x.combine? op y = some (ofInt x.field (op.onInts x.value n)) := by
  cases h with
  | whole hn =>
    rw [Scalar.combine?, Operand.accept?_of_whole? hn, Option.map_some]
    exact congrArg some (ofInt_eq_of_modEq (Arithmetic.onInts_modEq rfl value_ofInt_modEq))
  | scalar hw => rw [Scalar.combine?, accept?, if_pos hw, Option.map_some]

theorem combine?_eq_none (h : ∀ n, ¬x.Takes y n) : x.combine? op y = none := by
  cases y with
  | scalar w => rw [combine?, accept?, if_neg fun hw => h _ (.scalar hw), Option.map_none]
  | number z =>
    cases hz : z.whole? with
    | none => simp [combine?, accept?, Operand.whole?, hz]
    | some m => exact absurd (.whole hz) (h m)
  | _ => rfl

end Scalar

namespace Operand

theorem ofSequences?_scalar_left : ofSequences? op (scalar x) y = none := by
  cases op <;> cases y <;> simp [ofSequences?, repeated?]

theorem ofSequences?_scalar_right : ofSequences? op y (scalar x) = none := by
  cases op <;> cases y <;> simp [ofSequences?, repeated?]

theorem combine_eq_getD (h : ofSequences? op a b = none) :
    combine op a b = (fromLeft? op a b <|> fromRight? op a b).getD (.error .wrongKind) := by
  rw [combine, h]
  cases fromLeft? op a b <;> cases fromRight? op a b <;> rfl

theorem combine_of_takes (h : x.Takes y n) :
    combine op (scalar x) y = .ok (scalar (Scalar.ofInt x.field (op.onInts x.value n))) := by
  rw [combine, fromLeft?, h.combine?]
  rfl

theorem not_takes_scalar (h : ¬w.field.refines x.field = true) : ∀ n, ¬x.Takes (scalar w) n := by
  rintro n (h' | h')
  · cases h'
  · exact h h'

theorem combine_of_refines (hop : op ≠ .sub) (h : x.field.refines w.field = true) :
    combine op (scalar x) (scalar w) =
      .ok (scalar (Scalar.ofInt w.field (op.onInts x.value w.value))) := by
  by_cases hw : w.field.refines x.field = true
  · rw [combine_of_takes (.scalar hw), Field.refines_antisymm h hw]
  · have ht : w.Takes (scalar x) x.value := .scalar h
    rw [combine_eq_getD ofSequences?_scalar_left, fromLeft?,
      Scalar.combine?_eq_none (not_takes_scalar hw), fromRight?, if_neg hop, ht.combine?,
      Arithmetic.onInts_comm hop]
    rfl

theorem combine_eq_error (h : ∀ n, ¬x.Takes y n)
    (hw : ∀ w, y = scalar w → op = .sub ∨ ¬x.field.refines w.field = true) :
    combine op (scalar x) y = .error .wrongKind := by
  have hr : fromRight? op (scalar x) y = none := by
    cases y with
    | scalar w =>
      obtain hop | hn := hw w rfl
      · rw [fromRight?, if_pos hop]
      · rw [fromRight?, Scalar.combine?_eq_none (not_takes_scalar hn), Option.map_none, ite_self]
    | _ => rfl
  rw [combine_eq_getD ofSequences?_scalar_left, fromLeft?, Scalar.combine?_eq_none h, hr]
  rfl

/-- What is no scalar leaves it to the scalar on its right to give a sum or a product. -/
theorem combine_right (hop : op ≠ .sub) (hy : ∀ w, y ≠ scalar w) :
    combine op y (scalar x) = combine op (scalar x) y := by
  have hl : fromLeft? op y (scalar x) = none := by
    cases y with
    | scalar w => exact absurd rfl (hy w)
    | _ => rfl
  have hr : fromRight? op (scalar x) y = none := by
    cases y with
    | scalar w => exact absurd rfl (hy w)
    | _ => rfl
  rw [combine_eq_getD ofSequences?_scalar_right, combine_eq_getD ofSequences?_scalar_left, hl, hr,
    fromRight?, if_neg hop, fromLeft?]
  cases x.combine? op y <;> rfl

theorem combine_comm (hop : op ≠ .sub) :
    combine op y (scalar x) = combine op (scalar x) y := by
  by_cases hy : ∃ w, y = scalar w
  · obtain ⟨w, rfl⟩ := hy
    by_cases hx : w.field.refines x.field = true
    · rw [combine_of_refines hop hx, combine_of_takes (.scalar hx), Arithmetic.onInts_comm hop]
    · by_cases hw : x.field.refines w.field = true
      · rw [combine_of_refines hop hw, combine_of_takes (.scalar hw), Arithmetic.onInts_comm hop]
      · rw [combine_eq_error (not_takes_scalar hw), combine_eq_error (not_takes_scalar hx)]
        · rintro _ ⟨⟩
          exact .inr hw
        · rintro _ ⟨⟩
          exact .inr hx
  · exact combine_right hop (not_exists.mp hy)

theorem combine_sub_right (hy : ∀ w, y ≠ scalar w) :
    combine .sub y (scalar x) = .error .wrongKind := by
  rw [combine_eq_getD ofSequences?_scalar_right]
  cases y with
  | scalar w => exact absurd rfl (hy w)
  | _ => rfl

end Operand

open Operand in
/-- A sum or a product with a scalar is the same from both sides. It is the scalar of the result in
the field of the scalar where that takes the other operand, and in the field of the other operand
where that is a scalar of a field above; anything else is refused. A difference is taken only by a
scalar on the left, in its own field, and a scalar of a field above is not taken. -/
theorem mixed_operands (x : Scalar) (y : Operand) :
    (∀ op, op ≠ .sub →
      combine op y (scalar x) = combine op (scalar x) y ∧
      (∀ n, x.Takes y n →
        combine op (scalar x) y = .ok (scalar (Scalar.ofInt x.field (op.onInts x.value n)))) ∧
      (∀ w, y = scalar w → x.field.refines w.field = true →
        combine op (scalar x) y =
          .ok (scalar (Scalar.ofInt w.field (op.onInts x.value w.value)))) ∧
      ((∀ n, ¬x.Takes y n) → (∀ w, y = scalar w → ¬x.field.refines w.field = true) →
        combine op (scalar x) y = .error .wrongKind)) ∧
    (∀ n, x.Takes y n →
      combine .sub (scalar x) y = .ok (scalar (Scalar.ofInt x.field (x.value - n)))) ∧
    ((∀ n, ¬x.Takes y n) → combine .sub (scalar x) y = .error .wrongKind) ∧
    (∀ w, y = scalar w → x.field.strictlyRefines w.field = true →
      combine .sub (scalar x) y = .error .wrongKind) ∧
    ((∀ w, y ≠ scalar w) → combine .sub y (scalar x) = .error .wrongKind) ∧
    Fault.wrongKind.kind = "TypeError" := by
  have hsub : (∀ n, ¬x.Takes y n) → combine .sub (scalar x) y = .error .wrongKind :=
    fun h => combine_eq_error h fun _ _ => .inl rfl
  refine ⟨fun op hop => ⟨combine_comm hop, fun n h => combine_of_takes h, ?_, fun h hw => ?_⟩,
    fun n h => combine_of_takes h, hsub, ?_, combine_sub_right, rfl⟩
  · rintro w rfl h
    exact combine_of_refines hop h
  · exact combine_eq_error h fun w hy => .inr (hw w hy)
  · rintro w rfl h
    exact hsub (not_takes_scalar (Field.not_refines_of_strictlyRefines h))

open Operand in
theorem mixed_operands_eleven :
    let seven : Field := .root "a" "Seven" { value := 7 }
    let eleven : Field := .under seven "b" "Eleven" (some { value := 11 })
    let nine : Operand := scalar ⟨eleven, 9⟩
    let five : Operand := scalar ⟨seven, 5⟩
    combine .add (truth true) nine = combine .add nine (truth true) ∧
      combine .add nine (truth true) = .ok (scalar ⟨eleven, 10⟩) ∧
      combine .mul five nine = combine .mul nine five ∧
      combine .mul nine five = .ok (scalar ⟨seven, 3⟩) ∧
      combine .sub five nine = .ok (scalar ⟨seven, 3⟩) ∧
      combine .sub nine five = .error .wrongKind ∧
      combine .mul nine (text "a") = .error .wrongKind ∧
      combine .sub (text "a") nine = .error .wrongKind := by
  intro seven eleven nine five
  obtain ⟨h₁, -⟩ := mixed_operands ⟨eleven, 9⟩ (truth true)
  obtain ⟨hc₁, ht, -⟩ := h₁ .add (by decide)
  obtain ⟨h₂, -, -, hs, -⟩ := mixed_operands ⟨eleven, 9⟩ five
  obtain ⟨hc₂, -, hr, -⟩ := h₂ .mul (by decide)
  obtain ⟨-, h₃, -⟩ := mixed_operands ⟨seven, 5⟩ nine
  obtain ⟨h₄, -, -, -, hl, -⟩ := mixed_operands ⟨eleven, 9⟩ (text "a")
  have hn : ∀ n, ¬(Scalar.mk eleven 9).Takes (text "a") n := by
    rintro n (h | h)
    cases h
  have hp : Scalar.ofInt seven (Arithmetic.mul.onInts 9 5) = ⟨seven, 3⟩ := by decide
  have hd : Scalar.ofInt seven (5 - 9) = ⟨seven, 3⟩ := by decide
  exact ⟨hc₁, ht 1 (.whole rfl), hc₂, hp ▸ hr _ rfl (by decide), hd ▸ h₃ 9 (.scalar (by decide)),
    hs _ rfl (by decide), (h₄ .mul (by decide)).2.2.2 hn nofun, hl nofun⟩

end Residue256
