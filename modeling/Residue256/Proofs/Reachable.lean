import Residue256.Proofs.Layout
import Residue256.Proofs.Operation

namespace Residue256

open Fallible

namespace Answer

def valuesOf : Except Fault Operand → List Operand
  | .ok x => x.values
  | .error _ => []

def values : Answer → List Operand
  | value r => valuesOf r
  | table rows => rows.flatMap fun row => valuesOf row.2
  | reading r => (r.result.toOption.getD []).map .scalar

variable {a : Answer} {r : Except Fault Operand}

theorem wellFormed_valuesOf (h : Gives Operand.Sound r) : ∀ x ∈ valuesOf r, x.WellFormed := by
  cases r with
  | ok x => exact h
  | error e => exact List.forall_mem_nil _

theorem Sound.wellFormed (h : a.Sound) : ∀ x ∈ a.values, x.WellFormed := by
  cases a with
  | value r => exact wellFormed_valuesOf h
  | table rows => exact List.forall_mem_flatMap.mpr fun row hr => wellFormed_valuesOf (h row hr)
  | reading r =>
    rw [Sound] at h
    rw [values]
    cases hr : r.result with
    | ok ys =>
      rw [hr] at h
      exact List.forall_mem_map.mpr h
    | error e => exact List.forall_mem_nil _

end Answer

/-- An operation on operands that are made of the values in a pool, with streams that give such
operands or fail. Two halves have to be whole. What the operation answers goes into the pool. -/
inductive Step : List Operand → List Operand → Prop where
  | apply {pool : List Operand} (settings : Settings) (supply : Supply) (op : Operation)
    (args : List Operand) (hargs : ∀ a ∈ args, a.values ⊆ pool)
    (hsupply : ∀ s a, .ok a ∈ supply s → a.values ⊆ pool)
    (hwhole : op = .int256OfParts → ∀ a ∈ args, a.whole?.isSome) :
    Step pool (pool ++ (op.apply settings supply args).answer.values)

inductive Reachable : List Operand → Prop where
  | start : Reachable []
  | next {pool pool' : List Operand} : Reachable pool → Step pool pool' → Reachable pool'

variable {pool pool' : List Operand}

theorem Step.wellFormed (h : Step pool pool') (hp : ∀ x ∈ pool, x.WellFormed) :
    ∀ x ∈ pool', x.WellFormed := by
  cases h with
  | apply settings supply op args hargs hsupply hwhole =>
    -- What is made of well-formed values is sound.
    have ha : ∀ a ∈ args, a.Sound := fun a hm x hx => hp x (hargs a hm hx)
    have hs : supply.Sound := fun s a hm x hx => hp x (hsupply s a hm hx)
    exact List.forall_mem_append.mpr ⟨hp, (Operation.sound_apply hs ha hwhole).wellFormed⟩

theorem Reachable.wellFormed (h : Reachable pool) : ∀ x ∈ pool, x.WellFormed := by
  induction h with
  | start => exact List.forall_mem_nil _
  | next _ hs ih => exact hs.wellFormed ih

/-- In every reachable pool the residues of scalars lie below the modulus, the halves of 256-bit
integers are integers of 128 bits, so that they are made again of the integer they stand for, and
limb records have four words of 64 bits. -/
theorem reachable_values_in_range (h : Reachable pool) :
    (∀ x, .scalar x ∈ pool → x.value < x.field.modulus.value) ∧
    (∀ k, .int256 k ∈ pool → ∃ low high n : Int,
      k.low.whole? = some low ∧ 0 ≤ low ∧ low < 2 ^ 128 ∧
      k.high.whole? = some high ∧ -2 ^ 127 ≤ high ∧ high < 2 ^ 127 ∧
      (Operand.int256 k).toInt = .ok (.int n) ∧ -2 ^ 255 ≤ n ∧ n < 2 ^ 255 ∧
      ∃ w, (Operand.int n).int256OfNumber = .ok w ∧ w.equal (.int256 k) = true) ∧
    ∀ r, .record r ∈ pool → r.limbs.length = 4 ∧ ∀ w ∈ r.limbs, w < 2 ^ 64 := by
  refine ⟨fun x hx => h.wellFormed _ hx, ?_, ?_⟩
  · intro k hk
    obtain ⟨v, hv, hr⟩ := h.wellFormed _ hk
    have hm := hr.minInt_le
    have hx := hr.le_maxInt
    simp only [Int256.minInt, Int256.maxInt] at hm hx
    have hl := hr.low_lt
    refine ⟨v.low, v.high, v.toInt, hv.low_eq, by omega, by omega, hv.high_eq, hr.le_high,
      hr.high_lt, Operand.toInt_of_holds hv, hm, by omega, _,
      Operand.int256OfNumber_of_ofInt (Int256.ofInt_toInt hr), ?_⟩
    rw [Operand.equal_plain hv, beq_self_eq_true]
  · intro r hr
    obtain ⟨hl, hw⟩ := h.wellFormed _ hr
    exact ⟨hl, hw⟩

/-- A truth value as the low half of the least high one, its sum with itself, which overflows, and a
scalar of a field of seven residues. -/
theorem reachable_values_in_range_seven :
    let F : Field := .root "a" "Seven" { value := 7 }
    let k : Int256.Halves := ⟨.truth true, .int (-2 ^ 127)⟩
    let pool : List Operand := [.int256 k, .scalar ⟨F, 4⟩]
    Reachable pool ∧ 4 < F.modulus.value ∧ ∃ n : Int,
      (Operand.int256 k).toInt = .ok (.int n) ∧ -2 ^ 255 ≤ n ∧ n < 2 ^ 255 ∧
      ∃ w, (Operand.int n).int256OfNumber = .ok w ∧ w.equal (.int256 k) = true := by
  intro F k pool
  have h₁ : Reachable [.int256 k] := by
    apply Reachable.next .start
    exact .apply {} (fun _ => []) .int256OfParts [.truth true, .int (-2 ^ 127)]
      (by simp [Operand.values]) (by simp) (by simp [Operand.whole?, Number.whole?])
  have h₂ : Reachable [.int256 k] := by
    apply Reachable.next h₁
    exact .apply {} (fun _ => []) (.arithmetic .add) [.int256 k, .int256 k]
      (by simp [Operand.values]) (by simp) (by simp)
  have hy : Scalar.ofInt F 11 = ⟨F, 4⟩ := by decide
  have h₃ : Reachable [.int256 k, .scalar ⟨F, 4⟩] := by
    rw [← hy]
    apply Reachable.next h₂
    exact .apply {} (fun _ => []) .makeScalar [.family (.field F), .int 11]
      (by simp [Operand.values]) (by simp) (by simp)
  obtain ⟨hs, hi, -⟩ := reachable_values_in_range h₃
  obtain ⟨-, -, n, -, -, -, -, -, -, h⟩ := hi k (by simp)
  exact ⟨h₃, hs ⟨F, 4⟩ (by simp), n, h⟩

end Residue256
