import Mathlib.Algebra.BigOperators.Group.List.Basic
import Residue256.Proofs.Conversion
import Residue256.Proofs.Operand.Arithmetic

namespace Residue256

open Fallible

variable {F : Field} {a : Operand} {n : Int} {s : Bool}

inductive Term (F : Field) where
  | scalar (r : Fin F.modulus.value)
  | int (n : Int)
  | truth (b : Bool)

namespace Term

def toOperand : Term F → Operand
  | scalar r => .scalar ⟨F, r⟩
  | int n => .int n
  | truth b => .truth b

def exact (reading : Scalar → Int) : Term F → Int
  | scalar r => reading ⟨F, r⟩
  | int n => n
  | truth b => b.toInt

def isScalar : Term F → Bool
  | scalar _ => true
  | _ => false

end Term

inductive Expression (F : Field) where
  | term (t : Term F)
  | neg (e : Expression F)
  | combine (op : Arithmetic) (l r : Expression F)

namespace Expression

def eval : Expression F → Except Fault Operand
  | term t => .ok t.toOperand
  | neg e => do
    let a ← e.eval
    a.neg
  | combine op l r => do
    let a ← l.eval
    let b ← r.eval
    a.combine op b

def exact (reading : Scalar → Int) : Expression F → Int
  | term t => t.exact reading
  | neg e => -e.exact reading
  | combine op l r => op.onInts (l.exact reading) (r.exact reading)

/-- No difference takes a scalar from an integer, or from a truth value. -/
def Admissible : Expression F → Prop
  | term _ => True
  | neg e => e.Admissible
  | combine op l r => l.Admissible ∧ r.Admissible ∧
      ¬(op = .sub ∧ (∃ a n, l.eval = .ok a ∧ a.whole? = some n) ∧ ∃ x, r.eval = .ok (.scalar x))

def hasScalar : Expression F → Bool
  | term t => t.isScalar
  | neg e => e.hasScalar
  | combine _ l r => l.hasScalar || r.hasScalar

end Expression

/-- A reading gives each scalar an integer of its residue class. -/
def Scalar.IsReading (reading : Scalar → Int) : Prop :=
  ∀ x, reading x ≡ x.value [ZMOD x.field.modulus.value]

variable {reading : Scalar → Int}

namespace Scalar

theorem isReading_value : IsReading fun x => x.value := fun _ => rfl

theorem isReading_signed : IsReading signed := fun _ => signed_modEq

end Scalar

theorem Term.standsFor (hr : Scalar.IsReading reading) (t : Term F) :
    t.toOperand.StandsFor F (t.exact reading) t.isScalar := by
  cases t with
  | scalar r =>
    have h : Scalar.ofInt F (reading ⟨F, r⟩) = ⟨F, r⟩ := by
      rw [Scalar.ofInt_eq_of_modEq (hr ⟨F, r⟩)]
      exact Scalar.ofInt_value (x := ⟨F, r⟩) r.isLt
    rw [toOperand, ← h]
    exact .scalar
  | int n => exact .whole rfl
  | truth b => exact .whole rfl

namespace Operand

theorem StandsFor.exists_whole?_iff (h : StandsFor F n s a) :
    (∃ m, a.whole? = some m) ↔ s = false := by
  cases h with
  | scalar => simp [whole?]
  | whole h => simp [h]

theorem StandsFor.exists_scalar_iff (h : StandsFor F n s a) :
    (∃ x, a = .scalar x) ↔ s = true := by
  cases h with
  | scalar => simp
  | whole h =>
    obtain ⟨x, rfl, -⟩ := exists_number_of_whole? h
    simp

end Operand

namespace Expression

theorem eval_combine {op : Arithmetic} {l r : Expression F} {b : Operand} (hl : l.eval = .ok a)
    (hr : r.eval = .ok b) : (combine op l r).eval = a.combine op b := by
  rw [eval, hl, hr, ok_bind, ok_bind]

theorem eval_spec (hr : Scalar.IsReading reading) (e : Expression F) :
    (e.Admissible → ∃ a, e.eval = .ok a ∧ a.StandsFor F (e.exact reading) e.hasScalar) ∧
      (¬e.Admissible → e.eval = .error .wrongKind) := by
  induction e with
  | term t => exact ⟨fun _ => ⟨_, rfl, t.standsFor hr⟩, fun h => absurd trivial h⟩
  | neg e ih =>
    refine ⟨fun h => ?_, fun h => ?_⟩
    · obtain ⟨a, he, ha⟩ := ih.1 h
      rw [eval, he]
      exact ha.neg
    · rw [eval, ih.2 h, error_bind]
  | combine op l r ihl ihr =>
    by_cases hl : l.Admissible
    swap
    · refine ⟨fun h => absurd h.1 hl, fun _ => ?_⟩
      rw [eval, ihl.2 hl, error_bind]
    obtain ⟨a, hla, ha⟩ := ihl.1 hl
    by_cases hra : r.Admissible
    swap
    · refine ⟨fun h => absurd h.2.1 hra, fun _ => ?_⟩
      rw [eval, hla, ihr.2 hra, ok_bind, error_bind]
    obtain ⟨b, hrb, hb⟩ := ihr.1 hra
    rw [eval_combine hla hrb]
    -- Both sides have a value now, so only the operation itself can still be refused.
    refine ⟨fun h => ha.combine hb ?_, fun h => ?_⟩
    · rintro ⟨rfl, hs, ht⟩
      obtain ⟨m, hm⟩ := ha.exists_whole?_iff.mpr hs
      obtain ⟨x, rfl⟩ := hb.exists_scalar_iff.mpr ht
      exact h.2.2 ⟨rfl, ⟨a, m, hla, hm⟩, x, hrb⟩
    · obtain ⟨rfl, ⟨c, m, hc, hm⟩, x, hx⟩ :
          op = .sub ∧ (∃ c m, l.eval = .ok c ∧ c.whole? = some m) ∧
            ∃ x, r.eval = .ok (.scalar x) := by
        by_contra hc
        exact h ⟨hl, hra, hc⟩
      cases hla.symm.trans hc
      cases hrb.symm.trans hx
      exact Operand.combine_sub_scalar hm

theorem exists_eval_eq_ok {e : Expression F} (h : e.Admissible) :
    ∃ a, e.eval = .ok a ∧ ∀ reading, Scalar.IsReading reading →
      a.StandsFor F (e.exact reading) e.hasScalar := by
  obtain ⟨a, he, -⟩ := (eval_spec Scalar.isReading_value e).1 h
  refine ⟨a, he, fun reading hr => ?_⟩
  obtain ⟨b, hb, hs⟩ := (eval_spec hr e).1 h
  cases he.symm.trans hb
  exact hs

end Expression

theorem Scalar.signed_ofInt_spec :
    (∀ m, m = (ofInt F n).signed ↔ F.modulus.InWindow m ∧ m ≡ n [ZMOD F.modulus.value]) ∧
      (F.modulus.InWindow n → (ofInt F n).signed = n) := by
  refine ⟨fun m => ?_, signed_ofInt⟩
  rw [eq_signed_iff reduced_ofInt]
  exact and_congr_right' ⟨(·.trans value_ofInt_modEq), (·.trans value_ofInt_modEq.symm)⟩

namespace Operand

variable {ts us : List (Term F)}

theorem fold_add (hr : Scalar.IsReading reading) (ts : List (Term F)) (ha : a.StandsFor F n s) :
    ∃ c, Items.fold (combine .add) a ((ts.map Term.toOperand).map .ok) = (.ok c, []) ∧
      c.StandsFor F (n + (ts.map (Term.exact reading)).sum) (s || ts.any Term.isScalar) := by
  induction ts generalizing a n s with
  | nil =>
    refine ⟨a, rfl, ?_⟩
    simpa using ha
  | cons t ts ih =>
    have hop : ¬(Arithmetic.add = .sub ∧ s = false ∧ t.isScalar = true) := by rintro ⟨⟨⟩, -⟩
    obtain ⟨b, hb, hsb⟩ := ha.combine (t.standsFor hr) hop
    obtain ⟨c, hc, hsc⟩ := ih hsb
    refine ⟨c, ?_, ?_⟩
    · rw [List.map_cons, List.map_cons, Items.fold, hb]
      exact hc
    · rwa [List.map_cons, List.sum_cons, List.any_cons, ← Int.add_assoc, ← Bool.or_assoc]

theorem sum_terms (hr : Scalar.IsReading reading) {supply : Supply} (h : ∃ r, Term.scalar r ∈ ts) :
    (supply.read (.list (ts.map Term.toOperand)) sum).result =
      .ok (.scalar (Scalar.ofInt F (ts.map (Term.exact reading)).sum)) := by
  have h0 : (int 0).StandsFor F 0 false := .whole rfl
  obtain ⟨c, hc, hs⟩ := fold_add hr ts h0
  obtain ⟨r, hm⟩ := h
  rw [List.any_eq_true.mpr ⟨_, hm, rfl⟩, Int.zero_add] at hs
  cases hs
  exact congrArg Prod.fst hc

end Operand

/-- An admissible expression evaluates to the scalar of its exact value, the signed reading of which
is exact inside the window, or, without a scalar, to its exact value. Any other expression is
refused, as is every difference of an integer with a scalar. A sum with a scalar in it is the scalar
of the total, in every order of its terms. -/
theorem arithmetic_is_modular (F : Field) (supply : Supply) :
    (Scalar.IsReading (fun x => x.value) ∧ Scalar.IsReading Scalar.signed) ∧
    (∀ e : Expression F, e.Admissible → ∃ a, e.eval = .ok a ∧
      ((∃ (x : Scalar) (v : Int256), a = .scalar x ∧ x.field = F ∧
          x.toInt256 = .ok v ∧ v.Valid ∧ ∀ reading, Scalar.IsReading reading →
            (x.value : Int) = e.exact reading % F.modulus.value ∧
            (∀ n, n = v.toInt ↔
              F.modulus.InWindow n ∧ n ≡ e.exact reading [ZMOD F.modulus.value]) ∧
            (F.modulus.InWindow (e.exact reading) → v.toInt = e.exact reading)) ∨
        ∀ reading, Scalar.IsReading reading → a.whole? = some (e.exact reading))) ∧
    (∀ e : Expression F, ¬e.Admissible → e.eval = .error .wrongKind) ∧
    (∀ (a : Operand) (n : Int) (x : Scalar), a.whole? = some n →
      a.combine .sub (.scalar x) = .error .wrongKind ∧ Fault.wrongKind.kind = "TypeError") ∧
    ∀ ts us : List (Term F), (∃ r, Term.scalar r ∈ ts) → us.Perm ts →
      ∀ reading, Scalar.IsReading reading →
        (supply.read (.list (us.map Term.toOperand)) Operand.sum).result =
          .ok (.scalar (Scalar.ofInt F (ts.map (Term.exact reading)).sum)) := by
  refine ⟨⟨Scalar.isReading_value, Scalar.isReading_signed⟩, fun e he => ?_,
    fun e => (e.eval_spec Scalar.isReading_value).2,
    fun a n x h => ⟨Operand.combine_sub_scalar h, rfl⟩, ?_⟩
  · obtain ⟨a, h, hs⟩ := Expression.exists_eval_eq_ok he
    refine ⟨a, h, ?_⟩
    cases hb : e.hasScalar with
    | false =>
      right
      intro reading hr
      have hw := hs reading hr
      rw [hb] at hw
      cases hw with
      | whole hn => exact hn
    | true =>
      left
      rw [hb] at hs
      obtain ⟨x, rfl⟩ := (hs _ Scalar.isReading_value).exists_scalar_iff.mpr rfl
      have hx : ∀ reading, Scalar.IsReading reading → x = Scalar.ofInt F (e.exact reading) := by
        intro reading hr
        cases hs reading hr
        rfl
      have hx₀ := hx _ Scalar.isReading_value
      obtain ⟨v, hv, hvalid, hn⟩ := Scalar.exists_toInt256_eq_ok (x := x) (by
        rw [hx₀]
        exact Scalar.reduced_ofInt)
      refine ⟨x, v, rfl, by rw [hx₀, Scalar.field_ofInt], hv, hvalid, fun reading hr => ?_⟩
      rw [hn, hx reading hr]
      exact ⟨Scalar.value_ofInt, Scalar.signed_ofInt_spec⟩
  · intro ts us h hp reading hr
    obtain ⟨r, hm⟩ := h
    rw [Operand.sum_terms hr ⟨r, hp.mem_iff.mpr hm⟩, (hp.map _).sum_eq]

theorem arithmetic_is_modular_hundred :
    let F : Field := .under (.root "a" "Hundred" { value := 101 }) "b" "Below" none
    let sixty : Term F := .scalar ⟨60, by decide⟩
    let e : Expression F :=
      .combine .sub (.combine .mul (.term sixty) (.term (.int 50))) (.term (.int 2999))
    let refused : Expression F := .combine .sub (.term (.truth true)) (.term sixty)
    let sum (ts : List (Term F)) :=
      (Supply.read (fun _ => []) (.list (ts.map Term.toOperand)) Operand.sum).result
    e.Admissible ∧
      (∃ (x : Scalar) (v : Int256), e.eval = .ok (.scalar x) ∧ x.toInt256 = .ok v ∧ v.toInt = 1) ∧
      ¬refused.Admissible ∧ refused.eval = .error .wrongKind ∧
      Operand.combine .sub (.int 1) (.scalar ⟨F, 60⟩) = .error .wrongKind ∧
      sum [.int 2, sixty, .truth true, sixty] = .ok (.scalar ⟨F, 22⟩) ∧
      sum [sixty, .truth true, sixty, .int 2] = .ok (.scalar ⟨F, 22⟩) := by
  intro F sixty e refused sum
  obtain ⟨⟨hv, -⟩, h₁, h₂, h₃, h₄⟩ := arithmetic_is_modular F fun _ => []
  have he : e.Admissible := by
    refine ⟨⟨trivial, trivial, ?_⟩, trivial, ?_⟩
    · rintro ⟨⟨⟩, -⟩
    · rintro ⟨-, -, x, ⟨⟩⟩
  have hr : ¬refused.Admissible := fun h => h.2.2 ⟨rfl, ⟨_, 1, rfl, rfl⟩, _, rfl⟩
  let ts : List (Term F) := [.int 2, sixty, .truth true, sixty]
  have hs : ∃ r, Term.scalar r ∈ ts := ⟨_, .tail _ (.head _)⟩
  have ht : Scalar.ofInt F (ts.map (Term.exact fun x => x.value)).sum = ⟨F, 22⟩ := by decide
  have hp : [sixty, .truth true, sixty, .int 2].Perm ts :=
    List.perm_append_singleton _ [sixty, .truth true, sixty]
  refine ⟨he, ?_, hr, h₂ _ hr, (h₃ _ 1 _ rfl).1, ht ▸ h₄ ts ts hs (.refl _) _ hv,
    ht ▸ h₄ ts _ hs hp _ hv⟩
  obtain ⟨a, ha, ⟨x, v, rfl, -, hx, -, h⟩ | h⟩ := h₁ e he
  · have hn : e.exact (fun x => x.value) = 1 := by decide
    have hw := (h _ hv).2.2
    rw [hn] at hw
    exact ⟨x, v, ha, hx, hw (by decide)⟩
  · cases ha
    cases h _ hv

end Residue256
