import Mathlib.Algebra.BigOperators.Group.List.Basic
import Residue256.Proofs.Int256.Arithmetic

namespace Residue256

open Fallible

namespace Int256

open Operand

variable {m n : Int} {ms ns : List Int} {r : Except Fault Operand}
  {f : Operand → Except Fault Operand}

inductive Chain where
  | value (x : Given)
  | neg (e : Chain)
  | add (l r : Chain)
  | sub (l r : Chain)

namespace Chain

def eval : Chain → Except Fault Operand
  | value x => .ok x.toOperand
  | neg e => do
    let a ← e.eval
    a.neg
  | add l r => do
    let a ← l.eval
    let b ← r.eval
    a.combine .add b
  | sub l r => do
    let a ← l.eval
    let b ← r.eval
    a.combine .sub b

def exact : Chain → Int
  | value x => x.toInt
  | neg e => -e.exact
  | add l r => l.exact + r.exact
  | sub l r => l.exact - r.exact

/-- The exact results of the operations, in the order in which these are carried out. -/
def steps : Chain → List Int
  | value _ => []
  | neg e => e.steps ++ [-e.exact]
  | add l r => l.steps ++ (r.steps ++ [l.exact + r.exact])
  | sub l r => l.steps ++ (r.steps ++ [l.exact - r.exact])

def terms : Chain → List Int
  | value x => [x.toInt]
  | neg e => e.terms.map (-·)
  | add l r => l.terms ++ r.terms
  | sub l r => l.terms ++ r.terms.map (-·)

theorem exact_eq_sum (e : Chain) : e.exact = e.terms.sum := by
  induction e with
  | value x => exact (List.sum_singleton ..).symm
  | neg e ih => rw [exact, terms, ih, List.sum_neg]
  | add l r ihl ihr => rw [exact, terms, ihl, ihr, List.sum_append]
  | sub l r ihl ihr =>
    rw [exact, terms, ihl, ihr, List.sum_append, Int.sub_eq_add_neg, List.sum_neg]

/-- How steps with these exact results end: at the exact value, or at the first of them that does
not fit. -/
inductive Outcome (steps : List Int) (exact : Int) : Except Fault Operand → Prop where
  | value (x : Given) (hx : x.toInt = exact) (hs : ∀ n ∈ steps, Fits n) :
    Outcome steps exact (.ok x.toOperand)
  | overflow {before after : List Int} {n : Int} (hs : steps = before ++ n :: after)
    (hb : ∀ m ∈ before, Fits m) (hn : ¬Fits n) : Outcome steps exact (.error (.overflow (.int n)))

namespace Outcome

theorem single (h : Checked n r) : Outcome [n] n r := by
  cases h with
  | exact hv hn => exact .value (.ofValid hv) hn (List.forall_mem_singleton.mpr (hn ▸ hv.fits))
  | overflow hn => exact .overflow (List.nil_append _).symm (List.forall_mem_nil _) hn

theorem after (hs : ∀ m ∈ ms, Fits m) (h : Outcome ns n r) : Outcome (ms ++ ns) n r := by
  cases h with
  | value y hy hs' => exact .value y hy (List.forall_mem_append.mpr ⟨hs, hs'⟩)
  | @overflow before rest n hs' hb hn =>
    have ha : ms ++ ns = (ms ++ before) ++ n :: rest := by rw [hs', List.append_assoc]
    exact .overflow ha (List.forall_mem_append.mpr ⟨hs, hb⟩) hn

theorem bind (h : Outcome ms m r)
    (hf : ∀ x : Given, x.toInt = m → Outcome ns n (f x.toOperand)) :
    Outcome (ms ++ ns) n (r >>= f) := by
  cases h with
  | value x hx hs =>
    rw [ok_bind]
    exact (hf x hx).after hs
  | @overflow before rest k hs hb hn =>
    have ha : ms ++ ns = before ++ k :: (rest ++ ns) := by
      rw [hs, List.append_assoc, List.cons_append]
    exact .overflow ha hb hn

theorem exists_ok_iff (h : Outcome ms n r) : (∃ a, r = .ok a) ↔ ∀ m ∈ ms, Fits m := by
  cases h with
  | value x hx hs => exact iff_of_true ⟨_, rfl⟩ hs
  | overflow hs hb hn =>
    refine iff_of_false nofun fun h => hn (h _ ?_)
    rw [hs]
    exact List.mem_append_right _ List.mem_cons_self

end Outcome

theorem outcome (e : Chain) : Outcome e.steps e.exact e.eval := by
  -- Each operation is a last step after those of its operands.
  induction e with
  | value x => exact .value x rfl (List.forall_mem_nil _)
  | neg e ih =>
    apply ih.bind
    intro x hx
    rw [exact, ← hx]
    exact .single (checked_neg x)
  | add l r ihl ihr =>
    apply ihl.bind
    intro x hx
    apply ihr.bind
    intro y hy
    rw [exact, ← hx, ← hy]
    exact .single (checked_add x y)
  | sub l r ihl ihr =>
    apply ihl.bind
    intro x hx
    apply ihr.bind
    intro y hy
    rw [exact, ← hx, ← hy]
    exact .single (checked_sub x y)

theorem exists_given {a : Operand} (e : Chain) (h : e.eval = .ok a) :
    ∃ x : Given, a = x.toOperand ∧ x.toInt = e.exact := by
  have ho := e.outcome
  rw [h] at ho
  cases ho with
  | value x hx => exact ⟨x, rfl, hx⟩

theorem exists_overflow {e : Chain} {fault : Fault} (h : e.eval = .error fault) :
    ∃ before n after, e.steps = before ++ n :: after ∧ (∀ m ∈ before, Fits m) ∧ ¬Fits n ∧
      fault = .overflow (.int n) := by
  have ho := e.outcome
  rw [h] at ho
  cases ho with
  | overflow hs hb hn => exact ⟨_, _, _, hs, hb, hn, rfl⟩

theorem exact_eq_of_perm {e f : Chain} (h : e.terms.Perm f.terms) : e.exact = f.exact := by
  rw [exact_eq_sum, exact_eq_sum, h.sum_eq]

end Chain

end Int256

namespace Operand

open Int256

/-- Sums, differences and opposites of 256-bit integers are exact, or refused with the integer that
is too large. Only the least value has no opposite, yet it can be taken from a negative value; and
what was added can be taken away again. The wrapping opposite is there for all values, is the
opposite where there is one, and undoes itself. A chain of operations has a value if every step
fits, and then ends at its exact value, while otherwise the first step that does not fit is named.
Chains with the same terms in any order and grouping are equal if they have values. -/
theorem arithmetic_is_exact_or_refused :
    (∀ x y : Given,
      Checked (x.toInt + y.toInt) (combine .add x.toOperand y.toOperand) ∧
      Checked (x.toInt - y.toInt) (combine .sub x.toOperand y.toOperand) ∧
      Checked (-x.toInt) (neg x.toOperand) ∧
      ((∃ fault, neg x.toOperand = .error fault) ↔ x.toInt = -2 ^ 255) ∧
      (y.toInt = -2 ^ 255 →
        ((∃ a, combine .sub x.toOperand y.toOperand = .ok a) ↔ x.toInt < 0)) ∧
      ∀ a, combine .add x.toOperand y.toOperand = .ok a →
        ∃ b, combine .sub a y.toOperand = .ok b ∧ compare .eq b x.toOperand = .ok true) ∧
    (∀ n, (Fault.overflow (.int n)).kind = "OverflowError" ∧
      (Fault.overflow (.int n)).message = some s!"{n} does not fit in i256") ∧
    (∀ x : Given, ∃ w : Given, x.toOperand.wrappingNeg = .ok w.toOperand ∧
      w.toInt ≡ -x.toInt [ZMOD 2 ^ 256] ∧
      (x.toInt ≠ -2 ^ 255 → neg x.toOperand = .ok w.toOperand) ∧
      (x.toInt = -2 ^ 255 → compare .eq w.toOperand x.toOperand = .ok true) ∧
      ∃ a, w.toOperand.wrappingNeg = .ok a ∧ compare .eq a x.toOperand = .ok true) ∧
    (∀ e : Chain,
      ((∃ a, e.eval = .ok a) ↔ ∀ n ∈ e.steps, Fits n) ∧
      (∀ a, e.eval = .ok a → ∃ x : Given, a = x.toOperand ∧ x.toInt = e.exact) ∧
      ∀ fault, e.eval = .error fault → ∃ before n after, e.steps = before ++ n :: after ∧
        (∀ m ∈ before, Fits m) ∧ ¬Fits n ∧ fault = .overflow (.int n)) ∧
    ∀ e f : Chain, e.terms.Perm f.terms → ∀ a b, e.eval = .ok a → f.eval = .ok b →
      compare .eq a b = .ok true := by
  refine ⟨fun x y => ?_, fun n => ⟨rfl, rfl⟩, fun x => ?_,
    fun e => ⟨e.outcome.exists_ok_iff, fun a => e.exists_given, fun _ => Chain.exists_overflow⟩,
    fun e f hp a b ha hb => ?_⟩
  · have hx := x.fits
    have hy := y.fits
    refine ⟨checked_add x y, checked_sub x y, checked_neg x, ?_, fun hm => ?_,
      fun a => exists_sub_of_add⟩
    · rw [(checked_neg x).exists_error_iff]
      simp only [Fits] at *
      omega
    · rw [(checked_sub x y).exists_ok_iff]
      simp only [Fits] at *
      omega
  · obtain ⟨w, hw, hv, hn⟩ := wrappingNeg_spec x.value
    have hx : x.toOperand.wrappingNeg = .ok (plain w) := by
      rw [Given.toOperand, wrappingNeg_of_holds x.holds, hw]
      rfl
    refine ⟨.ofValid hv, hx, hn, fun hm => ?_, fun hm => ?_, ?_⟩
    · have hl := lt_of_le_of_ne x.fits.1 hm.symm
      rw [Given.toOperand, neg_of_holds x.holds, ← wrappingNeg_eq_neg x.valid hl, hw]
      rfl
    · cases hw.symm.trans (wrappingNeg_least x.valid hm)
      exact Given.equal_of_toInt_eq rfl
    · have hz : (plain w).wrappingNeg = .ok (plain x.value) := by
        rw [wrappingNeg_of_holds w.holds_toHalves, wrappingNeg_wrappingNeg x.valid hw]
        rfl
      exact ⟨_, hz, Given.equal_of_toInt_eq (x := .ofValid x.valid) rfl⟩
  · obtain ⟨x, rfl, hx⟩ := e.exists_given ha
    obtain ⟨y, rfl, hy⟩ := f.exists_given hb
    apply Given.equal_of_toInt_eq
    rw [hx, hy, Chain.exact_eq_of_perm hp]

theorem arithmetic_is_exact_or_refused_ends :
    let one : Given := ⟨⟨.truth true, .int 0⟩, ⟨1, 0⟩, ⟨rfl, rfl⟩, by decide⟩
    let minusOne : Given := .ofValid (v := ⟨2 ^ 128 - 1, -1⟩) (by decide)
    let least : Given := .ofValid (v := ⟨0, -2 ^ 127⟩) (by decide)
    let greatest : Given := .ofValid (v := ⟨2 ^ 128 - 1, 2 ^ 127 - 1⟩) (by decide)
    let before : Chain := .add (.sub (.value greatest) (.value one)) (.value one)
    let inside : Chain := .add (.value greatest) (.sub (.value one) (.value one))
    let after : Chain := .sub (.add (.value greatest) (.value one)) (.value one)
    (∃ fault, neg least.toOperand = .error fault) ∧
      (∃ a, combine .sub minusOne.toOperand least.toOperand = .ok a) ∧
      (∃ a b, combine .add least.toOperand one.toOperand = .ok a ∧
        combine .sub a one.toOperand = .ok b ∧ compare .eq b least.toOperand = .ok true) ∧
      (∃ w : Given, least.toOperand.wrappingNeg = .ok w.toOperand ∧
        compare .eq w.toOperand least.toOperand = .ok true) ∧
      (∃ w : Given, greatest.toOperand.wrappingNeg = .ok w.toOperand ∧
        neg greatest.toOperand = .ok w.toOperand) ∧
      before.terms.Perm inside.terms ∧
      (∃ a b, before.eval = .ok a ∧ inside.eval = .ok b ∧ compare .eq a b = .ok true) ∧
      ∃ n, ¬Fits n ∧ after.eval = .error (.overflow (.int n)) := by
  intro one minusOne least greatest before inside after
  obtain ⟨h₁, -, h₂, h₃, h₄⟩ := arithmetic_is_exact_or_refused
  obtain ⟨hadd, -, -, -, -, hback⟩ := h₁ least one
  obtain ⟨a, ha⟩ := hadd.exists_ok_iff.mpr (by decide)
  obtain ⟨b, hb, hab⟩ := hback a ha
  obtain ⟨w, hw, -, -, hwl, -⟩ := h₂ least
  obtain ⟨z, hz, -, hzn, -⟩ := h₂ greatest
  obtain ⟨c, hc⟩ := (h₃ before).1.mpr (by decide)
  obtain ⟨d, hd⟩ := (h₃ inside).1.mpr (by decide)
  have hp : before.terms.Perm inside.terms := by decide
  have hn : ¬∃ a, after.eval = .ok a := mt (h₃ after).1.mp (by decide)
  refine ⟨(h₁ least one).2.2.2.1.mpr rfl, ((h₁ minusOne least).2.2.2.2.1 rfl).mpr (by decide),
    ⟨a, b, ha, hb, hab⟩, ⟨w, hw, hwl rfl⟩, ⟨z, hz, hzn (by decide)⟩, hp,
    ⟨c, d, hc, hd, h₄ _ _ hp c d hc hd⟩, ?_⟩
  cases h : after.eval with
  | ok a => exact absurd ⟨a, h⟩ hn
  | error fault =>
    obtain ⟨-, n, -, -, -, hf, rfl⟩ := (h₃ after).2.2 fault h
    exact ⟨n, hf, rfl⟩

end Operand

end Residue256
