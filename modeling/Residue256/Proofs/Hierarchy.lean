import Residue256.Field

namespace Residue256.Field

variable {f g : Field}

def depth : Field → Nat
  | root .. => 0
  | under f _ _ _ => f.depth + 1

theorem eq_or_depth_lt (h : f.refines g = true) : f = g ∨ g.depth < f.depth := by
  induction f with
  | root t n m =>
    rw [refines, beq_iff_eq] at h
    exact .inl h
  | under parent t n own ih =>
    rw [refines, Bool.or_eq_true, beq_iff_eq] at h
    obtain h | h := h
    · exact .inl h
    · right
      obtain rfl | hd := ih h
      · exact Nat.lt_succ_self _
      · exact Nat.lt_succ_of_lt hd

theorem refines_antisymm (hf : f.refines g = true) (hg : g.refines f = true) : f = g := by
  obtain h | h := eq_or_depth_lt hf
  · exact h
  · obtain h' | h' := eq_or_depth_lt hg
    · exact h'.symm
    · omega

theorem not_refines_of_strictlyRefines (h : f.strictlyRefines g = true) : ¬g.refines f = true := by
  rw [strictlyRefines, Bool.and_eq_true, bne_iff_ne] at h
  exact fun hg => h.1 (refines_antisymm h.2 hg)

/-- One of the fields is the other or was declared below it. -/
def Related (f g : Field) : Prop := f.refines g = true ∨ g.refines f = true

instance (f g : Field) : Decidable (f.Related g) := inferInstanceAs (Decidable (_ ∨ _))

theorem Related.symm (h : f.Related g) : g.Related f := Or.symm h

end Residue256.Field
