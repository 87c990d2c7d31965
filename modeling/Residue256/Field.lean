import Residue256.Modulus

namespace Residue256

/-- A declared prime field. The tag tells apart declarations that share a name. -/
inductive Field where
  | root (tag name : String) (modulus : Modulus)
  | under (parent : Field) (tag name : String) (own : Option Modulus)
deriving DecidableEq, Repr

namespace Field

def name : Field → String
  | root _ n _ => n
  | under _ _ n _ => n

instance : Coe Field String := ⟨name⟩

def modulus : Field → Modulus
  | root _ _ m => m
  | under _ _ _ (some m) => m
  | under f _ _ none => f.modulus

/-- The field that set the modulus: the field itself or the nearest ancestor that did. -/
def owner : Field → Field
  | root t n m => root t n m
  | under f t n (some m) => under f t n (some m)
  | under f _ _ none => f.owner

def refines : Field → Field → Bool
  | f@(root ..), g => f == g
  | f@(under parent ..), g => f == g || parent.refines g

def strictlyRefines (f g : Field) : Bool := f != g && f.refines g

variable {f g : Field}

@[simp] theorem modulus_owner : f.owner.modulus = f.modulus := by
  fun_induction owner f <;> simp_all [modulus]

theorem refines_refl (f : Field) : f.refines f = true := by
  cases f <;> simp [refines]

theorem refines_owner (f : Field) : f.refines f.owner = true := by
  fun_induction owner f with
  | case1 => exact refines_refl _
  | case2 => exact refines_refl _
  | case3 f t n ih => simp [refines, ih]

end Field

/-- What may be named where a field is expected. -/
inductive Family where
  | unset (tag name : String)
  | field (f : Field)
deriving DecidableEq, Repr

namespace Family

def name : Family → String
  | unset _ n => n
  | field f => f.name

def extend (base : Family) (tag name : String) (own : Option Modulus) : Family :=
  match base, own with
  | .unset .., none => .unset tag name
  | .unset .., some m => .field (.root tag name m)
  | .field f, own => .field (.under f tag name own)

end Family

end Residue256
