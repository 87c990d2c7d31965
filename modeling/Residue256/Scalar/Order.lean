import Residue256.Scalar.Basic

namespace Residue256.Scalar

variable {c : Comparison} {x y : Scalar}

def knows (x y : Scalar) : Bool := y.field.refines x.field

/-- Whether `y` is heard before `x`, being of a field declared below that of `x`. -/
def yields (x y : Scalar) : Bool := y.field.strictlyRefines x.field

def equal? (x y : Scalar) : Option Bool :=
  if x.knows y then some (x.value == y.value) else none

def less? (x y : Scalar) : Option Bool :=
  if x.knows y then some (decide (x.value < y.value)) else none

def equal (x y : Scalar) : Bool :=
  (Comparison.eq.settle (x.yields y) (x.equal? y) (y.equal? x)).getD false

/-- What `x` says to a comparison with `y`. The orders beside "less" are derived from it and from
whether the two are equal. -/
def answer? (c : Comparison) (x y : Scalar) : Option Bool :=
  match c with
  | .eq => x.equal? y
  | .ne => (x.equal? y).map not
  -- Whether the two are equal is asked of both, even where `x` alone knows `y`.
  | c => (x.less? y).map fun less => c.derive less (x.equal y)

def compare? (c : Comparison) (x y : Scalar) : Option Bool :=
  c.settle (x.yields y) (x.answer? c y) (y.answer? c.swap x)

def compare (c : Comparison) (x y : Scalar) : Except Fault Bool :=
  match x.compare? c y with
  | some b => .ok b
  | none => .error .wrongKind

end Residue256.Scalar
