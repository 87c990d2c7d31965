namespace Residue256

inductive Comparison where
  | eq
  | ne
  | lt
  | le
  | gt
  | ge
deriving DecidableEq, Repr

namespace Comparison

def swap : Comparison → Comparison
  | eq => eq
  | ne => ne
  | lt => gt
  | le => ge
  | gt => lt
  | ge => le

def derive (c : Comparison) (less equal : Bool) : Bool :=
  match c with
  | eq => equal
  | ne => !equal
  | lt => less
  | le => less || equal
  | gt => !less && !equal
  | ge => !less

def ofOrdering (c : Comparison) (o : Ordering) : Bool :=
  c.derive (o == .lt) (o == .eq)

/-- The answer when neither side gives one: two things that know nothing of each other differ, and
have no order. -/
def unanswered : Comparison → Option Bool
  | eq => some false
  | ne => some true
  | _ => none

/-- Settles a comparison from the answers that the two sides give, if they give any. The left side
is heard first unless the right one has precedence. -/
def settle (c : Comparison) (rightFirst : Bool) (left right : Option Bool) : Option Bool :=
  (if rightFirst then right <|> left else left <|> right) <|> c.unanswered

variable {c : Comparison} {a b : Int}

@[simp] theorem swap_swap : c.swap.swap = c := by cases c <;> rfl

end Comparison

end Residue256
