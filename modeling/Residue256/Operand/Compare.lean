import Residue256.Operand.Basic
import Residue256.Scalar.Order

namespace Residue256.Operand

def ofEquality (c : Comparison) (equal : Bool) : Option Bool :=
  match c with
  | .eq => some equal
  | .ne => some !equal
  | _ => none

def answerNumbers (c : Comparison) (x y : Number) : Bool :=
  match x.compare? y with
  | some o => c.ofOrdering o
  | none => c == .ne

/-- Whether `b` is heard before `a`. -/
def yields : Operand → Operand → Bool
  | scalar x, scalar y => x.yields y
  | _, _ => false

/-- What the first operand says to a comparison with the second, if it says anything. -/
def answer? (c : Comparison) : Operand → Operand → Option Bool
  | nothing, nothing => ofEquality c true
  | number x, number y => some (answerNumbers c x y)
  | text s, text t => some (c.ofOrdering (compareOfLessAndEq s t))
  | bytes bs, bytes ds => some (c.ofOrdering (compareOfLessAndEq bs ds))
  | family F, family G => ofEquality c (F == G)
  | scalar x, scalar y => x.answer? c y
  | scalar x, number n => n.whole?.bind fun n => ofEquality c ((x.value : Int) == n)
  | int256 h, int256 k => some (h.compare c k)
  | stream i, stream j => ofEquality c (i == j)
  | record r, record s => ofEquality c (r == s)
  | _, _ => none

def settle (c : Comparison) (a b : Operand) : Option Bool :=
  c.settle (a.yields b) (a.answer? c b) (b.answer? c.swap a)

mutual

def equal : Operand → Operand → Bool
  | list xs, list ys => equalAll xs ys
  | tuple xs, tuple ys => equalAll xs ys
  | table es, table fs => es.length == fs.length && equalEntries es fs
  | a, b => (settle .eq a b).getD false

def equalAll : List Operand → List Operand → Bool
  | [], [] => true
  | x :: xs, y :: ys => equal x y && equalAll xs ys
  | _, _ => false

def equalEntries : List (String × Operand) → List (String × Operand) → Bool
  | [], _ => true
  | (k, x) :: es, fs =>
    (match fs.lookup k with
      | some y => equal x y
      | none => false) && equalEntries es fs

end

mutual

def order? (c : Comparison) : Operand → Operand → Option Bool
  | list xs, list ys => orderAll? c xs ys
  | tuple xs, tuple ys => orderAll? c xs ys
  | a, b => settle c a b

/-- Compares two sequences by their first items that differ, or by their lengths. -/
def orderAll? (c : Comparison) : List Operand → List Operand → Option Bool
  | x :: xs, y :: ys => if equal x y then orderAll? c xs ys else order? c x y
  | xs, ys => some (c.ofOrdering (Ord.compare xs.length ys.length))

end

def compare (c : Comparison) (a b : Operand) : Except Fault Bool :=
  match c with
  | .eq => .ok (equal a b)
  | .ne => .ok !(equal a b)
  | c =>
    match order? c a b with
    | some b => .ok b
    | none => .error .wrongKind

end Residue256.Operand
