import Residue256.Operand.Items

namespace Residue256

inductive Arithmetic where
  | add
  | sub
  | mul
deriving DecidableEq, Repr

def Arithmetic.onInts : Arithmetic → Int → Int → Int
  | add, m, n => m + n
  | sub, m, n => m - n
  | mul, m, n => m * n

/-- The scalar that an operand stands for beside `x`: itself if `x` knows it, or the integer it is
in the field of `x`. -/
def Scalar.accept? (x : Scalar) : Operand → Option Scalar
  | .scalar y => if y.field.refines x.field then some y else none
  | y => y.whole?.map (Scalar.ofInt x.field)

def Scalar.combine? (op : Arithmetic) (x : Scalar) (y : Operand) : Option Scalar :=
  (x.accept? y).map fun y => Scalar.ofInt x.field (op.onInts x.value y.value)

namespace Operand

def combineHalves (f : Int256 → Int256 → Except Fault Int256) (h k : Int256.Halves) :
    Except Fault Operand := do
  let v ← h.value
  let w ← k.value
  let z ← f v w
  return plain z

def fromLeft? (op : Arithmetic) : Operand → Operand → Option (Except Fault Operand)
  | scalar x, b => (x.combine? op b).map fun z => .ok (scalar z)
  | int256 h, int256 k =>
    match op with
    | .add => some (combineHalves Int256.add h k)
    | .sub => some (combineHalves Int256.sub h k)
    | .mul => none
  | number x, number y =>
    match x.whole?, y.whole? with
    | some m, some n => some (.ok (int (op.onInts m n)))
    | _, _ => none
  | _, _ => none

/-- What a scalar on the right gives for a sum or a product. -/
def fromRight? (op : Arithmetic) (a : Operand) : Operand → Option (Except Fault Operand)
  | scalar y => if op = .sub then none else (y.combine? op a).map fun z => .ok (scalar z)
  | _ => none

def repeated? (n : Int) : Operand → Option Operand
  | text s => some (text (String.join (List.replicate n.toNat s)))
  | bytes bs => some (bytes (List.replicate n.toNat bs).flatten)
  | list xs => some (list (List.replicate n.toNat xs).flatten)
  | tuple xs => some (tuple (List.replicate n.toNat xs).flatten)
  | _ => none

def ofSequences? : Arithmetic → Operand → Operand → Option Operand
  | .add, text s, text t => some (text (s ++ t))
  | .add, bytes bs, bytes ds => some (bytes (bs ++ ds))
  | .add, list xs, list ys => some (list (xs ++ ys))
  | .add, tuple xs, tuple ys => some (tuple (xs ++ ys))
  | .mul, a, number n => n.whole?.bind fun n => a.repeated? n
  | .mul, number n, b => n.whole?.bind fun n => b.repeated? n
  | _, _, _ => none

def combine (op : Arithmetic) (a b : Operand) : Except Fault Operand :=
  match fromLeft? op a b <|> fromRight? op a b <|> (ofSequences? op a b).map .ok with
  | some r => r
  | none => .error .wrongKind

def neg : Operand → Except Fault Operand
  | number (.real (.finite s m q)) => .ok (number (.real (.finite (!s) m q)))
  | number (.real (.infinite s)) => .ok (number (.real (.infinite (!s))))
  | number (.real .nan) => .ok (number (.real .nan))
  | number (.int n) => .ok (int (-n))
  | number (.truth b) => .ok (int (-b.toInt))
  | scalar x => .ok (scalar (-x))
  | int256 h => do
    let v ← h.value
    let w ← v.neg
    return plain w
  | _ => .error .wrongKind

def sum (is : Items) : Except Fault Operand × Items := is.fold (combine .add) (int 0)

end Operand

end Residue256
