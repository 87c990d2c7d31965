import Residue256.Operand.Compare
import Residue256.Operand.Items

namespace Residue256.Operand

inductive KeyPart where
  | nothing
  | int (n : Int)
  | real (x : Binary64)
  | text (s : String)
  | bytes (bs : List UInt8)
  | family (F : Family)
  | stream (id : Nat)
  | record
  | sequence (n : Nat)
deriving DecidableEq, Repr

def numberKey : Number → KeyPart
  | .int n => .int n
  | .truth b => .int b.toInt
  | .real x =>
    match x.toInt? with
    | some n => .int n
    | none => .real x

mutual

/-- The key of an operand, which is the same for operands that are equal. What has none cannot be a
member of a set. -/
def key : Operand → Except Fault (List KeyPart)
  | nothing => .ok [.nothing]
  | number x => .ok [numberKey x]
  | text s => .ok [.text s]
  | bytes bs => .ok [.bytes bs]
  | list _ => .error .wrongKind
  | tuple xs => do
    let ks ← keyAll xs
    return .sequence xs.length :: ks
  | table _ => .error .wrongKind
  | stream i => .ok [.stream i]
  | family F => .ok [.family F]
  | scalar x => .ok [.int x.value]
  | int256 h => .ok [.sequence 2, numberKey h.low, numberKey h.high]
  | record r => .ok (.record :: r.limbs.map fun (n : Nat) => .int n)

def keyAll : List Operand → Except Fault (List KeyPart)
  | [] => .ok []
  | x :: xs => do
    let k ← key x
    let ks ← keyAll xs
    return k ++ ks

end

def sameKey (a b : Operand) : Except Fault Bool := do
  let k ← key a
  let l ← key b
  return k == l

def isMember (x : Operand) (members : List Operand) : Bool := members.any fun y => equal y x

/-- Adds an operand to a set, unless it is equal to a member. -/
def insert (members : List Operand) (x : Operand) : Except Fault (List Operand) := do
  let _ ← key x
  return if isMember x members then members else members ++ [x]

def distinct (is : Items) : Except Fault (List Operand) × Items := is.fold insert []

def isIn (x : Operand) (members : List Operand) : Except Fault Bool := do
  let _ ← key x
  return isMember x members

end Residue256.Operand
