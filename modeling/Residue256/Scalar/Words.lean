import Residue256.Scalar.Basic

namespace Residue256.Scalar

variable {α : Type}

def checkWord (i : Nat) (w : Int) : Except Fault Nat :=
  if 0 ≤ w ∧ w < 2 ^ 64 then .ok w.toNat else .error (.naming (.wordRange i) (.int w))

def checkWords (check : Nat → α → Except Fault Nat) (i : Nat) : List α → Except Fault (List Nat)
  | [] => .ok []
  | w :: ws => do
    let n ← check i w
    let ns ← checkWords check (i + 1) ws
    return n :: ns

def magnitude (check : Nat → α → Except Fault Nat) (ws : List α) : Except Fault Nat :=
  if ws.length ≠ 4 then .error (.wordCount ws.length)
  else do
    let ns ← checkWords check 0 ws
    return Digits.join (2 ^ 64) ns

/-- The scalar with a given residue. A number that is no residue is refused. -/
def ofResidue (F : Field) (n : Nat) : Except Fault Scalar :=
  if n < F.modulus.value then .ok (ofInt F n) else .error (.notResidue F.name)

def ofWords (F : Field) (ws : List Int) : Except Fault Scalar := do
  let n ← magnitude checkWord ws
  ofResidue F n

end Residue256.Scalar
