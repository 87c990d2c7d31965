import Residue256.Int256.Arithmetic
import Residue256.Scalar.Order
import Residue256.Scalar.Words

namespace Residue256

/-- The 256-bit integer with the signed reading of a scalar. The words of the magnitude make the two
halves, and a negative scalar takes the wrapping opposite of that. -/
def Scalar.toInt256 (x : Scalar) : Except Fault Int256 := do
  let negative ← x.compare .gt x.field.maxSigned
  let magnitude := if negative then -x else x
  let ws := magnitude.toWords
  -- The magnitude is at most half of the modulus, which leaves the sign bit of the high half clear.
  let v ← Int256.ofParts (Digits.join (2 ^ 64) (ws.take 2)) (Digits.join (2 ^ 64) (ws.drop 2))
  if negative then v.wrappingNeg else return v

def Field.window (F : Field) : Except Fault (Int256 × Int256) := do
  let greatest ← F.maxSigned.toInt256
  let least ← greatest.neg
  return (least, greatest)

namespace Int256

def words (v : Int256) : List Int :=
  [v.low % 2 ^ 64, v.low / 2 ^ 64, v.high % 2 ^ 64, v.high / 2 ^ 64]

/-- The scalar of a field with a given signed reading, or nothing outside the field's window. -/
def toScalar? (F : Field) (v : Int256) : Except Fault (Option Scalar) := do
  let (least, greatest) ← F.window
  if v.compare .lt least || v.compare .gt greatest then return none
  -- The window is symmetric, so what lies in it has an opposite.
  let magnitude ← if v.isNegative then v.neg else pure v
  let x ← Scalar.ofWords F magnitude.words
  return some (if v.isNegative then -x else x)

def toScalar (F : Field) (v : Int256) : Except Fault Scalar := do
  match ← v.toScalar? F with
  | some x => return x
  | none => .error (.outsideWindow v.toHalves F none)

end Int256

end Residue256
