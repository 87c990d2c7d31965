import Residue256.Digits
import Residue256.Int256.Arithmetic

namespace Residue256.Int256

/-- The 32 bytes of a value, the lowest first. -/
def toBytes (v : Int256) : List UInt8 := (Digits.split 256 32 (pattern v.toInt)).map UInt8.ofNat

def ofBytes (bs : List UInt8) : Except Fault Int256 :=
  if bs.length ≠ 32 then .error (.byteCount bs.length)
  else ofInt (ofPattern (Digits.join 256 (bs.map UInt8.toNat)))

/-- The first `k` slots of 32 bytes. -/
def slots : Nat → List UInt8 → List (List UInt8)
  | 0, _ => []
  | k + 1, bs => bs.take 32 :: slots k (bs.drop 32)

def toBuffer (vs : List Int256) : List UInt8 := vs.flatMap toBytes

def ofBuffer (bs : List UInt8) : Except Fault (List Int256) :=
  if bs.length % 32 ≠ 0 then .error (.bufferLength bs.length)
  else (slots (bs.length / 32) bs).mapM ofBytes

variable {v : Int256} {vs : List Int256}

@[simp] theorem length_toBytes : v.toBytes.length = 32 := by simp [toBytes]

@[simp] theorem length_toBuffer : (toBuffer vs).length = 32 * vs.length := by
  induction vs with
  | nil => rfl
  | cons v vs ih =>
    rw [toBuffer, List.flatMap_cons, ← toBuffer, List.length_append, ih, length_toBytes,
      List.length_cons]
    omega

end Residue256.Int256
