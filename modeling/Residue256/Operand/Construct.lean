import Residue256.Int256.Bytes
import Residue256.LimbRecord.Json
import Residue256.Operand.Items
import Residue256.Scalar.Words

namespace Residue256

def Family.declare (base : Family) (tag name : String) (modulus : Option Operand) :
    Except Fault Family :=
  if name.contains '\x00' then .error .nullInName
  else match modulus with
  | none => .ok (base.extend tag name none)
  | some (.number (.real x)) =>
    if x.compareInt? 3 = some .lt ∨ x.isEven then .error (.modulusNotOdd name)
    else .error (.notInteger (Operand.number (.real x)).kindName)
  | some p =>
    match p.whole? with
    | none => .error (.unordered "<" p.kindName "int")
    | some p =>
      match Modulus.ofInt p with
      | .ok m => .ok (base.extend tag name (some m))
      | .error .notOdd => .error (.modulusNotOdd name)
      | .error .tooLarge => .error (.modulusTooLarge name)

namespace Operand

def family? : Operand → Option Family
  | family F => some F
  | scalar x => some (.field x.field)
  | _ => none

def fieldOf : Family → Except Fault Field
  | .field F => .ok F
  | .unset _ name => .error (.noModulus name)

def makeScalar (F value : Operand) : Except Fault Operand :=
  match F with
  | family F =>
    match value.whole? with
    | none => .error (.notInteger value.kindName)
    | some n => (fieldOf F).map fun F => scalar (Scalar.ofInt F n)
  | _ => .error .wrongKind

def checkWord (i : Nat) : Operand → Except Fault Nat
  | number x =>
    if !x.within 0 (2 ^ 64 - 1) then .error (.naming (.wordRange i) x)
    else
      match x.whole? with
      | some n => .ok n.toNat
      | none => .error .wrongKind
  | _ => .error .wrongKind

def scalarOfWordList (F : Family) (words : List Operand) : Except Fault Operand := do
  let n ← Scalar.magnitude checkWord words
  let F ← fieldOf F
  let x ← Scalar.ofResidue F n
  return scalar x

/-- The scalar of a family with the words that an operand gives. They are asked for only if there
is a family. -/
def scalarOfWords (supply : Supply) (F words : Operand) : Draw Operand :=
  match F.family? with
  | none => ⟨.error .lacking, none⟩
  | some F => supply.read words fun is =>
    let (ws, unread) := is.gather
    (ws >>= scalarOfWordList F, unread)

def checkHalf (low high : Int) (fault : Number → Fault) : Operand → Except Fault Number
  | number x => if x.within low high then .ok x else .error (.naming fault x)
  | x => .error (.unordered "<=" "int" x.kindName)

def int256OfParts (low high : Operand) : Except Fault Operand := do
  let low ← checkHalf 0 (2 ^ 128 - 1) .lowRange low
  let high ← checkHalf (-2 ^ 127) (2 ^ 127 - 1) .highRange high
  return int256 ⟨low, high⟩

def int256OfNumber : Operand → Except Fault Operand
  | number x =>
    if !x.within Int256.minInt Int256.maxInt then .error (.naming .overflow x)
    else
      match x.whole? with
      | some n => (Int256.ofInt n).map plain
      | none => .error (.noBits (number x).kindName)
  | x => .error (.unordered "<=" "int" x.kindName)

def toByte (x : Operand) : Except Fault UInt8 :=
  match x.whole? with
  | some n => if 0 ≤ n ∧ n < 256 then .ok (UInt8.ofNat n.toNat) else .error .byteRange
  | none => .error .wrongKind

def toByteList : Operand → Except Fault (List UInt8)
  | bytes bs => .ok bs
  | list xs | tuple xs => xs.mapM toByte
  | _ => .error .wrongKind

def int256OfBytes (x : Operand) : Except Fault Operand :=
  match x.length? with
  | none => .error .wrongKind
  | some n =>
    if n ≠ 32 then .error (.byteCount n)
    else do
      let bs ← x.toByteList
      let v ← Int256.ofBytes bs
      return plain v

def limb? : Operand → Option Int
  | number (.int n) => some n
  | _ => none

def recordOf (counted : Bool) (limbs : List Operand) : Except Fault Operand :=
  ((LimbRecord.accept counted (limbs.map limb?)).map record).mapError .badRecord

def recordOfLimbs (supply : Supply) (limbs : Operand) : Draw Operand :=
  supply.read limbs fun is =>
    let (ws, unread) := is.gather
    (ws >>= recordOf true, unread)

def limbsOf (count : Nat) : Items → Except Fault (List Operand)
  | [] => .ok []
  | .error e :: _ => .error (.badRecord [.interrupted (count + 1) e.reason])
  | .ok x :: rest => (limbsOf (count + 1) rest).map (x :: ·)

/-- The record with the limbs in some items. One item too many is enough to see that they are too
many, and what comes after it is left unread. -/
def recordOfItems (is : Items) : Except Fault Operand × Items :=
  (limbsOf 0 (is.take 5) >>= recordOf false, is.drop 5)

def recordOfEntry (supply : Supply) (limbs : Operand) : Draw Operand :=
  match limbs with
  | list _ | tuple _ => recordOfLimbs supply limbs
  | stream _ | record _ => supply.read limbs recordOfItems
  | _ => ⟨.error (.badRecord [.notSequence .value]), none⟩

def recordOfValue (supply : Supply) : Operand → Draw Operand
  | record r => ⟨.ok (record r), none⟩
  | table es =>
    match es.lookup LimbRecord.limbsKey with
    | some limbs => recordOfEntry supply limbs
    | none => ⟨.error (.badRecord [.absentLimbs]), none⟩
  | _ => ⟨.error (.badRecord [.notRecord .value]), none⟩

/-- The record that JSON text holds. Bytes are text if they are valid UTF-8. -/
def recordOfJson : Operand → Except Fault Operand
  | text s => ((LimbRecord.ofJson s.toList).map record).mapError .badRecord
  | bytes bs =>
    match String.fromUTF8? ⟨bs.toArray⟩ with
    | some s => ((LimbRecord.ofJson s.toList).map record).mapError .badRecord
    | none => .error (.badRecord [.malformed])
  | _ => .error (.badRecord [.notText])

end Operand

end Residue256
