import Residue256.Digits
import Residue256.Int256.Arithmetic

namespace Residue256

/-- A 256-bit integer as the words of its bit pattern. -/
structure LimbRecord where
  limbs : List Nat
deriving DecidableEq, Repr

namespace LimbRecord

structure Valid (r : LimbRecord) : Prop where
  length_eq : r.limbs.length = 4
  lt : ∀ w ∈ r.limbs, w < 2 ^ 64

instance (r : LimbRecord) : Decidable r.Valid :=
  decidable_of_iff (r.limbs.length = 4 ∧ ∀ w ∈ r.limbs, w < 2 ^ 64)
    ⟨fun h => ⟨h.1, h.2⟩, fun h => ⟨h.length_eq, h.lt⟩⟩

def complaintAt (ws : List (Option Int)) (i : Nat) : Option Complaint :=
  match ws[i]? with
  | none => some (.absentLimb i)
  | some none => some (.notInteger i)
  | some (some _) => none

def isWord (w : Int) : Bool := 0 ≤ w && w < 2 ^ 64

def rangeComplaint (i : Nat) : List Int → Option Complaint
  | [] => none
  | w :: ws => if isWord w then rangeComplaint (i + 1) ws else some (.ofLimb i w)

/-- Makes a record of the given limbs, of which those that are no integers are left out. The report
of too many limbs gives their number only if it is said to be known. -/
def accept (counted : Bool) (ws : List (Option Int)) : Except (List Complaint) LimbRecord :=
  if 4 < ws.length then .error [.tooMany (if counted then some ws.length else none)]
  else
    match (List.range 4).filterMap (complaintAt ws) with
    | [] =>
      let ns := ws.filterMap id
      match rangeComplaint 0 ns with
      | none => .ok ⟨ns.map Int.toNat⟩
      | some c => .error [c]
    | cs => .error cs

def ofLimbs (ws : List Int) : Except Fault LimbRecord :=
  (accept true (ws.map some)).mapError .badRecord

def toInt (r : LimbRecord) : Int := Int256.ofPattern (Digits.join (2 ^ 64) (r.limbs.take 4))

def ofInt256 (v : Int256) : Except Fault LimbRecord :=
  let high := v.high % 2 ^ 128
  ofLimbs [v.low % 2 ^ 64, v.low / 2 ^ 64, high % 2 ^ 64, high / 2 ^ 64]

end LimbRecord

end Residue256
