import Residue256.Json.Reader
import Residue256.LimbRecord.Basic

namespace Residue256.LimbRecord

def limbsKey : String := "limbs"

def digits (n : Nat) : List Char := Nat.toDigits 10 n

def toJson (r : LimbRecord) : List Char :=
  "\x7b\"limbs\":[".toList ++ [','].intercalate (r.limbs.map digits) ++ "]\x7d".toList

def limbOfJson? : Json → Option Int
  | .int n => some n
  | _ => none

def ofJsonValue : Json → Except (List Complaint) LimbRecord
  | .object members =>
    match Json.lastMember? limbsKey members with
    | none => .error [.absentLimbs]
    | some (.array items) => accept true (items.map limbOfJson?)
    | some _ => .error [.notSequence .json]
  | _ => .error [.notRecord .json]

/-- Reads a record. The text as a whole has to be JSON before anything else is looked at. -/
def ofJson (cs : List Char) : Except (List Complaint) LimbRecord :=
  match Json.read? cs with
  | none => .error [.malformed]
  | some v => ofJsonValue v

end Residue256.LimbRecord
