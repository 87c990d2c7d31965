import Residue256.Fault
import Residue256.Field
import Residue256.LimbRecord.Basic
import Residue256.Scalar.Basic

namespace Residue256

/-- Anything that may be handed to an operation, or come out of one. -/
inductive Operand where
  | nothing
  | number (x : Number)
  | text (s : String)
  | bytes (bs : List UInt8)
  | list (xs : List Operand)
  | tuple (xs : List Operand)
  | table (entries : List (String × Operand))
  | stream (id : Nat)
  | family (F : Family)
  | scalar (x : Scalar)
  | int256 (h : Int256.Halves)
  | record (r : LimbRecord)

namespace Operand

abbrev int (n : Int) : Operand := number (.int n)

abbrev truth (b : Bool) : Operand := number (.truth b)

abbrev plain (v : Int256) : Operand := int256 v.toHalves

def nats (ns : List Nat) : List Operand := ns.map fun (n : Nat) => int n

def kindName : Operand → String
  | nothing => "NoneType"
  | number (.int _) => "int"
  | number (.truth _) => "bool"
  | number (.real _) => "float"
  | text _ => "str"
  | bytes _ => "bytes"
  | list _ => "list"
  | tuple _ => "tuple"
  | table _ => "dict"
  | stream _ => "generator"
  | family _ => "type"
  | scalar x => x.field.name
  | int256 _ => "Int256"
  | record _ => "I256"

def whole? : Operand → Option Int
  | number x => x.whole?
  | _ => none

def recordEntries (r : LimbRecord) : List Operand := [tuple [text "limbs", tuple (nats r.limbs)]]

/-- The items of an operand, if it holds any. Those of a stream are not there yet. -/
def items? : Operand → Option (List Operand)
  | list xs | tuple xs => some xs
  | text s => some (s.toList.map fun c => text (String.singleton c))
  | bytes bs => some (bs.map fun b => int b.toNat)
  | table es => some (es.map fun e => text e.1)
  | record r => some (recordEntries r)
  | _ => none

def length? : Operand → Option Nat
  | text s => some s.length
  | bytes bs => some bs.length
  | list xs | tuple xs => some xs.length
  | table es => some es.length
  | _ => none

end Operand

end Residue256
