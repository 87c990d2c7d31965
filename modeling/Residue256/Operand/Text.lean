import Residue256.Operand.Basic
import Residue256.Text.Quoted

namespace Residue256.Operand

def roundBrackets (items : List String) : String :=
  match items with
  | [s] => "(" ++ s ++ ",)"
  | ss => "(" ++ ", ".intercalate ss ++ ")"

def limbsText (r : LimbRecord) : String :=
  "limbs=" ++ roundBrackets (r.limbs.map fun n => toString n)

def written (x : Number) : Except Fault String :=
  if x.isWritable then .ok x.toText else .error (.tooManyDigits none)

mutual

/-- The text of an operand, if all numbers in it can be written. -/
def render : Operand → Except Fault String
  | nothing => .ok "None"
  | number x => written x
  | text s => .ok (Text.quote s)
  | bytes bs => .ok (Text.quoteBytes bs)
  | list xs => (renderAll xs).map fun ss => "[" ++ ", ".intercalate ss ++ "]"
  | tuple xs => (renderAll xs).map roundBrackets
  | table es => (renderEntries es).map fun ss => "\x7b" ++ ", ".intercalate ss ++ "\x7d"
  | stream _ => .ok "<stream>"
  | family F => .ok F.name
  | scalar x => .ok s!"{x.field.name}({x.value})"
  | int256 h => do
    let low ← written h.low
    let high ← written h.high
    return s!"Int256(low={low}, high={high})"
  | record r => .ok ("I256(" ++ limbsText r ++ ")")

def renderAll : List Operand → Except Fault (List String)
  | [] => .ok []
  | x :: xs => do
    let s ← render x
    let ss ← renderAll xs
    return s :: ss

def renderEntries : List (String × Operand) → Except Fault (List String)
  | [] => .ok []
  | (k, x) :: es => do
    let s ← render x
    let ss ← renderEntries es
    return (Text.quote k ++ ": " ++ s) :: ss

end

end Residue256.Operand
