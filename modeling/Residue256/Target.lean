import Residue256.Operand.Set
import Residue256.Window

namespace Residue256

/-- What a conversion is asked to produce. Anything may be named as a target, and what it lacks
shows when it is asked for. -/
structure Target where
  field : Except Fault Field
  name : Except Fault String

namespace Target

def ofField (F : Field) : Target := ⟨.ok F, .ok F.name⟩

def ofOperand : Operand → Target
  | .family (.field F) => ofField F
  | .family (.unset _ name) => ⟨.error .lacking, .ok name⟩
  | .scalar x => ⟨.ok x.field, .error .lacking⟩
  | x =>
    match x.key with
    | .ok _ => ⟨.error .lacking, .error .lacking⟩
    | .error e => ⟨.error e, .error .lacking⟩

/-- The scalar that an operand is converted into, or nothing outside the window. Halves that stand
for no integer lie inside or outside of it as well, but become no scalar. -/
def convert? (t : Target) (x : Operand) : Except Fault (Option Scalar) := do
  let F ← t.field
  match x with
  | .int256 h =>
    match h.value? with
    | some v => v.toScalar? F
    | none =>
      let (least, greatest) ← F.window
      if h.compare .lt least.toHalves || h.compare .gt greatest.toHalves then return none
      else .error .wrongKind
  | _ => .error .wrongKind

/-- The fault for halves outside the window, in a row of a column if there is one. To word it, the
integer of the halves and the name of the target are needed. -/
def outside (t : Target) (h : Int256.Halves) (row : Option Nat) : Fault :=
  match t.field, h.value, t.name with
  | .error e, _, _ | .ok _, .error e, _ | .ok _, .ok _, .error e => e
  | .ok F, .ok _, .ok _ => .outsideWindow h F row

def convert (t : Target) (x : Operand) : Except Fault Scalar := do
  match ← t.convert? x, x with
  | some y, _ => return y
  | none, .int256 h => .error (t.outside h none)
  | none, _ => .error .wrongKind

end Target

end Residue256
