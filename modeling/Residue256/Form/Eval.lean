import Residue256.Form.Basic
import Residue256.Operand.Construct
import Residue256.Registry

namespace Residue256

structure Scope where
  results : List Operand := []
  current : Operand := .nothing

/-- What is kept from one evaluation to the next. -/
structure Memory where
  streams : List (List Form) := []
  families : List (String × Family) := []

namespace Memory

def pending (m : Memory) (i : Nat) : List Form := m.streams.getD i []

def setPending (m : Memory) (i : Nat) (xs : List Form) : Memory :=
  { m with streams := m.streams.set i xs }

end Memory

abbrev Eval := ExceptT Fault (StateM Memory)

abbrev Drain := Nat → Eval (List Operand)

def newStream (xs : List Form) : Eval Operand := do
  let m ← get
  set { m with streams := m.streams ++ [xs] }
  return .stream m.streams.length

def putEntry (name : String) (x : Operand) : List (String × Operand) → List (String × Operand)
  | [] => [(name, x)]
  | (k, y) :: es => if k = name then (k, x) :: es else (k, y) :: putEntry name x es

def drainRecord (drain : Drain) (limbs : Operand) : Eval Operand := do
  match limbs with
  | .stream i =>
    let ws ← drain i
    Operand.recordOf true ws
  | x =>
    match x.items? with
    | some ws => Operand.recordOf true ws
    | none => throw (.noIteration x.kindName)

def Family.ofName (name : String) : Except Fault Family :=
  if name = Family.scalar.name then .ok .scalar else (Field.ofName name).map .field

def declareOnce (tag : String) (declare : Eval Family) : Eval Family := do
  match (← get).families.lookup tag with
  | some F => return F
  | none =>
    let F ← declare
    modify fun m => { m with families := (tag, F) :: m.families }
    return F

/-- The number that a form writes. An integer with too many digits cannot be read. -/
def readNumber (x : Number) : Except Fault Operand :=
  match x with
  | .int n => if x.isWritable then .ok (.int n) else .error (.tooManyDigits (Number.digitCount n))
  | x => .ok (.number x)

mutual

def Form.eval (s : Scope) (drain : Drain) : Form → Eval Operand
  | .nothing => return .nothing
  | .number x => readNumber x
  | .text t => return .text t
  | .bytes bs => return .bytes bs
  | .list xs => do
    let ys ← Form.evalAll s drain xs
    return .list ys
  | .stream xs => newStream xs
  | .table es => do
    let es ← Form.evalEntries s drain [] es
    return .table es
  | .family F => do
    let F ← FamilyForm.eval s drain F
    return .family F
  | .scalar F value => do
    let F ← FamilyForm.eval s drain F
    let x ← Form.eval s drain value
    Operand.makeScalar (.family F) x
  | .int256 n => do
    let n ← Form.eval s drain n
    n.int256OfNumber
  | .parts low high => do
    let low ← Form.eval s drain low
    let high ← Form.eval s drain high
    low.int256OfParts high
  -- Nobody else asks this stream, so its items can be made at once.
  | .record (.stream ws) => do
    let ws ← Form.evalAll s drain ws
    Operand.recordOf true ws
  | .record limbs => do
    let limbs ← Form.eval s drain limbs
    drainRecord drain limbs
  | .result call => return s.results.getD call .nothing
  | .current => return s.current

def Form.evalAll (s : Scope) (drain : Drain) : List Form → Eval (List Operand)
  | [] => return []
  | x :: xs => do
    let y ← Form.eval s drain x
    let ys ← Form.evalAll s drain xs
    return y :: ys

def Form.evalEntries (s : Scope) (drain : Drain) (seen : List (String × Operand)) :
    List (String × Form) → Eval (List (String × Operand))
  | [] => return seen
  | (k, x) :: es => do
    let y ← Form.eval s drain x
    Form.evalEntries s drain (putEntry k y seen) es

def FamilyForm.eval (s : Scope) (drain : Drain) : FamilyForm → Eval Family
  | .named name => Family.ofName name
  | .declared tag name base modulus => declareOnce tag do
    let base ← match base with
      | some base => FamilyForm.eval s drain base
      | none => pure .scalar
    let modulus ← match modulus with
      | some p => do
        let p ← Form.eval s drain p
        pure (some p)
      | none => pure none
    base.declare tag name modulus

end

/-- What a stream gives from now on: each item, or the fault that keeps it from being made, with the
memory after that. -/
def outlook (make : Form → Eval Operand) (i : Nat) (m : Memory) :
    List Form → List (Except Fault Operand × Memory)
  | [] => []
  | x :: xs =>
    match (make x).run (m.setPending i []) with
    | (.ok y, m) =>
      let m := m.setPending i xs
      (.ok y, m) :: outlook make i m xs
    | (.error e, m) => [(.error e, m)]

namespace Scope

variable (s : Scope)

def busy : Drain := fun _ => throw .streamBusy

def drain : Drain := fun i => do
  -- Items can name one stream alone, the current value, so while that one makes its items there is
  -- no other that they could take any from.
  let m ← get
  let given := outlook (Form.eval s busy) i m (m.pending i)
  set ((given.getLast?.map Prod.snd).getD m)
  (Items.gather (given.map Prod.fst)).1

def outlook (i : Nat) (m : Memory) : List (Except Fault Operand × Memory) :=
  Residue256.outlook (Form.eval s fun j => if j = i then busy j else s.drain j) i m (m.pending i)

def supply (m : Memory) : Supply := fun i => (s.outlook i m).map Prod.fst

def after (m : Memory) (taken : Option (Nat × Nat)) : Memory :=
  match taken with
  | some (i, n) => (((s.outlook i m).take n).getLast?.map Prod.snd).getD m
  | none => m

def evalAll (xs : List Form) : Eval (List Operand) := Form.evalAll s s.drain xs

end Scope

end Residue256
