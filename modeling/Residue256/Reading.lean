import Residue256.Registry
import Residue256.Target

namespace Residue256

inductive LogLine where
  | converted (rows : Nat) (name : String)
  | outOfRange (row : Nat) (name : String)
deriving DecidableEq, Repr

def LogLine.toText : LogLine → String
  | converted rows name => s!"DEBUG: converted {rows} i256 rows to {name}"
  | outOfRange row name => s!"DEBUG: row {row} out of range for {name}"

structure Reading where
  result : Except Fault (List Scalar)
  log : List LogLine
  unread : Items

namespace Reading

def stopped (e : Fault) (unread : Items) : Reading := ⟨.error e, [], unread⟩

/-- A reading that was stopped by a row outside the window. The line is logged before the value is
looked at. -/
def outside (t : Target) (h : Int256.Halves) (row : Nat) (unread : Items) : Reading :=
  match t.name with
  | .error e => stopped e unread
  | .ok name => ⟨.error (t.outside h (some row)), [.outOfRange row name], unread⟩

def complete (t : Target) (scalars : List Scalar) : Reading :=
  match t.name with
  | .error e => stopped e []
  | .ok name => ⟨.ok scalars, [.converted scalars.length name], []⟩

/-- Reads on after some rows, the scalars of which are given with the last one first. The first row
that does not become a scalar stops the reading, and what comes after it is left unread. -/
def readOn (t : Target) (seen : List Scalar) : Items → Reading
  | [] => complete t seen.reverse
  | .error e :: rest => stopped e rest
  | .ok x :: rest =>
    match t.convert? x, x with
    | .error e, _ => stopped e rest
    | .ok (some y), _ => readOn t (y :: seen) rest
    | .ok none, .int256 h => outside t h seen.length rest
    | .ok none, _ => stopped .wrongKind rest

def ofRows (t : Target) (rows : Items) : Reading := readOn t [] rows

/-- Reads the column that an operand gives. Where no target is named, the default field is looked up
before anything is read. -/
def ofOperand (settings : Settings) (supply : Supply) (column target : Operand) : Reading :=
  let rows := supply.items column
  let t := match target with
    | .nothing => (Field.ofName settings.defaultField).map Target.ofField
    | x => .ok (Target.ofOperand x)
  match t, rows with
  | .error e, rows => stopped e (rows.toOption.getD [])
  | .ok _, .error e => stopped e []
  | .ok t, .ok rows => ofRows t rows

end Reading

end Residue256
