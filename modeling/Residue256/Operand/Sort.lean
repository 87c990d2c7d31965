import Residue256.Operand.Compare
import Residue256.Operand.Items
import Residue256.Sorting.Runs

namespace Residue256.Operand

def less (a b : Operand) : Except Fault Bool := compare .lt a b

/-- The list in order. Items that are equal stay as they were. -/
def sort (xs : List Operand) : Except Fault (List Operand) := Sorting.sort less xs

/-- The better of an item and the best so far, which stays unless it is beaten. -/
def better (beats : Operand → Operand → Except Fault Bool) (best : Option Operand) (x : Operand) :
    Except Fault (Option Operand) :=
  match best with
  | none => .ok (some x)
  | some y => do return if ← beats x y then some x else some y

def extreme (name : String) (beats : Operand → Operand → Except Fault Bool) (is : Items) :
    Except Fault Operand × Items :=
  let (best, unread) := is.fold (better beats) none
  (best >>= fun best => match best with
    | some x => .ok x
    | none => .error (.noItems name), unread)

def least (is : Items) : Except Fault Operand × Items := extreme "min" (compare .lt) is

def greatest (is : Items) : Except Fault Operand × Items := extreme "max" (compare .gt) is

end Residue256.Operand
