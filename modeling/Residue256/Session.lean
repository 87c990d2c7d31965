import Residue256.Form.Eval
import Residue256.Operation

namespace Residue256

/-- What calls are carried out in: their results so far, and a current value, the last result that
was a scalar, a 256-bit integer or a limb record. -/
structure Session extends Scope where
  settings : Settings := {}
  memory : Memory := {}

structure Call where
  operation : Operation
  args : List Form

/-- Carries out a call. Gives its answer and the memory after it. A fault in what it is called with
is its answer. -/
def Call.run (s : Session) (c : Call) : Answer × Memory :=
  match (s.evalAll c.args).run s.memory with
  | (.error e, m) => (.value (.error e), m)
  | (.ok xs, m) =>
    let o := c.operation.apply s.settings (s.supply m) xs
    (o.answer, s.toScope.after m o.taken)

def Answer.result : Answer → Operand
  | value (.ok x) => x
  | _ => .nothing

def Operand.isCurrent : Operand → Bool
  | scalar _ | int256 _ | record _ => true
  | _ => false

def Session.after (s : Session) (a : Answer) (m : Memory) : Session :=
  let x := a.result
  { s with
    results := s.results ++ [x]
    current := if x.isCurrent then x else s.current
    memory := m }

def Session.run (s : Session) : List Call → List Answer × Session
  | [] => ([], s)
  | c :: cs =>
    let (a, m) := c.run s
    let (answers, last) := (s.after a m).run cs
    (a :: answers, last)

def Session.start (settings : Settings) (first : Form) : Except Fault Session :=
  match (Form.eval {} (Scope.drain {}) first).run {} with
  | (.ok x, m) => .ok { settings, current := x, memory := m }
  | (.error e, _) => .error e

end Residue256
