import Residue256.Power
import Residue256.Sorting.Merge

namespace Residue256.Sorting

variable {ε α : Type}

def rising (less : α → α → Except ε Bool) (last : α) : List α → Except ε Nat
  | [] => .ok 0
  | x :: xs => do
    if ← less x last then return 0
    let n ← rising less x xs
    return n + 1

def falling (less : α → α → Except ε Bool) (last : α) : List α → Except ε Nat
  | [] => .ok 0
  | x :: xs => do
    if ← less x last then
      let n ← falling less x xs
      return n + 1
    else return 0

def leadingRun (less : α → α → Except ε Bool) (x : α) : List α → Except ε (List α × Nat)
  | [] => .ok ([x], 0)
  | y :: ys => do
    if ← less y x then
      let n ← falling less y ys
      return ((x :: y :: ys.take n).reverse, n + 1)
    else
      let n ← rising less y ys
      return (x :: y :: ys.take n, n + 1)

def place (less : α → α → Except ε Bool) (xs : List α) (x : α) : Except ε (List α) := do
  let n ← halve true (fun y => (less x y).map not) xs
  return xs.take n ++ x :: xs.drop n

def runs (less : α → α → Except ε Bool) (least : Nat) : List α → Except ε (List (List α))
  | [] => .ok []
  | x :: xs => do
    let (run, n) ← leadingRun less x xs
    let size := max n (least - 1)
    let run ← ((xs.take size).drop n).foldlM (place less) run
    let rest ← runs less least (xs.drop size)
    return run :: rest
termination_by xs => xs.length
decreasing_by
  simp only [List.length_drop, List.length_cons]
  omega

/-- The length that runs of a list of `n` items are filled up to: `n` halved to less than 64,
rounded up. -/
def leastRun (n : Nat) : Nat :=
  if n < 64 then n else (n + 2 ^ (n.log2 - 5) - 1) / 2 ^ (n.log2 - 5)

/-- How deep a balanced tree over `n` items branches between the middles of two adjacent runs, the
first of which starts at `start`. -/
def depth (n start first second : Nat) : Nat :=
  let a := 2 * start + first
  let b := a + first + second
  ((List.range (n.log2 + 2)).find? fun k => a * 2 ^ k / n ≠ b * 2 ^ k / n).getD 0

def settle (less : α → α → Except ε Bool) (d patience : Nat) (last : List α) :
    List (List α × Nat) → Except ε ((List α × List (List α × Nat)) × Nat)
  | [] => .ok ((last, []), patience)
  | (run, e) :: before =>
    if d < e then do
      let (last, patience) ← merge less patience run last
      settle less d patience last before
    else .ok ((last, (run, e) :: before), patience)

/-- Merges runs from the end until one is left. Of the two runs beside the last but one the shorter
is merged with it. -/
def collapse (less : α → α → Except ε Bool) (patience : Nat) :
    List α → List (List α) → Except ε (List α)
  | last, [] => .ok last
  | last, [run] => do
    let (zs, _) ← merge less patience run last
    return zs
  | last, run :: run' :: before =>
    if run'.length < last.length then do
      let (run, patience) ← merge less patience run' run
      collapse less patience last (run :: before)
    else do
      let (last, patience) ← merge less patience run last
      collapse less patience last (run' :: before)
termination_by _ before => before.length

def mergeRuns (less : α → α → Except ε Bool) (n patience start : Nat) (last : List α)
    (before : List (List α × Nat)) : List (List α) → Except ε (List α)
  | [] => collapse less patience last (before.map Prod.fst)
  | run :: runs => do
    let d := depth n start last.length run.length
    let size := start + last.length
    let ((last, before), patience) ← settle less d patience last before
    mergeRuns less n patience size run ((last, d) :: before) runs

def sort (less : α → α → Except ε Bool) (xs : List α) : Except ε (List α) := do
  match ← runs less (leastRun xs.length) xs with
  | [] => return []
  | run :: rest => mergeRuns less xs.length longStretch 0 run [] rest

end Residue256.Sorting
