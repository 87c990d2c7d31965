namespace Residue256.Sorting

variable {ε α : Type}

def middle (late : Bool) (n : Nat) : Nat := if late then n / 2 else n - 1 - n / 2

theorem middle_lt {late : Bool} {n : Nat} (h : 0 < n) : middle late n < n := by
  unfold middle
  split <;> omega

def halve (late : Bool) (test : α → Except ε Bool) (xs : List α) : Except ε Nat :=
  if h : 0 < xs.length then
    have hm : middle late xs.length < xs.length := middle_lt h
    do
      if ← test xs[middle late xs.length] then
        let n ← halve late test (xs.drop (middle late xs.length + 1))
        return middle late xs.length + 1 + n
      else halve late test (xs.take (middle late xs.length))
  else .ok 0
termination_by xs.length
decreasing_by
  all_goals
    simp only [List.length_take, List.length_drop]
    omega

def gallopOn (late : Bool) (test : α → Except ε Bool) (step : Nat) (xs : List α) : Except ε Nat :=
  if h : step < xs.length then do
    if ← test xs[step] then
      let n ← gallopOn late test (2 * step + 1) (xs.drop (step + 1))
      return step + 1 + n
    else halve late test (xs.take step)
  else halve late test xs
termination_by xs.length
decreasing_by
  simp only [List.length_drop]
  omega

/-- How many items at the front pass a test, found by galloping. -/
def gallop (late : Bool) (test : α → Except ε Bool) : List α → Except ε Nat
  | [] => .ok 0
  | x :: xs => do
    if ← test x then
      let n ← gallopOn late test 0 xs
      return n + 1
    else return 0

end Residue256.Sorting
