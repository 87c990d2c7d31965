import Residue256.Sorting.Search

namespace Residue256.Sorting

variable {ε α : Type}

def longStretch : Nat := 7

/-- How a merge goes on. -/
inductive Pace where
  | walk (base filler : Nat)
  | leap
  | follow (stretch : Nat)
  | landed (stretch : Nat)

def Pace.next (patience : Nat) : Pace → Nat × Pace
  | landed stretch =>
    if longStretch ≤ stretch then (max 1 (patience - 1), leap) else (patience + 1, walk 0 0)
  | pace => (patience, pace)

def Pace.ofBase (patience base : Nat) : Pace :=
  if base + 1 < patience then walk (base + 1) 0 else leap

def Pace.ofFiller (patience filler : Nat) : Pace :=
  if filler + 1 < patience then walk 0 (filler + 1) else leap

def Pace.afterStretch (before : Option Nat) (stretch : Nat) : Pace :=
  match before with
  | none => follow stretch
  | some n => landed (max n stretch)

structure Merger (ε α : Type) where
  ahead : α → α → Except ε Bool
  baseFirst : Bool

/-- Merges the filler into the base, until the filler is used up or one item of the base is left,
which is the last of all. Gives the merged run and the patience in the end. -/
def Merger.run (m : Merger ε α) (patience : Nat) (pace : Pace) (base filler : List α) :
    Except ε (List α × Nat) :=
  match base, filler with
  | p :: p' :: ps, q :: qs =>
    let (patience, pace) := pace.next patience
    match pace with
    | .walk i j => do
      if ← m.ahead q p then
        let (zs, patience) ← m.run patience (.ofFiller patience j) (p :: p' :: ps) qs
        return (q :: zs, patience)
      else
        let (zs, patience) ← m.run patience (.ofBase patience i) (p' :: ps) (q :: qs)
        return (p :: zs, patience)
    | pace => do
      let before := match pace with
        | .follow n => some n
        | _ => none
      if m.baseFirst = before.isNone then
        -- What of the base goes before the next item of the filler, and that item.
        let n ← gallop m.baseFirst (fun p => (m.ahead q p).map not) (p :: p' :: ps)
        if ((p :: p' :: ps).drop n).length ≤ 1 then
          return ((p :: p' :: ps).take n ++ q :: qs ++ (p :: p' :: ps).drop n, patience)
        let (zs, patience) ←
          m.run patience (.afterStretch before n) ((p :: p' :: ps).drop n) qs
        return ((p :: p' :: ps).take n ++ q :: zs, patience)
      else
        -- What of the filler goes before the next item of the base, and that item.
        let n ← gallop m.baseFirst (fun q => m.ahead q p) (q :: qs)
        if ((q :: qs).drop n).isEmpty then
          return ((q :: qs).take n ++ p :: p' :: ps, patience)
        let (zs, patience) ← m.run patience (.afterStretch before n) (p' :: ps) ((q :: qs).drop n)
        return ((q :: qs).take n ++ p :: zs, patience)
  | base, filler => .ok (filler ++ base, patience)
termination_by base.length + filler.length
decreasing_by
  all_goals
    simp only [List.length_drop, List.length_cons]
    omega

/-- Merges two runs of which the first item of the second is known to come first, and the last item
of the first to come last. -/
def mergeInner (less : α → α → Except ε Bool) (patience : Nat) (xs ys : List α) :
    Except ε (List α × Nat) :=
  if xs.length ≤ ys.length then
    match ys with
    | [] => .ok (xs, patience)
    | y :: ys => do
      let (zs, patience) ← Merger.run ⟨less, true⟩ patience (.walk 0 0) xs ys
      return (y :: zs, patience)
  else
    match xs.reverse with
    | [] => .ok (ys, patience)
    | x :: xs => do
      let (zs, patience) ←
        Merger.run ⟨fun x y => less y x, false⟩ patience (.walk 0 0) ys.reverse xs
      return ((x :: zs).reverse, patience)

def merge (less : α → α → Except ε Bool) (patience : Nat) (xs ys : List α) :
    Except ε (List α × Nat) :=
  match ys with
  | [] => .ok (xs, patience)
  | y :: _ => do
    let n ← gallop true (fun x => (less y x).map not) xs
    match (xs.drop n).getLast? with
    | none => return (xs ++ ys, patience)
    | some x =>
      let k ← gallop false (fun y => (less y x).map not) ys.reverse
      let inner := ys.length - k
      if inner = 0 then return (xs ++ ys, patience)
      let (zs, patience) ← mergeInner less patience (xs.drop n) (ys.take inner)
      return (xs.take n ++ zs ++ ys.drop inner, patience)

end Residue256.Sorting
