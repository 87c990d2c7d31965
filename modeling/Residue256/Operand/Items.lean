import Residue256.Operand.Basic

namespace Residue256

/-- The items of a source in order, each as itself or as the fault that keeps it from being made. -/
abbrev Items := List (Except Fault Operand)

namespace Items

variable {σ α : Type}

/-- Goes through the items with a state, up to the first fault. Gives the last state or the fault,
and the unread items. -/
def fold (step : σ → Operand → Except Fault σ) (s : σ) : Items → Except Fault σ × Items
  | [] => (.ok s, [])
  | .error e :: rest => (.error e, rest)
  | .ok x :: rest =>
    match step s x with
    | .error e => (.error e, rest)
    | .ok s => fold step s rest

def mapEach (f : Operand → Except Fault α) : Items → Except Fault (List α) × Items
  | [] => (.ok [], [])
  | .error e :: rest => (.error e, rest)
  | .ok x :: rest =>
    match f x with
    | .error e => (.error e, rest)
    | .ok y =>
      let (ys, unread) := mapEach f rest
      (ys.map (y :: ·), unread)

def gather (is : Items) : Except Fault (List Operand) × Items := mapEach .ok is

variable {f : Operand → Except Fault α} {xs : List Operand}

theorem fst_mapEach_map_ok : (mapEach f (xs.map .ok)).1 = xs.mapM f := by
  induction xs with
  | nil => rfl
  | cons x xs ih =>
    rw [List.map_cons, mapEach, List.mapM_cons, ← ih]
    cases f x with
    | error e => rfl
    | ok y =>
      cases h : (mapEach f (xs.map .ok)).1 <;>
        simp [h, bind, Except.bind, Except.map, pure, Except.pure]

theorem gather_map_ok : gather (xs.map .ok) = (.ok xs, []) := by
  induction xs with
  | nil => rfl
  | cons x xs ih => simp only [gather, List.map_cons, mapEach] at *; simp [ih, Except.map]

end Items

/-- What came of something that may have read a source. -/
structure Draw (α : Type) where
  result : Except Fault α
  taken : Option (Nat × Nat) := none

abbrev Supply := Nat → Items

namespace Supply

def items (supply : Supply) : Operand → Except Fault Items
  | .stream i => .ok (supply i)
  | x =>
    match x.items? with
    | some xs => .ok (xs.map .ok)
    | none => .error (.noIteration x.kindName)

def taken (supply : Supply) (x : Operand) (unread : Items) : Option (Nat × Nat) :=
  match x with
  | .stream i => some (i, (supply i).length - unread.length)
  | _ => none

def read {α : Type} (supply : Supply) (x : Operand) (f : Items → Except Fault α × Items) : Draw α :=
  match supply.items x with
  | .error e => ⟨.error e, none⟩
  | .ok is =>
    let (r, unread) := f is
    ⟨r, supply.taken x unread⟩

def after (supply : Supply) (taken : Option (Nat × Nat)) : Supply :=
  match taken with
  | some (i, n) => fun j => if j = i then (supply j).drop n else supply j
  | none => supply

theorem read_list {α : Type} {supply : Supply} {f : Items → Except Fault α × Items}
    {xs : List Operand} : supply.read (.list xs) f = ⟨(f (xs.map .ok)).1, none⟩ := rfl

end Supply

end Residue256
