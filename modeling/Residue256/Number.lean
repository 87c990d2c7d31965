import Residue256.Binary64

namespace Residue256

inductive Number where
  | int (n : Int)
  | truth (b : Bool)
  | real (x : Binary64)
deriving DecidableEq, Repr

namespace Number

/-- The integer that a whole number stands for. A double is none, whatever its value. -/
def whole? : Number → Option Int
  | int n => some n
  | truth b => some b.toInt
  | real _ => none

def compareInt? (x : Number) (n : Int) : Option Ordering :=
  match x with
  | int m => some (compare m n)
  | truth b => some (compare b.toInt n)
  | real x => x.compareInt? n

def compare? : Number → Number → Option Ordering
  | real x, real y => x.compare? y
  | real x, int n => x.compareInt? n
  | real x, truth b => x.compareInt? b.toInt
  | int n, y => (y.compareInt? n).map Ordering.swap
  | truth b, y => (y.compareInt? b.toInt).map Ordering.swap

def within (low high : Int) (x : Number) : Bool :=
  (x.compareInt? low).any Ordering.isGE && (x.compareInt? high).any Ordering.isLE

def toText : Number → String
  | int n => toString n
  | truth b => if b then "True" else "False"
  | real x => x.toText

/-- The most digits that an integer may have to be written out, or to be read. -/
def maxDigits : Nat := 4300

def digitCount (n : Int) : Nat := (Nat.toDigits 10 n.natAbs).length

def isWritable : Number → Bool
  | int n => digitCount n ≤ maxDigits
  | truth _ | real _ => true

variable {low high m n : Int}

@[simp] theorem whole?_int : (int n).whole? = some n := rfl

@[simp] theorem compare?_int : (int m).compare? (int n) = some (compare m n) := by
  simp only [compare?, compareInt?, Option.map_some, Int.compare_swap]

@[simp] theorem within_int : (int n).within low high = true ↔ low ≤ n ∧ n ≤ high := by
  simp only [within, compareInt?, Option.any_some, Bool.and_eq_true, Int.isGE_compare,
    Int.isLE_compare]

theorem isWritable_int : (int n).isWritable = true ↔ n.natAbs < 10 ^ maxDigits := by
  rw [isWritable, decide_eq_true_eq, digitCount,
    Nat.length_toDigits_le_iff (by decide) (by decide)]

theorem le_natAbs_ten_pow (k : Nat) : 10 ^ k ≤ ((10 : Int) ^ k).natAbs := by
  rw [Int.natAbs_pow]
  exact Nat.le_refl _

theorem natAbs_lt_of_le (h : n.natAbs ≤ 2 ^ 256) : n.natAbs < 10 ^ maxDigits :=
  calc
    n.natAbs ≤ 2 ^ 256 := h
    _ < 10 ^ 78 := by decide
    _ ≤ 10 ^ maxDigits := Nat.pow_le_pow_right (by decide) (by decide)

theorem lt_natAbs_of_le (h : 10 ^ maxDigits ≤ n.natAbs) : 2 ^ 256 < n.natAbs :=
  Nat.not_le.mp fun hn => absurd (natAbs_lt_of_le hn) (Nat.not_lt.mpr h)

end Number

end Residue256
