import Residue256.Comparison
import Residue256.Power

namespace Residue256

/-- A 256-bit signed integer, as its two halves. -/
structure Int256 where
  low : Nat
  high : Int
deriving DecidableEq, Repr

namespace Int256

def minInt : Int := -2 ^ 255

def maxInt : Int := 2 ^ 255 - 1

structure Valid (v : Int256) : Prop where
  low_lt : v.low < 2 ^ 128
  le_high : -2 ^ 127 ≤ v.high
  high_lt : v.high < 2 ^ 127

instance (v : Int256) : Decidable v.Valid :=
  decidable_of_iff (v.low < 2 ^ 128 ∧ -2 ^ 127 ≤ v.high ∧ v.high < 2 ^ 127)
    ⟨fun h => ⟨h.1, h.2.1, h.2.2⟩, fun h => ⟨h.low_lt, h.le_high, h.high_lt⟩⟩

def toInt (v : Int256) : Int := v.high * 2 ^ 128 + v.low

def isNegative (v : Int256) : Bool := v.high < 0

def zero : Int256 := ⟨0, 0⟩

def less (v w : Int256) : Bool := v.high < w.high || (v.high == w.high && v.low < w.low)

def compare (c : Comparison) (v w : Int256) : Bool := c.derive (v.less w) (v == w)

variable {v w : Int256}

theorem Valid.minInt_le (h : v.Valid) : minInt ≤ v.toInt := by
  have := h.le_high
  simp only [minInt, toInt]
  omega

theorem Valid.le_maxInt (h : v.Valid) : v.toInt ≤ maxInt := by
  have := h.low_lt
  have := h.high_lt
  simp only [maxInt, toInt]
  omega

theorem isNegative_iff (h : v.Valid) : v.isNegative = true ↔ v.toInt < 0 := by
  have := h.low_lt
  simp only [isNegative, toInt, decide_eq_true_eq]
  omega

theorem toInt_inj (hv : v.Valid) (hw : w.Valid) : v.toInt = w.toInt ↔ v = w := by
  refine ⟨fun h => ?_, fun h => h ▸ rfl⟩
  obtain ⟨l, s⟩ := v
  obtain ⟨m, t⟩ := w
  have := hv.low_lt
  have := hw.low_lt
  simp only [toInt] at *
  -- The low halves are the remainders by `2 ^ 128`, so neither half can make up for the other.
  have hs : s = t := by omega
  have hl : l = m := by omega
  rw [hs, hl]

/-- The order of the halves is the order of the integers. -/
theorem less_iff (hv : v.Valid) (hw : w.Valid) : v.less w = true ↔ v.toInt < w.toInt := by
  have := hv.low_lt
  have := hw.low_lt
  simp only [less, toInt, Bool.or_eq_true, Bool.and_eq_true, decide_eq_true_eq, beq_iff_eq]
  omega

end Int256

end Residue256
