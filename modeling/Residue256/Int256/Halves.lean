import Residue256.Int256.Basic
import Residue256.Number

namespace Residue256.Int256

/-- The two halves of a 256-bit integer, as they were given. A truth value counts as an integer,
while with a double among them they stand for none. -/
structure Halves where
  low : Number
  high : Number
deriving DecidableEq, Repr

def toHalves (v : Int256) : Halves := ⟨.int v.low, .int v.high⟩

namespace Halves

def value? (h : Halves) : Option Int256 := do
  let low ← h.low.whole?
  let high ← h.high.whole?
  return ⟨low.toNat, high⟩

def isNegative (h : Halves) : Bool := h.high.compareInt? 0 == some .lt

def equal (h k : Halves) : Bool :=
  h.low.compare? k.low == some .eq && h.high.compare? k.high == some .eq

def less (h k : Halves) : Bool :=
  h.high.compare? k.high == some .lt ||
    (h.high.compare? k.high == some .eq && h.low.compare? k.low == some .lt)

def compare (c : Comparison) (h k : Halves) : Bool := c.derive (h.less k) (h.equal k)

variable {v w : Int256}

@[simp] theorem value?_toHalves : v.toHalves.value? = some v := rfl

@[simp] theorem isNegative_toHalves : v.toHalves.isNegative = v.isNegative := by
  rw [Bool.eq_iff_iff]
  simp [isNegative, toHalves, Number.compareInt?, Int256.isNegative, Int.compare_eq_lt]

@[simp] theorem equal_toHalves : v.toHalves.equal w.toHalves = (v == w) := by
  obtain ⟨l, s⟩ := v
  obtain ⟨m, t⟩ := w
  rw [Bool.eq_iff_iff]
  simp only [equal, toHalves, Number.compare?_int, Bool.and_eq_true, beq_iff_eq, Option.some.injEq,
    Int.compare_eq_eq, Int256.mk.injEq, Int.natCast_inj]

@[simp] theorem less_toHalves : v.toHalves.less w.toHalves = v.less w := by
  rw [Bool.eq_iff_iff]
  simp [less, toHalves, Int256.less, Int.compare_eq_lt]

@[simp] theorem compare_toHalves {c : Comparison} :
    v.toHalves.compare c w.toHalves = v.compare c w := by
  simp [compare, Int256.compare]

end Halves

end Residue256.Int256
