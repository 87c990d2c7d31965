import Residue256.Fault

namespace Residue256.Int256

def ofParts (low high : Int) : Except Fault Int256 :=
  if ¬(0 ≤ low ∧ low < 2 ^ 128) then .error (.naming .lowRange (.int low))
  else if ¬(-2 ^ 127 ≤ high ∧ high < 2 ^ 127) then .error (.naming .highRange (.int high))
  else .ok ⟨low.toNat, high⟩

/-- The value of two halves. Halves that are not both whole stand for none. -/
def Halves.value (h : Halves) : Except Fault Int256 :=
  match h.value? with
  | some v => .ok v
  | none => .error .wrongKind

def ofInt (n : Int) : Except Fault Int256 :=
  if minInt ≤ n ∧ n ≤ maxInt then .ok ⟨(n % 2 ^ 128).toNat, n / 2 ^ 128⟩
  else .error (.naming .overflow (.int n))

def ofPattern (bits : Nat) : Int := if 2 ^ 255 ≤ bits then bits - 2 ^ 256 else bits

def pattern (n : Int) : Nat := (n % 2 ^ 256).toNat

/-- The opposite, modulo `2 ^ 256`. -/
def wrappingNeg (v : Int256) : Except Fault Int256 := ofInt (ofPattern (pattern (-v.toInt)))

def neg (v : Int256) : Except Fault Int256 := ofInt (-v.toInt)

def add (v w : Int256) : Except Fault Int256 := ofInt (v.toInt + w.toInt)

def sub (v w : Int256) : Except Fault Int256 := ofInt (v.toInt - w.toInt)

variable {n : Int} {v : Int256}

@[simp] theorem value_toHalves : v.toHalves.value = .ok v := rfl

theorem toInt_eq_of_ofInt (h : ofInt n = .ok v) : v.toInt = n := by
  unfold ofInt at h
  split at h
  · cases h
    simp only [toInt]
    omega
  · cases h

theorem valid_of_ofInt (h : ofInt n = .ok v) : v.Valid := by
  unfold ofInt at h
  split at h
  · cases h
    simp only [minInt, maxInt] at *
    constructor <;> simp only <;> omega
  · cases h

theorem ofInt_toInt (h : v.Valid) : ofInt v.toInt = .ok v := by
  have := h.low_lt
  rw [ofInt, if_pos ⟨h.minInt_le, h.le_maxInt⟩]
  obtain ⟨l, s⟩ := v
  simp only [toInt, Except.ok.injEq, Int256.mk.injEq] at *
  omega

theorem ofPattern_pattern (h₁ : minInt ≤ n) (h₂ : n ≤ maxInt) : ofPattern (pattern n) = n := by
  simp only [minInt, maxInt] at *
  by_cases h : 2 ^ 255 ≤ pattern n
  · rw [ofPattern, if_pos h]
    simp only [pattern] at *
    omega
  · rw [ofPattern, if_neg h]
    simp only [pattern] at *
    omega

theorem pattern_lt : pattern n < 2 ^ 256 := by
  simp only [pattern]
  omega

theorem ofPattern_bounds {bits : Nat} (h : bits < 2 ^ 256) :
    minInt ≤ ofPattern bits ∧ ofPattern bits ≤ maxInt := by
  simp only [minInt, maxInt]
  by_cases hb : 2 ^ 255 ≤ bits
  · rw [ofPattern, if_pos hb]
    omega
  · rw [ofPattern, if_neg hb]
    omega

theorem exists_wrappingNeg_eq_ok (v : Int256) : ∃ w, v.wrappingNeg = .ok w :=
  ⟨_, if_pos (ofPattern_bounds pattern_lt)⟩

end Residue256.Int256
