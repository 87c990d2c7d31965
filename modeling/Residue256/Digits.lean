import Residue256.Power

namespace Residue256.Digits

variable {b k n m : Nat} {ds : List Nat}

/-- The `k` lowest digits of `n` in base `b`, least significant first. What lies above them is
dropped. -/
def split (b : Nat) : Nat → Nat → List Nat
  | 0, _ => []
  | k + 1, n => n % b :: split b k (n / b)

/-- The number with the given digits in base `b`, least significant first. -/
def join (b : Nat) : List Nat → Nat
  | [] => 0
  | d :: ds => d + b * join b ds

@[simp] theorem split_zero : split b 0 n = [] := rfl

@[simp] theorem split_succ : split b (k + 1) n = n % b :: split b k (n / b) := rfl

@[simp] theorem join_nil : join b [] = 0 := rfl

@[simp] theorem join_cons {d : Nat} : join b (d :: ds) = d + b * join b ds := rfl

@[simp] theorem length_split : (split b k n).length = k := by
  induction k generalizing n with
  | zero => rfl
  | succ k ih => simp [ih]

theorem lt_of_mem_split (hb : 0 < b) : ∀ d ∈ split b k n, d < b := by
  induction k generalizing n with
  | zero => simp
  | succ k ih =>
    intro d hd
    rcases List.mem_cons.1 hd with rfl | hd
    · exact Nat.mod_lt n hb
    · exact ih d hd

theorem join_split : join b (split b k n) = n % b ^ k := by
  induction k generalizing n with
  | zero => simp [Nat.mod_one]
  | succ k ih => rw [split_succ, join_cons, ih, Nat.pow_succ', Nat.mod_mul]

theorem join_split_of_lt (h : n < b ^ k) : join b (split b k n) = n := by
  rw [join_split, Nat.mod_eq_of_lt h]

theorem join_lt (h : ∀ d ∈ ds, d < b) : join b ds < b ^ ds.length := by
  induction ds with
  | nil => simp
  | cons d ds ih =>
    have hd : d < b := h d (by simp)
    have ht := ih fun e he => h e (by simp [he])
    calc d + b * join b ds
        < b + b * join b ds := Nat.add_lt_add_right hd _
      _ = b * (join b ds + 1) := by rw [Nat.mul_succ, Nat.add_comm]
      _ ≤ b * b ^ ds.length := Nat.mul_le_mul_left b ht
      _ = b ^ (d :: ds).length := by rw [List.length_cons, Nat.pow_succ']

theorem split_join (hb : 0 < b) (h : ∀ d ∈ ds, d < b) : split b ds.length (join b ds) = ds := by
  induction ds with
  | nil => rfl
  | cons d ds ih =>
    have hd : d < b := h d (by simp)
    have ht := ih fun e he => h e (by simp [he])
    rw [List.length_cons, split_succ, join_cons, Nat.add_mul_mod_self_left, Nat.mod_eq_of_lt hd,
      Nat.add_mul_div_left _ _ hb, Nat.div_eq_of_lt hd, Nat.zero_add, ht]

end Residue256.Digits
