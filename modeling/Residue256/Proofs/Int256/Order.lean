import Mathlib.Data.Int.Bitwise
import Residue256.Proofs.Layout
import Residue256.Proofs.Operand.Order

namespace Residue256

open Fallible

namespace Int256

variable {h k : Halves} {v w : Int256} {l s : Number} {m n : Int}

theorem ldiff_ones {k l n : Nat} (hl : l < 2 ^ k) :
    Nat.ldiff (2 ^ k * n + (2 ^ k - 1)) l = 2 ^ k * n + (2 ^ k - (l + 1)) := by
  apply Nat.eq_of_testBit_eq
  intro i
  rw [Nat.testBit_ldiff, Nat.testBit_two_pow_mul_add n (by omega),
    Nat.testBit_two_pow_mul_add n (by omega)]
  split
  · rw [Nat.testBit_two_pow_sub_one, Nat.testBit_two_pow_sub_succ hl]
  · rename_i hi
    have hli : l < 2 ^ i := hl.trans_le (Nat.pow_le_pow_right (by decide) (Nat.le_of_not_lt hi))
    rw [Nat.testBit_lt_two_pow hli, Bool.not_false, Bool.and_true]

theorem shiftLeft_lor {k l : Nat} (hl : l < 2 ^ k) (s : Int) :
    Int.lor (s <<< k) l = s * 2 ^ k + l := by
  have hk := Nat.two_pow_pos k
  rw [Int.shiftLeft_eq]
  cases s with
  | ofNat n =>
    have h : Int.ofNat n * (2 : Int) ^ k = ((n <<< k : Nat) : Int) := by
      rw [Nat.shiftLeft_eq, Nat.cast_mul, Nat.cast_pow]
      rfl
    have ho : Int.lor ((n <<< k : Nat) : Int) l = ((n <<< k ||| l : Nat) : Int) := rfl
    rw [h, ho, ← Nat.shiftLeft_add_eq_or_of_lt hl, Nat.cast_add]
  | negSucc n =>
    have h : Int.negSucc n * (2 : Int) ^ k = Int.negSucc (2 ^ k * n + (2 ^ k - 1)) := by
      rw [Int.negSucc_eq, Int.negSucc_eq]
      push_cast [Nat.cast_sub hk]
      rw [Int.neg_mul, Int.add_mul, Int.one_mul, Int.mul_comm (2 ^ k)]
      omega
    have ho : Int.lor (Int.negSucc (2 ^ k * n + (2 ^ k - 1))) l =
        Int.negSucc (Nat.ldiff (2 ^ k * n + (2 ^ k - 1)) l) := rfl
    rw [h, ho, ldiff_ones hl]
    omega

theorem toInt_eq_lor (hv : v.Valid) : v.toInt = Int.lor (v.high <<< (128 : Nat)) v.low :=
  (shiftLeft_lor hv.low_lt v.high).symm

theorem Halves.Holds.isNegative (hv : h.Holds v) : h.isNegative = v.isNegative := by
  rw [Bool.eq_iff_iff, Halves.isNegative, Number.compareInt?_of_whole? hv.high_eq,
    Int256.isNegative, beq_iff_eq, Option.some_inj, Int.compare_eq_lt, decide_eq_true_eq]

structure InParts (p : Int × Int) : Prop where
  low_nonneg : 0 ≤ p.1
  low_lt : p.1 < 2 ^ 128
  le_high : -2 ^ 127 ≤ p.2
  high_lt : p.2 < 2 ^ 127

/-- The pairs of halves and the integers that they stand for. -/
def equivParts : {p : Int × Int // InParts p} ≃ {n : Int // -2 ^ 255 ≤ n ∧ n ≤ 2 ^ 255 - 1} where
  toFun p := ⟨p.1.2 * 2 ^ 128 + p.1.1, by
    obtain ⟨⟨l, s⟩, h⟩ := p
    obtain ⟨h₁, h₂, h₃, h₄⟩ := h
    dsimp only at *
    omega⟩
  invFun n := ⟨(n.1 % 2 ^ 128, n.1 / 2 ^ 128), by
    obtain ⟨n, h⟩ := n
    constructor <;> dsimp only at * <;> omega⟩
  left_inv p := by
    obtain ⟨⟨l, s⟩, h⟩ := p
    obtain ⟨h₁, h₂, -, -⟩ := h
    rw [Subtype.mk.injEq, Prod.mk.injEq]
    dsimp only at *
    omega
  right_inv n := by
    rw [Subtype.ext_iff]
    dsimp only
    omega

theorem Halves.inRange_iff (hl : l.whole? = some m) (hs : s.whole? = some n) :
    Halves.InRange ⟨l, s⟩ ↔ InParts (m, n) := by
  constructor
  · rintro ⟨h₁, h₂⟩
    rw [Number.within_of_whole? hl] at h₁
    rw [Number.within_of_whole? hs] at h₂
    constructor <;> dsimp only <;> omega
  · rintro ⟨h₁, h₂, h₃, h₄⟩
    dsimp only at *
    exact ⟨(Number.within_of_whole? hl).mpr (by omega), (Number.within_of_whole? hs).mpr (by omega)⟩

end Int256

namespace Operand

variable {c : Comparison} {h k : Int256.Halves} {v w : Int256} {l s z : Number} {m n : Int}

theorem isNegative_of_holds (hh : h.Holds v) (hv : v.Valid) :
    (int256 h).isNegative = .ok (truth (decide (v.toInt < 0))) := by
  have hn : v.isNegative = decide (v.toInt < 0) := by
    rw [Bool.eq_iff_iff, Int256.isNegative_iff hv, decide_eq_true_eq]
  rw [isNegative, hh.isNegative, hn]

theorem compare_int256 (hh : h.Holds v) (hv : v.Valid) (hk : k.Holds w) (hw : w.Valid) :
    compare c (int256 h) (int256 k) = .ok (c.onInts v.toInt w.toInt) := by
  have hs : settle c (int256 h) (int256 k) = some (h.compare c k) := rfl
  rw [(Exact.int256 hh.low_eq hh.high_eq).compare_eq_settle, hs, hh.compare hk,
    Int256.compare_eq_ofOrdering hv hw, Comparison.ofOrdering_compare, Option.elim_some]

theorem rank_of_holds (hh : h.Holds v) : (int256 h).rank = v.toInt := by
  rw [rank, hh.value?]
  rfl

theorem compare_rank_of_holds (hh : h.Holds v) (hv : v.Valid) (hk : k.Holds w) (hw : w.Valid) :
    compare c (int256 h) (int256 k) = .ok (c.onInts (int256 h).rank (int256 k).rank) := by
  rw [compare_int256 hh hv hk hw, rank_of_holds hh, rank_of_holds hk]

theorem exists_sorted_int256 {hs : List Int256.Halves} (supply : Supply)
    (hh : ∀ h ∈ hs, ∃ v, h.Holds v ∧ v.Valid) :
    ∃ ks : List Int256.Halves,
      (Operation.sorted supply (list (hs.map int256))).result = .ok (list (ks.map int256)) ∧
      ks.Perm hs ∧
      ks.Pairwise fun h k => ∀ v w, h.Holds v → k.Holds w → v.toInt ≤ w.toInt := by
  obtain ⟨ks, h, hp, hk⟩ := exists_sorted_map supply fun h hm k km => by
    obtain ⟨v, hv, hv'⟩ := hh h hm
    obtain ⟨w, hw, hw'⟩ := hh k km
    exact compare_rank_of_holds hv hv' hw hw'
  refine ⟨ks, h, hp, hk.imp ?_⟩
  intro h k hr v w hv hw
  rwa [rank_of_holds hv, rank_of_holds hw] at hr

theorem int256OfParts_eq_ok (hr : Int256.Halves.InRange ⟨l, s⟩) :
    (number l).int256OfParts (number s) = .ok (int256 ⟨l, s⟩) := by
  rw [int256OfParts, checkHalf, if_pos hr.low_within, ok_bind, checkHalf, if_pos hr.high_within]
  rfl

theorem exists_int256OfParts_iff :
    (∃ x, (number l).int256OfParts (number s) = .ok x) ↔ Int256.Halves.InRange ⟨l, s⟩ := by
  refine ⟨?_, fun hr => ⟨_, int256OfParts_eq_ok hr⟩⟩
  rintro ⟨x, h⟩
  rw [int256OfParts, checkHalf] at h
  split at h
  · rw [ok_bind, checkHalf] at h
    split at h
    · exact ⟨‹_›, ‹_›⟩
    · cases h
  · cases h

theorem exists_int256OfParts_eq_plain (hp : Int256.InParts (m, n)) :
    ∃ v : Int256, v.Valid ∧ v.toInt = n * 2 ^ 128 + m ∧
      (int m).int256OfParts (int n) = .ok (plain v) := by
  have hr := (Int256.Halves.inRange_iff (Number.whole?_int (n := m)) Number.whole?_int).mpr hp
  have hv := hr.holds Number.whole?_int Number.whole?_int
  have hm : ((m.toNat : Nat) : Int) = m := Int.toNat_of_nonneg hp.low_nonneg
  refine ⟨⟨m.toNat, n⟩, hr.valid hv, ?_, ?_⟩
  · rw [Int256.toInt, hm]
  · rw [int256OfParts_eq_ok hr, plain, Int256.toHalves, hm]

theorem int256OfNumber_of_whole? (hz : z.whole? = some n) :
    (number z).int256OfNumber =
      if Int256.minInt ≤ n ∧ n ≤ Int256.maxInt then (Int256.ofInt n).map plain
      else .error (.naming .overflow z) := by
  by_cases hn : Int256.minInt ≤ n ∧ n ≤ Int256.maxInt
  · rw [int256OfNumber, (Number.within_of_whole? hz).mpr hn, if_pos hn, hz]
    rfl
  · rw [int256OfNumber, Bool.eq_false_iff.mpr (mt (Number.within_of_whole? hz).mp hn), if_neg hn]
    rfl

theorem exists_int256OfNumber_iff (hz : z.whole? = some n) :
    (∃ x, (number z).int256OfNumber = .ok x) ↔ Int256.minInt ≤ n ∧ n ≤ Int256.maxInt := by
  rw [int256OfNumber_of_whole? hz]
  by_cases hn : Int256.minInt ≤ n ∧ n ≤ Int256.maxInt
  · obtain ⟨v, hv⟩ := Int256.exists_ofInt_eq_ok hn.1 hn.2
    rw [if_pos hn, hv]
    exact iff_of_true ⟨_, rfl⟩ hn
  · rw [if_neg hn]
    refine iff_of_false ?_ hn
    rintro ⟨x, ⟨⟩⟩

theorem int256OfNumber_eq_error_iff {e : Fault} (hz : z.whole? = some n) :
    (number z).int256OfNumber = .error e ↔ ¬(Int256.minInt ≤ n ∧ n ≤ Int256.maxInt) ∧
      e = if n.natAbs < 10 ^ Number.maxDigits then .overflow z else .tooManyDigits none := by
  by_cases hn : Int256.minInt ≤ n ∧ n ≤ Int256.maxInt
  · obtain ⟨x, hx⟩ := (exists_int256OfNumber_iff hz).mpr hn
    rw [hx]
    exact iff_of_false nofun fun h => h.1 hn
  · rw [int256OfNumber_of_whole? hz, if_neg hn, Fault.naming, Except.error.injEq, eq_comm,
      and_iff_right hn]
    simp only [Number.isWritable_of_whole? hz]

theorem int256OfNumber_eq_overflow_iff (hz : z.whole? = some n) :
    (number z).int256OfNumber = .error (.overflow z) ↔
      ¬(Int256.minInt ≤ n ∧ n ≤ Int256.maxInt) ∧ n.natAbs < 10 ^ Number.maxDigits := by
  rw [int256OfNumber_eq_error_iff hz, and_congr_right_iff]
  intro _
  split
  · exact iff_of_true rfl ‹_›
  · exact iff_of_false nofun ‹_›

theorem int256OfNumber_eq_tooManyDigits_iff (hz : z.whole? = some n) :
    (number z).int256OfNumber = .error (.tooManyDigits none) ↔
      10 ^ Number.maxDigits ≤ n.natAbs := by
  rw [int256OfNumber_eq_error_iff hz, ← Nat.not_lt]
  split
  · exact iff_of_false (fun h => nomatch h.2) (not_not.mpr ‹_›)
  · rename_i hd
    have hlong := Number.lt_natAbs_of_le (Nat.not_lt.mp hd)
    have hn : ¬(Int256.minInt ≤ n ∧ n ≤ Int256.maxInt) := by
      simp only [Int256.minInt, Int256.maxInt]
      omega
    exact iff_of_true ⟨hn, rfl⟩ hd

/-- A 256-bit integer is compared, and told to be negative or not, as the integer that it stands
for, and so a list of them is sorted by these. Two halves are taken just where they are in range,
which makes each integer of 256 bits in one way, and that is what the integer itself makes. All
other integers are refused as too large, unless they have too many digits to be named. -/
theorem int256_order_is_numeric (supply : Supply) :
    (∀ (h : Int256.Halves) (v : Int256), h.Holds v → v.Valid →
      (int256 h).toInt = .ok (int v.toInt) ∧
      v.toInt = Int.lor (v.high <<< (128 : Nat)) v.low ∧
      (int256 h).isNegative = .ok (truth (decide (v.toInt < 0))) ∧
      ∀ (k : Int256.Halves) (w : Int256), k.Holds w → w.Valid →
        ∀ c, compare c (int256 h) (int256 k) = .ok (c.onInts v.toInt w.toInt)) ∧
    (∀ (l s : Number) (m n : Int), l.whole? = some m → s.whole? = some n →
      ((∃ x, (number l).int256OfParts (number s) = .ok x) ↔ Int256.InParts (m, n)) ∧
      (Int256.InParts (m, n) → (number l).int256OfParts (number s) = .ok (int256 ⟨l, s⟩) ∧
        (int256 ⟨l, s⟩).toInt = .ok (int (n * 2 ^ 128 + m)))) ∧
    (∃ e : {p : Int × Int // Int256.InParts p} ≃ {n : Int // -2 ^ 255 ≤ n ∧ n ≤ 2 ^ 255 - 1},
      ∀ p, ((int p.1.1).int256OfParts (int p.1.2) >>= toInt) = .ok (int (e p)) ∧
        (int (e p)).int256OfNumber = (int p.1.1).int256OfParts (int p.1.2)) ∧
    (∀ (z : Number) (n : Int), z.whole? = some n →
      ((∃ x, (number z).int256OfNumber = .ok x) ↔ -2 ^ 255 ≤ n ∧ n ≤ 2 ^ 255 - 1) ∧
      ((number z).int256OfNumber = .error (.overflow z) ↔
        ¬(-2 ^ 255 ≤ n ∧ n ≤ 2 ^ 255 - 1) ∧ n.natAbs < 10 ^ Number.maxDigits) ∧
      ((number z).int256OfNumber = .error (.tooManyDigits none) ↔
        10 ^ Number.maxDigits ≤ n.natAbs) ∧
      (Fault.overflow z).kind = "OverflowError" ∧
      (Fault.tooManyDigits none).kind = "ValueError") ∧
    ∀ hs : List Int256.Halves, (∀ h ∈ hs, ∃ v, h.Holds v ∧ v.Valid) → ∃ ks : List Int256.Halves,
      (Operation.sorted supply (list (hs.map int256))).result = .ok (list (ks.map int256)) ∧
      ks.Perm hs ∧
      ks.Pairwise fun h k => ∀ v w, h.Holds v → k.Holds w → v.toInt ≤ w.toInt := by
  refine ⟨fun h v hh hv => ?_, fun l s m n hl hs => ?_, ⟨Int256.equivParts, fun p => ?_⟩,
    fun z n hz => ?_, fun hs hh => ?_⟩
  · exact ⟨toInt_of_holds hh, Int256.toInt_eq_lor hv, isNegative_of_holds hh hv,
      fun k w hk hw c => compare_int256 hh hv hk hw⟩
  · rw [exists_int256OfParts_iff, Int256.Halves.inRange_iff hl hs]
    refine ⟨Iff.rfl, fun hp => ?_⟩
    have hr := (Int256.Halves.inRange_iff hl hs).mpr hp
    have hm : ((m.toNat : Nat) : Int) = m := Int.toNat_of_nonneg hp.low_nonneg
    rw [toInt_of_holds (hr.holds hl hs), Int256.toInt, hm]
    exact ⟨int256OfParts_eq_ok hr, rfl⟩
  · obtain ⟨v, hv, hn, ho⟩ := exists_int256OfParts_eq_plain p.2
    have he : (Int256.equivParts p : Int) = v.toInt := hn.symm
    rw [ho, ok_bind, toInt_of_holds v.holds_toHalves, he]
    exact ⟨rfl, int256OfNumber_of_ofInt (Int256.ofInt_toInt hv)⟩
  · exact ⟨exists_int256OfNumber_iff hz, int256OfNumber_eq_overflow_iff hz,
      int256OfNumber_eq_tooManyDigits_iff hz, rfl, rfl⟩
  · exact exists_sorted_int256 supply hh

/-- The least integer with too many digits is out of range, yet what is raised is no overflow. -/
theorem long_integer_is_no_overflow :
    let n : Int := 10 ^ Number.maxDigits
    ¬(-2 ^ 255 ≤ n ∧ n ≤ 2 ^ 255 - 1) ∧
      ∃ fault, (int n).int256OfNumber = .error fault ∧ fault.kind = "ValueError" ∧
        fault.message = some ("Exceeds the limit (4300 digits) for integer string conversion; " ++
          "use sys.set_int_max_str_digits() to increase the limit") := by
  intro n
  have hd : 10 ^ Number.maxDigits ≤ n.natAbs := Number.le_natAbs_ten_pow _
  -- From here on only its size counts, and it is too long a number to compute with.
  clear_value n
  have hlong := Number.lt_natAbs_of_le hd
  have hn : ¬(-2 ^ 255 ≤ n ∧ n ≤ 2 ^ 255 - 1) := by omega
  exact ⟨hn, _, (int256OfNumber_eq_tooManyDigits_iff rfl).mpr hd, rfl, rfl⟩

theorem int256_order_is_numeric_low_end :
    let h : Int256.Halves := ⟨.truth true, .int (-2 ^ 127)⟩
    let k : Int256.Halves := ⟨.int (2 ^ 128 - 1), .int (-1)⟩
    let v : Int256 := ⟨1, -2 ^ 127⟩
    let w : Int256 := ⟨2 ^ 128 - 1, -1⟩
    h.Holds v ∧ v.Valid ∧ k.Holds w ∧ w.Valid ∧
      compare .lt (int256 h) (int256 k) = .ok true ∧ compare .ge (int256 h) (int256 k) = .ok false ∧
      (int256 k).isNegative = .ok (truth true) ∧
      (truth true).int256OfParts (int (-2 ^ 127)) = .ok (int256 h) ∧
      (¬∃ x, (int (2 ^ 128)).int256OfParts (int 0) = .ok x) ∧
      (int (2 ^ 255)).int256OfNumber = .error (.overflow (.int (2 ^ 255))) ∧
      ∃ ks : List Int256.Halves,
        (Operation.sorted (fun _ => []) (list [int256 k, int256 h])).result =
          .ok (list (ks.map int256)) ∧
        ks.Perm [k, h] ∧
        ks.Pairwise fun h k => ∀ v w, h.Holds v → k.Holds w → v.toInt ≤ w.toInt := by
  intro h k v w
  obtain ⟨h₁, h₂, -, h₃, h₄⟩ := int256_order_is_numeric fun _ => []
  have hh : h.Holds v := ⟨rfl, rfl⟩
  have hk : k.Holds w := ⟨rfl, rfl⟩
  have hv : v.Valid := by decide
  have hw : w.Valid := by decide
  obtain ⟨-, -, -, hc⟩ := h₁ h v hh hv
  obtain ⟨-, -, hneg, -⟩ := h₁ k w hk hw
  have hout : ¬Int256.InParts (2 ^ 128, 0) := fun hp => absurd hp.low_lt (by decide)
  exact ⟨hh, hv, hk, hw, hc k w hk hw .lt, hc k w hk hw .ge, hneg,
    ((h₂ (.truth true) (.int (-2 ^ 127)) 1 _ rfl rfl).2 (by constructor <;> decide)).1,
    mt (h₂ (.int (2 ^ 128)) (.int 0) _ _ rfl rfl).1.mp hout,
    (h₃ _ _ rfl).2.1.mpr ⟨by decide, Number.isWritable_int.mp rfl⟩,
    h₄ _ (List.forall_mem_cons.mpr ⟨⟨w, hk, hw⟩, List.forall_mem_singleton.mpr ⟨v, hh, hv⟩⟩)⟩

end Operand

end Residue256
