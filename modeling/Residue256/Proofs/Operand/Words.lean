import Mathlib.Algebra.BigOperators.Fin
import Mathlib.Algebra.BigOperators.Ring.Finset
import Residue256.Operation
import Residue256.Proofs.Fallible
import Residue256.Proofs.Int256.Integer
import Residue256.Proofs.Scalar.Words

namespace Residue256

open Fallible

namespace Digits

variable {b bits i v : Nat} {ds : List Nat} {ns : List Int}

theorem join_eq_sum (h : ∀ n ∈ ns, 0 ≤ n) :
    (join b (ns.map Int.toNat) : Int) = ∑ i : Fin ns.length, ns[i] * (b : Int) ^ (i : Nat) := by
  induction ns with
  | nil => rfl
  | cons n ns ih =>
    rw [List.forall_mem_cons] at h
    have hs := Fin.sum_univ_succ fun i : Fin (ns.length + 1) => (n :: ns)[i] * (b : Int) ^ (i : Nat)
    refine Eq.trans ?_ hs.symm
    rw [List.map_cons, join_cons, Nat.cast_add, Nat.cast_mul, ih h.2, Int.toNat_of_nonneg h.1,
      Finset.mul_sum]
    simp [pow_succ', mul_left_comm]

/-- Digits of so many bits put together bit by bit, each in its place. -/
def overlay (bits : Nat) (ds : List Nat) : Nat :=
  ds.zipIdx.foldl (fun v d => v ||| d.1 <<< (bits * d.2)) 0

theorem foldl_or (h : ∀ d ∈ ds, d < 2 ^ bits) (hv : v < 2 ^ (bits * i)) :
    (ds.zipIdx i).foldl (fun v d => v ||| d.1 <<< (bits * d.2)) v =
      v + 2 ^ (bits * i) * join (2 ^ bits) ds := by
  induction ds generalizing v i with
  | nil => rfl
  | cons d ds ih =>
    rw [List.forall_mem_cons] at h
    have ho : v ||| d <<< (bits * i) = v + 2 ^ (bits * i) * d := by
      rw [Nat.or_comm, ← Nat.shiftLeft_add_eq_or_of_lt hv, Nat.shiftLeft_eq, Nat.add_comm,
        Nat.mul_comm]
    have hv' : v + 2 ^ (bits * i) * d < 2 ^ (bits * (i + 1)) := by
      calc v + 2 ^ (bits * i) * d
          < 2 ^ (bits * i) + 2 ^ (bits * i) * d := Nat.add_lt_add_right hv _
        _ = 2 ^ (bits * i) * (d + 1) := by rw [Nat.mul_succ, Nat.add_comm]
        _ ≤ 2 ^ (bits * i) * 2 ^ bits := Nat.mul_le_mul_left _ h.1
        _ = 2 ^ (bits * (i + 1)) := by rw [← Nat.pow_add, Nat.mul_succ]
    rw [List.zipIdx_cons, List.foldl_cons, ho, ih h.2 hv', join_cons, Nat.mul_succ, Nat.pow_add,
      Nat.mul_add, Nat.mul_assoc, Nat.add_assoc]

theorem overlay_eq_join (h : ∀ d ∈ ds, d < 2 ^ bits) : overlay bits ds = join (2 ^ bits) ds := by
  rw [overlay, foldl_or h Nat.one_pos, Nat.zero_add, Nat.mul_zero, Nat.pow_zero, Nat.one_mul]

end Digits

namespace Scalar

variable {F : Field} {i : Nat} {n w : Int} {ns before rest : List Int} {x : Scalar}

def IsWord (n : Int) : Prop := 0 ≤ n ∧ n < 2 ^ 64

instance (n : Int) : Decidable (IsWord n) := inferInstanceAs (Decidable (_ ∧ _))

theorem toNat_lt_of_isWord (h : ∀ n ∈ ns, IsWord n) : ∀ d ∈ ns.map Int.toNat, d < 2 ^ 64 := by
  rw [List.forall_mem_map]
  intro n hn
  have hw := h n hn
  rw [IsWord] at hw
  omega

theorem checkWord_of_isWord (h : IsWord n) : checkWord i n = .ok n.toNat := if_pos h

theorem checkWord_of_not_isWord (h : ¬IsWord n) :
    checkWord i n = .error (.naming (.wordRange i) (.int n)) := if_neg h

theorem checkWords_of_isWord (h : ∀ n ∈ ns, IsWord n) :
    checkWords checkWord i ns = .ok (ns.map Int.toNat) := by
  induction ns generalizing i with
  | nil => rfl
  | cons n ns ih =>
    rw [List.forall_mem_cons] at h
    rw [checkWords, checkWord_of_isWord h.1, ok_bind, ih h.2]
    rfl

theorem checkWords_append (h : ∀ n ∈ before, IsWord n) (hw : ¬IsWord w) :
    checkWords checkWord i (before ++ w :: rest) =
      .error (.naming (.wordRange (i + before.length)) (.int w)) := by
  induction before generalizing i with
  | nil =>
    rw [List.nil_append, checkWords, checkWord_of_not_isWord hw]
    rfl
  | cons n before ih =>
    rw [List.forall_mem_cons] at h
    rw [List.cons_append, checkWords, checkWord_of_isWord h.1, ok_bind, ih h.2, error_bind,
      List.length_cons, Nat.add_right_comm, Nat.add_assoc]

theorem ofWords_of_length (h : ns.length ≠ 4) : ofWords F ns = .error (.wordCount ns.length) := by
  rw [ofWords, magnitude, if_pos h]
  rfl

theorem ofWords_of_not_isWord (hl : ns.length = 4) {i : Nat} (hi : i < ns.length)
    (h : ∀ n ∈ ns.take i, IsWord n) (hw : ¬IsWord ns[i]) :
    ofWords F ns = .error (.naming (.wordRange i) (.int ns[i])) := by
  have hs : ns = ns.take i ++ ns[i] :: ns.drop (i + 1) := by
    rw [← List.drop_eq_getElem_cons hi, List.take_append_drop]
  have hc : checkWords checkWord 0 (ns.take i ++ ns[i] :: ns.drop (i + 1)) = _ :=
    checkWords_append h hw
  rw [← hs, List.length_take_of_le hi.le, Nat.zero_add] at hc
  rw [ofWords, magnitude, if_neg (by simp [hl]), hc]
  rfl

theorem ofWords_of_isWord (hl : ns.length = 4) (h : ∀ n ∈ ns, IsWord n) :
    ofWords F ns = ofResidue F (Digits.join (2 ^ 64) (ns.map Int.toNat)) := by
  rw [ofWords, magnitude, if_neg (by simp [hl]), checkWords_of_isWord h]
  rfl

theorem ofResidue_of_lt {m : Nat} (h : m < F.modulus.value) : ofResidue F m = .ok ⟨F, m⟩ :=
  (if_pos h).trans (congrArg Except.ok (ofInt_value (x := ⟨F, m⟩) h))

theorem gives_checkWords : Gives (fun _ => ∀ n ∈ ns, IsWord n) (checkWords checkWord i ns) := by
  induction ns generalizing i with
  | nil => exact List.forall_mem_nil _
  | cons n ns ih =>
    have hn : Gives (fun _ => IsWord n) (checkWord i n) := by
      rw [checkWord]
      split
      · exact ‹_›
      · trivial
    apply hn.bind
    intro d hd
    apply ih.bind
    intro ds hds
    exact List.forall_mem_cons.mpr ⟨hd, hds⟩

theorem ofWords_eq_ok_iff : ofWords F ns = .ok x ↔ ns.length = 4 ∧ (∀ n ∈ ns, IsWord n) ∧
    Digits.join (2 ^ 64) (ns.map Int.toNat) < F.modulus.value ∧
    x = ⟨F, Digits.join (2 ^ 64) (ns.map Int.toNat)⟩ := by
  constructor
  · intro h
    by_cases hl : ns.length = 4
    · by_cases hw : ∀ n ∈ ns, IsWord n
      · rw [ofWords_of_isWord hl hw] at h
        by_cases hv : Digits.join (2 ^ 64) (ns.map Int.toNat) < F.modulus.value
        · rw [ofResidue_of_lt hv, Except.ok.injEq] at h
          exact ⟨hl, hw, hv, h.symm⟩
        · rw [ofResidue, if_neg hv] at h
          cases h
      · have hc : Gives (fun _ => ∀ n ∈ ns, IsWord n) (checkWords checkWord 0 ns) :=
          gives_checkWords
        rw [ofWords, magnitude, if_neg (by simp [hl])] at h
        cases he : checkWords checkWord 0 ns with
        | ok ds =>
          rw [he] at hc
          exact absurd hc hw
        | error e =>
          rw [he] at h
          cases h
    · rw [ofWords_of_length hl] at h
      cases h
  · rintro ⟨hl, hw, hv, rfl⟩
    rw [ofWords_of_isWord hl hw, ofResidue_of_lt hv]

theorem toWords_join (hl : ns.length = 4) (hw : ∀ n ∈ ns, IsWord n) :
    (Scalar.mk F (Digits.join (2 ^ 64) (ns.map Int.toNat))).toWords = ns.map Int.toNat := by
  have hs := Digits.split_join (by decide) (toNat_lt_of_isWord hw)
  rwa [List.length_map, hl] at hs

end Scalar

namespace Operand

variable {supply : Supply} {F : Field} {a : Operand} {z : Number} {zs : List Number} {i : Nat}
  {n : Int} {ns : List Int} {ws : List Nat}

def Lists (supply : Supply) (a : Operand) (ns : List Int) : Prop :=
  ∃ zs : List Number, supply.items a = .ok (zs.map fun z => .ok (number z)) ∧
    List.Forall₂ (fun z n => z.whole? = some n) zs ns

theorem lists_of_ints (h : supply.items a = .ok ((ns.map int).map .ok)) : Lists supply a ns := by
  refine ⟨ns.map .int, ?_, ?_⟩
  · rw [h, List.map_map, List.map_map]
    rfl
  · rw [List.forall₂_map_left_iff, List.forall₂_same]
    exact fun n _ => rfl

theorem lists_nats : Lists supply (tuple (nats ws)) (ws.map fun (w : Nat) => (w : Int)) := by
  apply lists_of_ints
  have hn : nats ws = (ws.map fun (w : Nat) => (w : Int)).map int := by
    rw [List.map_map]
    rfl
  rw [hn]
  rfl

theorem checkWord_of_whole? (hz : z.whole? = some n) :
    checkWord i (number z) = Scalar.checkWord i n := by
  have hw : z.within 0 (2 ^ 64 - 1) = true ↔ 0 ≤ n ∧ n ≤ 2 ^ 64 - 1 := Number.within_of_whole? hz
  by_cases hn : Scalar.IsWord n
  · have hn' : 0 ≤ n ∧ n ≤ 2 ^ 64 - 1 := ⟨hn.1, Int.le_sub_one_of_lt hn.2⟩
    rw [Scalar.checkWord_of_isWord hn, checkWord, hw.mpr hn', hz]
    rfl
  · have hn' : ¬(0 ≤ n ∧ n ≤ 2 ^ 64 - 1) := fun h => hn ⟨h.1, Int.lt_of_le_sub_one h.2⟩
    rw [Scalar.checkWord_of_not_isWord hn, checkWord, Bool.eq_false_iff.mpr (mt hw.mp hn')]
    cases z with
    | int m =>
      cases hz
      rfl
    | truth b =>
      cases hz
      exact absurd (by cases b <;> decide) hn
    | real y => cases hz

theorem checkWords_of_whole? (hz : List.Forall₂ (fun z n => z.whole? = some n) zs ns) :
    Scalar.checkWords checkWord i (zs.map number) = Scalar.checkWords Scalar.checkWord i ns := by
  induction hz generalizing i with
  | nil => rfl
  | cons hz _ ih =>
    rw [List.map_cons, Scalar.checkWords, checkWord_of_whole? hz, Scalar.checkWords, ih]

theorem scalarOfWords_of_lists (h : Lists supply a ns) :
    (scalarOfWords supply (family (.field F)) a).result = (Scalar.ofWords F ns).map scalar := by
  obtain ⟨zs, hi, hz⟩ := h
  have hm : Scalar.magnitude checkWord (zs.map number) = Scalar.magnitude Scalar.checkWord ns := by
    rw [Scalar.magnitude, Scalar.magnitude, checkWords_of_whole? hz, List.length_map, hz.length_eq]
  have hg : Items.gather (zs.map fun z => .ok (number z)) = (.ok (zs.map number), []) := by
    rw [← Items.gather_map_ok, List.map_map]
    rfl
  simp only [scalarOfWords, family?, Supply.read, hi, hg]
  rw [ok_bind, scalarOfWordList, hm, Scalar.ofWords]
  cases Scalar.magnitude Scalar.checkWord ns with
  | error e => rfl
  | ok m =>
    rw [ok_bind, ok_bind, fieldOf, ok_bind]
    cases Scalar.ofResidue F m <;> rfl

theorem join_words_eq_sum (hw : ∀ n ∈ ns, Scalar.IsWord n) :
    (Digits.join (2 ^ 64) (ns.map Int.toNat) : Int) =
      ∑ i : Fin ns.length, ns[i] * 2 ^ (64 * (i : Nat)) := by
  rw [Digits.join_eq_sum fun n hn => (hw n hn).1]
  simp only [Nat.cast_pow, Nat.cast_ofNat, pow_mul]

theorem toWords_of_isWord (hl : ns.length = 4) (hw : ∀ n ∈ ns, Scalar.IsWord n) :
    (scalar ⟨F, Digits.join (2 ^ 64) (ns.map Int.toNat)⟩).toWords = .ok (tuple (ns.map int)) := by
  have hn : nats (ns.map Int.toNat) = ns.map int := by
    rw [nats, List.map_map]
    apply List.map_congr_left
    intro n hm
    exact congrArg int (Int.toNat_of_nonneg (hw n hm).1)
  rw [toWords, askScalar, Scalar.toWords_join hl hw, hn]

/-- Integers make a scalar if they are four 64-bit words that encode a residue. Then the residue is
what they encode, and the scalar has the words again. Otherwise it is told first if their number is
wrong, then which is the first that is no word, if that can be written, and then that they encode no
residue. Every scalar is made by its words. -/
theorem words_make_residues (supply : Supply) (F : Field) :
    (∀ (words : Operand) (ns : List Int), Lists supply words ns →
      let result := (scalarOfWords supply (family (.field F)) words).result
      let value := ∑ i : Fin ns.length, ns[i] * 2 ^ (64 * (i : Nat))
      ((∃ a, result = .ok a) ↔
        ns.length = 4 ∧ (∀ n ∈ ns, Scalar.IsWord n) ∧ value < F.modulus.value) ∧
      (∀ a, result = .ok a → ∃ x : Scalar, a = scalar x ∧ x.field = F ∧ (x.value : Int) = value ∧
        x.value = Digits.overlay 64 (ns.map Int.toNat) ∧
        (scalar x).toWords = .ok (tuple (ns.map int))) ∧
      (ns.length ≠ 4 → result = .error (.wordCount ns.length)) ∧
      (ns.length = 4 → ∀ (i : Nat) (hi : i < ns.length), (∀ n ∈ ns.take i, Scalar.IsWord n) →
        ¬Scalar.IsWord ns[i] →
          (ns[i].natAbs < 10 ^ Number.maxDigits → result = .error (.wordRange i (.int ns[i]))) ∧
          (10 ^ Number.maxDigits ≤ ns[i].natAbs → result = .error (.tooManyDigits none))) ∧
      (ns.length = 4 → (∀ n ∈ ns, Scalar.IsWord n) → ¬value < F.modulus.value →
        result = .error (.notResidue F.name))) ∧
    (∀ (k i : Nat) (n : Int), (Fault.wordCount k).kind = "ValueError" ∧
      (Fault.wordRange i (.int n)).kind = "ValueError" ∧
      (Fault.wordRange i (.int n)).message = some s!"Limb {i} out of u64 range: {n}" ∧
      (Fault.tooManyDigits none).kind = "ValueError" ∧
      (Fault.tooManyDigits none).message = some (digitsText none) ∧
      (Fault.notResidue F.name).kind = "ValueError") ∧
    ∀ x : Scalar, x.field = F → x.Reduced → ∃ ws : List Nat,
      (scalar x).toWords = .ok (tuple (nats ws)) ∧ (∀ w ∈ ws, w < 2 ^ 64) ∧
      (scalarOfWords supply (family (.field F)) (tuple (nats ws))).result = .ok (scalar x) := by
  refine ⟨fun words ns h => ?_, fun k i n => ⟨rfl, rfl, rfl, rfl, rfl, rfl⟩,
    fun x hf hx => ?_⟩
  · intro result value
    have hr : result = (Scalar.ofWords F ns).map scalar := scalarOfWords_of_lists h
    have hv : (∀ n ∈ ns, Scalar.IsWord n) →
        (value < F.modulus.value ↔ Digits.join (2 ^ 64) (ns.map Int.toNat) < F.modulus.value) := by
      intro hw
      rw [← Int.ofNat_lt, join_words_eq_sum hw]
    rw [hr]
    refine ⟨⟨?_, ?_⟩, fun a ha => ?_, fun hl => ?_, fun hl i hi hp hw => ?_, fun hl hw hn => ?_⟩
    · rintro ⟨a, ha⟩
      obtain ⟨x, hx, -⟩ := map_eq_ok_iff.mp ha
      obtain ⟨hl, hw, hm, -⟩ := Scalar.ofWords_eq_ok_iff.mp hx
      exact ⟨hl, hw, (hv hw).mpr hm⟩
    · rintro ⟨hl, hw, hm⟩
      rw [Scalar.ofWords_eq_ok_iff.mpr ⟨hl, hw, (hv hw).mp hm, rfl⟩]
      exact ⟨_, rfl⟩
    · obtain ⟨x, hx, rfl⟩ := map_eq_ok_iff.mp ha
      obtain ⟨hl, hw, -, rfl⟩ := Scalar.ofWords_eq_ok_iff.mp hx
      refine ⟨_, rfl, rfl, join_words_eq_sum hw, ?_, ?_⟩
      · exact (Digits.overlay_eq_join (Scalar.toNat_lt_of_isWord hw)).symm
      · exact toWords_of_isWord hl hw
    · rw [Scalar.ofWords_of_length hl]
      rfl
    · rw [Scalar.ofWords_of_not_isWord hl hi hp hw]
      refine ⟨fun hn => ?_, fun hn => ?_⟩
      · rw [Fault.naming_of_lt hn]
        rfl
      · rw [Fault.naming_of_le hn]
        rfl
    · rw [Scalar.ofWords_of_isWord hl hw, Scalar.ofResidue, if_neg (mt (hv hw).mpr hn)]
      rfl
  · subst hf
    refine ⟨x.toWords, rfl, Digits.lt_of_mem_split (by decide), ?_⟩
    rw [scalarOfWords_of_lists lists_nats, Scalar.toWords, Scalar.ofWords_split hx,
      Scalar.ofInt_value hx]
    rfl

/-- The least integer with too many digits is no word, yet neither it nor its place is named. -/
theorem long_word_is_not_named :
    let word : Int := 10 ^ Number.maxDigits
    let words : Operand := list [int 0, int word, int 0, int 0]
    let result := (scalarOfWords (fun _ => []) (family (.field .curve25519)) words).result
    ¬Scalar.IsWord word ∧ result ≠ .error (.wordRange 1 (.int word)) ∧
      ∃ fault, result = .error fault ∧ fault.kind = "ValueError" ∧
        fault.message = some ("Exceeds the limit (4300 digits) for integer string conversion; " ++
          "use sys.set_int_max_str_digits() to increase the limit") := by
  intro word words result
  have hn : 10 ^ Number.maxDigits ≤ word.natAbs := Number.le_natAbs_ten_pow _
  -- From here on only its size counts, and it is too long a number to compute with.
  clear_value word
  have hlong := Number.lt_natAbs_of_le hn
  have hw : ¬Scalar.IsWord word := by
    rintro ⟨h₁, h₂⟩
    omega
  have hi : 1 < [0, word, 0, 0].length := by simp
  have hl : Lists (fun _ => []) words [0, word, 0, 0] := lists_of_ints rfl
  have hr : result = (Scalar.ofWords .curve25519 [0, word, 0, 0]).map scalar :=
    scalarOfWords_of_lists hl
  rw [Scalar.ofWords_of_not_isWord rfl hi (by simp [Scalar.IsWord]) hw] at hr
  have hd : result = .error (.naming (.wordRange 1) (.int word)) := hr
  rw [Fault.naming_of_le hn] at hd
  exact ⟨hw, by simp [hd], _, hd, rfl, rfl⟩

theorem words_make_residues_seven :
    let F : Field := .under (.root "a" "Seven" { value := 7 }) "b" "Below" none
    let made : Operand := list [int 1, truth false, int 0, int 0]
    let read := fun words => (scalarOfWords (fun _ => []) (family (.field F)) words).result
    Lists (fun _ => []) made [1, 0, 0, 0] ∧ (∃ a, read made = .ok a) ∧
      read (list [int (-1), int (2 ^ 64)]) = .error (.wordCount 2) ∧
      read (tuple [int 7, int (2 ^ 64), int (-1), int 0]) = .error (.wordRange 1 (.int (2 ^ 64))) ∧
      read (list [int 7, int 0, int 0, int 0]) = .error (.notResidue "Below") ∧
      ∃ ws : List Nat, (scalar ⟨F, 6⟩).toWords = .ok (tuple (nats ws)) ∧
        read (tuple (nats ws)) = .ok (scalar ⟨F, 6⟩) := by
  intro F made read
  obtain ⟨h₁, -, h₂⟩ := words_make_residues (fun _ => []) F
  have hm : Lists (fun _ => []) made [1, 0, 0, 0] :=
    ⟨[.int 1, .truth false, .int 0, .int 0], rfl, by simp [Number.whole?]⟩
  have hn : ∀ ns : List Int, Lists (fun _ => []) (list (ns.map int)) ns :=
    fun _ => lists_of_ints rfl
  have hr : Lists (fun _ => []) (tuple ([7, 2 ^ 64, -1, 0].map int)) [7, 2 ^ 64, -1, 0] :=
    lists_of_ints rfl
  obtain ⟨ws, hw, -, hs⟩ := h₂ ⟨F, 6⟩ rfl (by decide)
  exact ⟨hm, (h₁ made _ hm).1.mpr (by decide), (h₁ _ _ (hn [-1, 2 ^ 64])).2.2.1 (by decide),
    ((h₁ _ _ hr).2.2.2.1 rfl 1 (by decide) (by decide) (by decide)).1
      (Number.isWritable_int.mp rfl),
    (h₁ _ _ (hn [7, 0, 0, 0])).2.2.2.2 rfl (by decide) (by decide), ws, hw, hs⟩

end Operand

end Residue256
