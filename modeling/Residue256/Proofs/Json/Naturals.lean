import Mathlib.Data.List.TakeWhile
import Residue256.Json.Reader
import Residue256.Power

namespace Residue256.Json

variable {n : Nat} {ns : List Nat} {c : Char} {cs seen rest : List Char} {v : Json}

/-- The number is written with no more digits than may be read. -/
def Short (n : Nat) : Prop := (Nat.toDigits 10 n).length ≤ maxDigits

theorem short_of_lt (h : n < 2 ^ 64) : Short n := by
  have hl : (Nat.toDigits 10 n).length ≤ 20 :=
    (Nat.length_toDigits_le_iff (by decide) (by decide)).mpr (h.trans (by decide))
  exact hl.trans (by decide)

theorem isDigit_of_mem_toDigits : ∀ c ∈ Nat.toDigits 10 n, c.isDigit = true :=
  fun _ => Nat.isDigit_of_mem_toDigits (by decide) (by decide)

theorem exists_toDigits_eq_cons (hn : n ≠ 0) : ∃ c cs, Nat.toDigits 10 n = c :: cs ∧ c ≠ '0' := by
  induction n using Nat.strongRecOn with
  | ind n ih =>
    by_cases h : n < 10
    · rw [Nat.toDigits_of_lt_base h]
      exact ⟨_, [], rfl, mt Nat.digitChar_eq_zero.mp hn⟩
    · obtain ⟨c, cs, hc, h0⟩ := ih (n / 10) (by omega) (by omega)
      rw [Nat.toDigits_of_base_le (by decide) (by omega), hc]
      exact ⟨c, _, rfl, h0⟩

theorem isNatural_toDigits (n : Nat) : isNatural (Nat.toDigits 10 n) = true := by
  by_cases hn : n = 0
  · rw [hn, Nat.toDigits_zero]
    rfl
  · obtain ⟨c, cs, hc, h0⟩ := exists_toDigits_eq_cons hn
    have hd := List.all_eq_true.mpr (isDigit_of_mem_toDigits (n := n))
    rw [hc] at hd ⊢
    unfold isNatural
    split
    · contradiction
    · rfl
    · rename_i h
      cases h
      rw [hd, Bool.and_true, bne_iff_ne]
      exact h0

theorem unsigned?_toDigits (hn : Short n) :
    unsigned? false (Nat.toDigits 10 n) = some (.int n) := by
  have ht : (Nat.toDigits 10 n).takeWhile Char.isDigit = Nat.toDigits 10 n :=
    List.takeWhile_eq_self_iff.mpr isDigit_of_mem_toDigits
  have hr : (Nat.toDigits 10 n).dropWhile Char.isDigit = [] :=
    List.dropWhile_eq_nil_iff.mpr isDigit_of_mem_toDigits
  have hl : (!isNatural (Nat.toDigits 10 n) || maxDigits < (Nat.toDigits 10 n).length) = false := by
    rw [isNatural_toDigits, Bool.not_true, Bool.false_or, decide_eq_false_iff_not]
    exact Nat.not_lt.mpr hn
  rw [unsigned?, ht, hr]
  simp only [hl, List.isEmpty_nil, if_true, Bool.false_eq_true, if_false,
    Nat.ofDigitChars_ten_toDigits]

theorem word?_eq_number? (hc : c.isDigit = true) : word? (c :: cs) = number? (c :: cs) := by
  unfold word?
  split
  case h_7 => rfl
  all_goals
    rename_i h
    have hl := congrArg String.toList h
    rw [String.toList_ofList] at hl
    cases hl
    cases hc

theorem word?_toDigits (hn : Short n) : word? (Nat.toDigits 10 n) = some (.int n) := by
  have hu := unsigned?_toDigits hn
  have hd := isDigit_of_mem_toDigits (n := n)
  cases hs : Nat.toDigits 10 n with
  | nil => exact absurd hs Nat.toDigits_ne_nil
  | cons c cs =>
    rw [hs] at hu hd
    have hc := hd c List.mem_cons_self
    rw [word?_eq_number? hc]
    unfold number?
    split
    · rename_i h
      cases h
      cases hc
    · exact hu

namespace Token

variable {m m' : Mode} {t : Token} {ts : List Token}

theorem scan_cons (h : step m c = some (m', ts)) :
    scan m (c :: cs) = (scan m' cs).map (ts ++ ·) := by
  rw [scan, h]
  exact Option.map_eq_bind.symm

theorem isWordChar_of_isDigit (hc : c.isDigit = true) : isWordChar c = true := by
  rw [isWordChar, Char.isAlphanum, hc, Bool.or_true]
  rfl

theorem start_of_isDigit (hc : c.isDigit = true) : start c = some (.word [c], []) := by
  have hb : isBlank c = false := by
    rw [Bool.eq_false_iff, isBlank]
    intro h
    simp only [Bool.or_eq_true, beq_iff_eq] at h
    obtain ((rfl | rfl) | rfl) | rfl := h <;> cases hc
  have hq : c ≠ '"' := by
    rintro rfl
    cases hc
  rw [start, hb, if_neg Bool.false_ne_true, if_neg hq, if_pos (isWordChar_of_isDigit hc)]

theorem scan_word_append (h : ∀ c ∈ cs, c.isDigit = true) :
    scan (.word seen) (cs ++ rest) = scan (.word (cs.reverse ++ seen)) rest := by
  induction cs generalizing seen with
  | nil => rfl
  | cons c cs ih =>
    rw [List.forall_mem_cons] at h
    have hs : step (.word seen) c = some (.word (c :: seen), []) :=
      if_pos (isWordChar_of_isDigit h.1)
    rw [List.cons_append, scan_cons hs, ih h.2, List.reverse_cons, List.append_assoc]
    exact Option.map_id'

theorem scan_digits (h : ∀ c ∈ cs, c.isDigit = true) (hn : cs ≠ []) :
    scan .between (cs ++ rest) = scan (.word cs.reverse) rest := by
  cases cs with
  | nil => exact absurd rfl hn
  | cons c cs =>
    rw [List.forall_mem_cons] at h
    have hs : step .between c = some (.word [c], []) := start_of_isDigit h.1
    rw [List.cons_append, scan_cons hs, scan_word_append h.2, List.reverse_cons]
    exact Option.map_id'

theorem scan_toDigits (hn : Short n) (hc : isWordChar c = false)
    (ht : start c = some (.between, [t])) :
    scan .between (Nat.toDigits 10 n ++ c :: rest) =
      (scan .between rest).map ([.word (.int n), t] ++ ·) := by
  have hs : step (.word (Nat.toDigits 10 n).reverse) c =
      some (.between, [.word (.int n), t]) := by
    rw [step, hc, if_neg Bool.false_ne_true, List.reverse_reverse, word?_toDigits hn, ht]
    rfl
  rw [scan_digits isDigit_of_mem_toDigits Nat.toDigits_ne_nil, scan_cons hs]

def listed (ns : List Nat) : List Token :=
  [.comma].intercalate (ns.map fun (n : Nat) => [.word (.int n)])

theorem scan_listed (hs : ∀ n ∈ ns, Short n) (hn : ns ≠ []) :
    scan .between ([','].intercalate (ns.map (Nat.toDigits 10)) ++ ']' :: rest) =
      (scan .between rest).map (listed ns ++ [.closeArray] ++ ·) := by
  cases ns with
  | nil => exact absurd rfl hn
  | cons n ns =>
    induction ns generalizing n with
    | nil =>
      rw [List.map_singleton, List.intercalate_singleton,
        scan_toDigits (hs n List.mem_cons_self) rfl rfl]
      rfl
    | cons m ns ih =>
      rw [List.forall_mem_cons] at hs
      rw [List.map_cons, List.map_cons, List.intercalate_cons_cons, List.append_assoc,
        List.append_assoc, List.singleton_append, scan_toDigits hs.1 rfl rfl, ← List.map_cons,
        ih m hs.2 (List.cons_ne_nil m ns), Option.map_map]
      rfl

def isPlain (c : Char) : Bool := c != '"' && c != '\\' && 0x20 ≤ c.toNat

theorem scan_quoted_append (h : ∀ c ∈ cs, isPlain c = true) :
    scan (.quoted seen) (cs ++ rest) = scan (.quoted (cs.reverse ++ seen)) rest := by
  induction cs generalizing seen with
  | nil => rfl
  | cons c cs ih =>
    rw [List.forall_mem_cons] at h
    obtain ⟨hc, ht⟩ := h
    simp only [isPlain, Bool.and_eq_true, bne_iff_ne, decide_eq_true_eq] at hc
    have hs : step (.quoted seen) c = some (.quoted (c :: seen), []) := by
      rw [step, if_neg hc.1.1, if_neg hc.1.2, if_neg (Nat.not_lt.mpr hc.2)]
    rw [List.cons_append, scan_cons hs, ih ht, List.reverse_cons, List.append_assoc]
    exact Option.map_id'

theorem scan_text (h : ∀ c ∈ cs, isPlain c = true) :
    scan .between ('"' :: (cs ++ '"' :: rest)) =
      (scan .between rest).map (.text (String.ofList cs) :: ·) := by
  have ho : step .between '"' = some (.quoted [], []) := rfl
  have hc : step (.quoted cs.reverse) '"' = some (.between, [.text (String.ofList cs)]) := by
    rw [step, if_pos rfl, List.reverse_reverse]
  rw [scan_cons ho, scan_quoted_append h, List.append_nil, scan_cons hc]
  exact Option.map_id'

theorem scan_punctuation (h : start c = some (.between, [t])) :
    scan .between (c :: rest) = (scan .between rest).map (t :: ·) := by
  have hs : step .between c = some (.between, [t]) := h
  exact scan_cons hs

end Token

variable {stack : List Frame} {items : List Json} {ts : List Token} {name : List Char}

open Token

theorem foldlM_listed (hn : ns ≠ []) :
    (listed ns ++ .closeArray :: ts).foldlM take? (.want .value (.array items :: stack)) =
      (place (.array (items.reverse ++ ns.map fun (n : Nat) => .int n)) stack).bind
        fun p => ts.foldlM take? p := by
  cases ns with
  | nil => exact absurd rfl hn
  | cons n ns =>
    induction ns generalizing n items with
    | nil =>
      rw [List.map_singleton, ← List.reverse_cons]
      rfl
    | cons m ns ih =>
      have hs : listed (n :: m :: ns) = .word (.int n) :: .comma :: listed (m :: ns) := rfl
      have ht : (listed (m :: ns) ++ .closeArray :: ts).foldlM take?
          (.want .value (.array (.int n :: items) :: stack)) = _ := ih m (List.cons_ne_nil m ns)
      rw [List.reverse_cons, List.append_assoc, List.singleton_append] at ht
      rw [hs, List.map_cons, ← ht]
      rfl

theorem foldlM_openArray (hn : ns ≠ []) (hd : stack.length < maxDepth) :
    (.openArray :: (listed ns ++ .closeArray :: ts)).foldlM take? (.want .value stack) =
      (place (.array (ns.map fun (n : Nat) => .int n)) stack).bind fun p => ts.foldlM take? p := by
  cases ns with
  | nil => exact absurd rfl hn
  | cons n ns =>
    obtain ⟨us, hu⟩ : ∃ us, listed (n :: ns) = .word (.int n) :: us := by
      cases ns <;> exact ⟨_, rfl⟩
    have ho : take? (.want .value stack) .openArray = some (.want .item (.array [] :: stack)) := rfl
    have hi : take? (.want .item (.array [] :: stack)) (.word (.int n)) =
        take? (.want .value (.array [] :: stack)) (.word (.int n)) := if_pos hd
    have h : (listed (n :: ns) ++ .closeArray :: ts).foldlM take?
        (.want .value (.array [] :: stack)) = _ := foldlM_listed hn
    rw [hu, List.cons_append, List.foldlM_cons, ← hi] at h
    rw [hu, List.cons_append, List.foldlM_cons, ho]
    exact h

/-- An object whose one member is an array of numbers is read as it was written. -/
theorem read?_object (hp : ∀ c ∈ name, isPlain c = true) (hs : ∀ n ∈ ns, Short n) (hn : ns ≠ []) :
    read? ('\x7b' :: '"' :: (name ++ '"' :: ':' :: '[' ::
      ([','].intercalate (ns.map (Nat.toDigits 10)) ++ [']', '\x7d']))) =
      some (.object [(String.ofList name, .array (ns.map fun (n : Nat) => .int n))]) := by
  have hscan : scan .between ('\x7b' :: '"' :: (name ++ '"' :: ':' :: '[' ::
      ([','].intercalate (ns.map (Nat.toDigits 10)) ++ [']', '\x7d']))) =
      some (.openObject :: .text (String.ofList name) :: .colon :: .openArray ::
        (listed ns ++ .closeArray :: [.closeObject])) := by
    rw [scan_punctuation (t := .openObject) rfl, scan_text hp, scan_punctuation (t := .colon) rfl,
      scan_punctuation (t := .openArray) rfl, scan_listed hs hn,
      scan_punctuation (t := .closeObject) rfl]
    simp [scan, finish]
  have hopen : ∀ us : List Token,
      (.openObject :: .text (String.ofList name) :: .colon :: us).foldlM take? (.want .value []) =
        us.foldlM take? (.want .value [.member [] (String.ofList name)]) := fun _ => rfl
  rw [read?, hscan]
  simp only [Option.bind_eq_bind, Option.bind_some, hopen]
  rw [foldlM_openArray hn (by simp [maxDepth])]
  rfl

end Residue256.Json
