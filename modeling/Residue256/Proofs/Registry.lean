import Mathlib.Data.List.Basic
import Residue256.Registry

namespace Residue256

namespace Text

variable {s t : String} {c : Char}

theorem rows_beyond_ascii : ∀ r ∈ rows,
    (r.small + (r.last - r.first) < 0xD800 ∨
      0xDFFF < r.small ∧ r.small + (r.last - r.first) < 0x110000) ∧
    (0x80 ≤ r.small ∨ r.small = 'k'.toNat ∧ r.first = r.last) := by
  decide +kernel

theorem smallForm_of_not_ascii (h : 0x80 ≤ c.toNat) : (smallForm c.toNat).isValidChar ∧
    (0x80 ≤ smallForm c.toNat ∨ smallForm c.toNat = 'k'.toNat) := by
  rw [smallForm]
  split
  · rename_i r hr
    obtain ⟨hv, hs⟩ := rows_beyond_ascii r (List.mem_of_find?_eq_some hr)
    have hh := List.find?_some hr
    simp only [Row.holds, Bool.and_eq_true, decide_eq_true_eq] at hh
    rw [Nat.isValidChar]
    constructor <;> omega
  · exact ⟨c.valid, .inl h⟩

theorem exists_mem_lowered (h : 0x80 ≤ c.toNat) : ∃ d ∈ lowered c, 0x80 ≤ d.toNat ∨ d = 'k' := by
  rw [lowered, if_neg (Nat.not_lt.mpr h)]
  split
  · exact ⟨'\u0307', by simp, .inl (by decide)⟩
  · obtain ⟨hv, hs⟩ := smallForm_of_not_ascii h
    refine ⟨_, List.mem_singleton_self _, hs.imp (fun hs => ?_) fun hs => ?_⟩
    · rw [Char.ofNat, dif_pos hv]
      exact hs
    · rw [hs, Char.ofNat_toNat]

theorem toLower_of_not_ascii (h : 0x80 ≤ c.toNat) : c.toLower = c := by
  refine dif_neg fun ⟨_, hz⟩ => ?_
  have hz : c.toNat ≤ 'Z'.toNat := hz
  exact absurd (Nat.le_trans h hz) (by decide)

theorem toList_toLower : s.toLower.toList = s.toList.map Char.toLower := String.toList_map

theorem lower_of_ascii (h : ∀ c ∈ s.toList, c.toNat < 0x80) : lower s = s.toLower := by
  have hl : s.toList.flatMap lowered = s.toList.map Char.toLower := by
    rw [List.map_eq_flatMap]
    exact List.flatMap_congr fun c hc => by rw [lowered, if_pos (h c hc)]
  rw [lower, hl, ← toList_toLower, String.ofList_toList]

theorem ascii_of_lower (h : ∀ d ∈ (lower s).toList, d.toNat < 0x80 ∧ d ≠ 'k') :
    ∀ c ∈ s.toList, c.toNat < 0x80 := by
  rw [lower, String.toList_ofList, List.forall_mem_flatMap] at h
  intro c hc
  refine Nat.lt_of_not_le fun hn => ?_
  obtain ⟨d, hd, hp⟩ := exists_mem_lowered hn
  obtain ⟨ha, hk⟩ := h c hc d hd
  exact hp.elim (Nat.not_le.mpr ha) hk

theorem ascii_of_toLower (h : ∀ d ∈ s.toLower.toList, d.toNat < 0x80) :
    ∀ c ∈ s.toList, c.toNat < 0x80 := by
  rw [toList_toLower, List.forall_mem_map] at h
  intro c hc
  refine Nat.lt_of_not_le fun hn => ?_
  have ha := h c hc
  rw [toLower_of_not_ascii hn] at ha
  exact Nat.not_le.mpr ha hn

/-- To be put into such a text, it is enough to look at the case of ASCII letters. -/
theorem lower_eq_iff (ht : ∀ d ∈ t.toList, d.toNat < 0x80 ∧ d ≠ 'k') :
    lower s = t ↔ s.toLower = t := by
  constructor
  · rintro rfl
    exact (lower_of_ascii (ascii_of_lower ht)).symm
  · rintro rfl
    exact lower_of_ascii (ascii_of_toLower fun d hd => (ht d hd).1)

-- A name with a `k` could be written with the sign for kelvins as well.
example : lower "\u212A" = "k" := by decide

end Text

theorem Fault.message_unknownField (name : String) : (unknownField name).message =
    some s!"Unknown scalar field '{name}' (known: bn254, curve25519, dory)" := by
  have h : "' (known: " ++ (knownFields ++ ")") = "' (known: bn254, curve25519, dory)" := by decide
  rw [message, String.append_assoc, String.append_assoc]
  exact congrArg (fun t => some (_ ++ t)) h

namespace Field

variable {name : String} {F : Field} {e : Fault}

theorem plain_of_mem_registered :
    ∀ r ∈ registered, ∀ d ∈ r.1.toList, d.toNat < 0x80 ∧ d ≠ 'k' := by
  simp [registered]

theorem lookup_eq_some_iff_mem {l : List (String × Field)} {key : String}
    (h : (l.map Prod.fst).Nodup) : l.lookup key = some F ↔ (key, F) ∈ l := by
  rw [List.lookup_eq_some_iff]
  constructor
  · rintro ⟨_, _, rfl, -⟩
    exact List.mem_append_right _ List.mem_cons_self
  · intro hm
    obtain ⟨l₁, l₂, rfl⟩ := List.append_of_mem hm
    refine ⟨l₁, l₂, rfl, fun r hr => bne_iff_ne.mpr ?_⟩
    rw [List.map_append, List.nodup_append] at h
    exact (h.2.2 r.1 (List.mem_map_of_mem hr) key List.mem_cons_self).symm

theorem ofName_eq_ok_iff_lookup :
    ofName name = .ok F ↔ registered.lookup (Text.lower name) = some F := by
  rw [ofName]
  cases registered.lookup (Text.lower name) <;> simp

/-- A text names a field just if it is the name of the field but for the case of ASCII letters. -/
theorem ofName_eq_ok_iff : ofName name = .ok F ↔ (name.toLower, F) ∈ registered := by
  rw [ofName_eq_ok_iff_lookup, lookup_eq_some_iff_mem (by decide)]
  constructor
  · intro hm
    have hl : name.toLower = Text.lower name :=
      (Text.lower_eq_iff (plain_of_mem_registered _ hm)).mp rfl
    rwa [hl]
  · intro hm
    have hl : Text.lower name = name.toLower :=
      (Text.lower_eq_iff (plain_of_mem_registered _ hm)).mpr rfl
    rwa [hl]

theorem eq_unknownField_of_ofName (h : ofName name = .error e) : e = .unknownField name := by
  rw [ofName] at h
  split at h
  · cases h
  · exact (Except.error.inj h).symm

end Field

end Residue256
