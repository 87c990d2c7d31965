import Residue256.Proofs.Int256.Order
import Residue256.Proofs.Pipeline

namespace Residue256

variable {c : Comparison} {x y : Scalar} {xs ns ps : List Scalar} {F : Field}

namespace Scalar

theorem signed_lt_iff (hf : x.field = y.field) (hx : x.Reduced) (hy : y.Reduced) :
    x.signed < y.signed ↔ (x.isNegative = true ∧ y.isNegative = false) ∨
      (x.isNegative = y.isNegative ∧ x.value < y.value) := by
  have hsx : x.signed =
      if x.isNegative then (x.value : Int) - y.field.modulus.value else x.value := by
    rw [signed, hf]
  rw [Reduced] at hx hy
  rw [hf] at hx
  rw [hsx, signed]
  -- The negative scalars are all moved by the one modulus, and so below those that stay.
  cases x.isNegative <;> cases y.isNegative <;>
    simp only [if_true, Bool.false_eq_true, if_false, reduceCtorEq, and_true, and_false, true_and,
      false_and, or_false, false_or, iff_true, iff_false] <;> omega

theorem signed_inj (hf : x.field = y.field) (hx : x.Reduced) (hy : y.Reduced) :
    x.signed = y.signed ↔ x.value = y.value := by
  refine ⟨fun h => ?_, fun h => ?_⟩
  · rw [← ofInt_signed hx, ← ofInt_signed hy, hf, h]
  · rw [← ofInt_value hx, ← ofInt_value hy, hf, h]

theorem value_lt_iff_of_ne (hf : x.field = y.field) (hs : x.isNegative ≠ y.isNegative) :
    x.value < y.value ↔ x.isNegative = false ∧ y.isNegative = true := by
  cases h : x.isNegative with
  | false =>
    have h' : y.isNegative = true := by simpa [h] using hs
    refine iff_of_true ?_ ⟨rfl, h'⟩
    rw [← Bool.not_eq_true, isNegative_iff, hf] at h
    rw [isNegative_iff] at h'
    omega
  | true =>
    have h' : y.isNegative = false := by simpa [h] using hs
    refine iff_of_false ?_ (by simp)
    rw [isNegative_iff, hf] at h
    rw [← Bool.not_eq_true, isNegative_iff] at h'
    omega

theorem onInts_signed_of_eq (hf : x.field = y.field) (hx : x.Reduced) (hy : y.Reduced)
    (hs : x.isNegative = y.isNegative) : c.onInts x.signed y.signed = c.onInts x.value y.value := by
  apply Comparison.onInts_congr
  · rw [signed_lt_iff hf hx hy, Int.ofNat_lt]
    simp [hs]
  · rw [signed_inj hf hx hy, Int.natCast_inj]

theorem onInts_signed_of_ne (hf : x.field = y.field) (hx : x.Reduced) (hy : y.Reduced)
    (hs : x.isNegative ≠ y.isNegative) :
    c.onInts x.signed y.signed = c.swap.onInts x.value y.value := by
  rw [← Comparison.onInts_swap (c := c.swap), Comparison.swap_swap]
  apply Comparison.onInts_congr
  · rw [signed_lt_iff hf hx hy, or_iff_left fun h => hs h.1, Int.ofNat_lt,
      value_lt_iff_of_ne hf.symm hs.symm, and_comm]
  · rw [signed_inj hf hx hy, Int.natCast_inj, eq_comm]

theorem pairwise_signed {s : Bool} (hx : ∀ x ∈ xs, x.field = F ∧ x.Reduced)
    (hs : ∀ x ∈ xs, x.isNegative = s) (ho : xs.Pairwise fun x y => x.value ≤ y.value) :
    xs.Pairwise fun x y => x.signed ≤ y.signed := by
  apply ho.imp_of_mem
  intro x y hm hm' h
  have hf : x.field = y.field := (hx x hm).1.trans (hx y hm').1.symm
  have he : x.isNegative = y.isNegative := (hs x hm).trans (hs y hm').symm
  have hi := onInts_signed_of_eq (c := .le) hf (hx x hm).2 (hx y hm').2 he
  exact (decide_eq_decide.mp hi).mpr (Int.ofNat_le.mpr h)

theorem pairwise_signed_append (hn : ∀ x ∈ ns, (x.field = F ∧ x.Reduced) ∧ x.isNegative = true)
    (hp : ∀ x ∈ ps, (x.field = F ∧ x.Reduced) ∧ x.isNegative = false)
    (hn' : ns.Pairwise fun x y => x.value ≤ y.value)
    (hp' : ps.Pairwise fun x y => x.value ≤ y.value) :
    (ns ++ ps).Pairwise fun x y => x.signed ≤ y.signed := by
  rw [List.pairwise_append]
  refine ⟨pairwise_signed (fun x hx => (hn x hx).1) (fun x hx => (hn x hx).2) hn',
    pairwise_signed (fun x hx => (hp x hx).1) (fun x hx => (hp x hx).2) hp', fun x hx y hy => ?_⟩
  obtain ⟨⟨hf, hr⟩, hs⟩ := hn x hx
  obtain ⟨⟨hf', hr'⟩, hs'⟩ := hp y hy
  exact Int.le_of_lt ((signed_lt_iff (hf.trans hf'.symm) hr hr').mpr (.inl ⟨hs, hs'⟩))

end Scalar

namespace Operand

theorem exists_sorted_plain {vs : List Int256} (supply : Supply) (hv : ∀ v ∈ vs, v.Valid) :
    ∃ ws : List Int256,
      (Operation.sorted supply (list (vs.map plain))).result = .ok (list (ws.map plain)) ∧
      ws.Perm vs ∧ ws.Pairwise fun v w => v.toInt ≤ w.toInt := by
  obtain ⟨ws, hs, hp, hk⟩ := exists_sorted_map supply fun v hm w hm' =>
    compare_rank_of_holds v.holds_toHalves (hv v hm) w.holds_toHalves (hv w hm')
  exact ⟨ws, hs, hp, hk⟩

/-- Sorting the scalars `xs` gives `ys`: the same ones, in the order of their residues. -/
structure SortsTo (supply : Supply) (xs ys : List Scalar) : Prop where
  result : (Operation.sorted supply (list (xs.map scalar))).result = .ok (list (ys.map scalar))
  perm : ys.Perm xs
  order : ys.Pairwise fun x y => x.value ≤ y.value

/-- The column of the scalars `xs` is `vs`, the values of their signed readings row by row. -/
structure ConvertsTo (supply : Supply) (xs : List Scalar) (vs : List Int256) : Prop where
  result : (mapItems supply toInt256 (list (xs.map scalar))).result = .ok (list (vs.map plain))
  valid : ∀ v ∈ vs, v.Valid
  toInt_eq : vs.map Int256.toInt = xs.map Scalar.signed

theorem exists_sortsTo (supply : Supply) (hf : ∀ x ∈ xs, x.field = F) :
    ∃ ys, SortsTo supply xs ys := by
  have hr : ∀ x ∈ xs, ∀ y ∈ xs, x.field.Related y.field := by
    intro x hx y hy
    rw [hf x hx, hf y hy]
    exact .inl (Field.refines_refl F)
  obtain ⟨ys, h, hp, ho⟩ := exists_sorted_scalars supply hr
  exact ⟨ys, h, hp, ho⟩

theorem SortsTo.eq {supply : Supply} {ys zs : List Scalar} (h : SortsTo supply xs ys)
    (hf : ∀ x ∈ xs, x.field = F) (hp : zs.Perm xs) (ho : zs.Pairwise fun x y => x.value ≤ y.value) :
    ys = zs := by
  refine List.Perm.eq_of_pairwise ?_ h.order ho (h.perm.trans hp.symm)
  rintro ⟨G, m⟩ ⟨H, n⟩ hx hy hmn hnm
  obtain rfl : G = F := hf _ (h.perm.subset hx)
  obtain rfl : H = G := hf _ (hp.subset hy)
  exact congrArg (Scalar.mk H) (Nat.le_antisymm hmn hnm)

theorem exists_convertsTo (supply : Supply) (hx : ∀ x ∈ xs, x.Reduced) :
    ∃ vs, ConvertsTo supply xs vs := by
  obtain ⟨vs, h, hv, hn⟩ := exists_mapItems_toInt256 supply hx
  exact ⟨vs, h, hv, hn⟩

theorem ConvertsTo.eq {supply : Supply} {vs ws : List Int256} (h : ConvertsTo supply xs vs)
    (hw : ∀ w ∈ ws, w.Valid) (hn : ws.map Int256.toInt = xs.map Scalar.signed) : vs = ws :=
  eq_of_map_toInt h.valid hw (h.toInt_eq.trans hn.symm)

theorem append_perm {supply : Supply} (hn : SortsTo supply (xs.filter Scalar.isNegative) ns)
    (hp : SortsTo supply (xs.filter fun x => !x.isNegative) ps) : (ns ++ ps).Perm xs :=
  (hn.perm.append hp.perm).trans (List.filter_append_perm _ xs)

theorem sorted_column {supply : Supply} {vs ws : List Int256}
    (hx : ∀ x ∈ xs, x.field = F ∧ x.Reduced)
    (hn : SortsTo supply (xs.filter Scalar.isNegative) ns)
    (hp : SortsTo supply (xs.filter fun x => !x.isNegative) ps)
    (hv : ConvertsTo supply xs vs) (hw : ConvertsTo supply (ns ++ ps) ws) :
    (Operation.sorted supply (list (vs.map plain))).result = .ok (list (ws.map plain)) ∧
      ws.Perm vs ∧ ws.Pairwise fun v w => v.toInt ≤ w.toInt := by
  have hxn : ∀ x ∈ ns, (x.field = F ∧ x.Reduced) ∧ x.isNegative = true := by
    intro x hm
    obtain ⟨hm, hs⟩ := List.mem_filter.mp (hn.perm.subset hm)
    exact ⟨hx x hm, hs⟩
  have hxp : ∀ x ∈ ps, (x.field = F ∧ x.Reduced) ∧ x.isNegative = false := by
    intro x hm
    obtain ⟨hm, hs⟩ := List.mem_filter.mp (hp.perm.subset hm)
    exact ⟨hx x hm, by simpa using hs⟩
  have ho : (ns ++ ps).Pairwise fun x y => x.signed ≤ y.signed :=
    Scalar.pairwise_signed_append hxn hxp hn.order hp.order
  obtain ⟨us, hus, hu, huo⟩ := exists_sorted_plain supply hv.valid
  -- Both are in the order of the same integers, and valid values are known by theirs.
  obtain rfl : us = ws := by
    apply eq_of_map_toInt (fun u hm => hv.valid u (hu.subset hm)) hw.valid
    apply List.Perm.eq_of_pairwise (fun _ _ _ _ => Int.le_antisymm) (List.pairwise_map.mpr huo)
    · rw [hw.toInt_eq]
      exact List.pairwise_map.mpr ho
    · rw [hw.toInt_eq]
      exact (hu.map _).trans (hv.toInt_eq ▸ ((append_perm hn hp).map _).symm)
  exact ⟨hus, hu, huo⟩

/-- The 256-bit integer of one scalar is less than that of another one if only the first is
negative, or if both have the same sign and the first is less than the second. So scalars with the
same sign compare as their 256-bit integers do, and those with different signs the other way round.
A sorted column is that of the sorted negative scalars followed by the others, sorted as well. -/
theorem conversion_orders_by_sign (supply : Supply) (F : Field) :
    (∀ x y : Scalar, x.field = F → y.field = F → x.Reduced → y.Reduced → ∃ v w : Int256,
      (scalar x).toInt256 = .ok (plain v) ∧ (scalar y).toInt256 = .ok (plain w) ∧
      (compare .lt (plain v) (plain w) = .ok true ↔
        (x.isNegative = true ∧ y.isNegative = false) ∨
          (x.isNegative = y.isNegative ∧ compare .lt (scalar x) (scalar y) = .ok true)) ∧
      compare .eq (plain v) (plain w) = compare .eq (scalar x) (scalar y) ∧
      (x.isNegative = y.isNegative →
        ∀ c, compare c (plain v) (plain w) = compare c (scalar x) (scalar y)) ∧
      (x.isNegative ≠ y.isNegative →
        ∀ c, compare c (plain v) (plain w) = compare c.swap (scalar x) (scalar y))) ∧
    ∀ xs : List Scalar, (∀ x ∈ xs, x.field = F ∧ x.Reduced) →
      ∃ (ns ps : List Scalar) (vs ws : List Int256),
        SortsTo supply (xs.filter Scalar.isNegative) ns ∧
        SortsTo supply (xs.filter fun x => !x.isNegative) ps ∧
        ConvertsTo supply xs vs ∧ ConvertsTo supply (ns ++ ps) ws ∧
        (Operation.sorted supply (list (vs.map plain))).result = .ok (list (ws.map plain)) ∧
        ws.Perm vs ∧ ws.Pairwise fun v w => v.toInt ≤ w.toInt := by
  refine ⟨fun x y hfx hfy hx hy => ?_, fun xs hx => ?_⟩
  · have hf : x.field = y.field := hfx.trans hfy.symm
    have hr : x.field.Related y.field := hf ▸ .inl (Field.refines_refl x.field)
    obtain ⟨v, h, hv, hn⟩ := exists_toInt256_eq_ok hx
    obtain ⟨w, h', hw, hn'⟩ := exists_toInt256_eq_ok hy
    have hi : ∀ c, compare c (plain v) (plain w) = .ok (c.onInts x.signed y.signed) := fun c => by
      rw [compare_int256 v.holds_toHalves hv w.holds_toHalves hw, hn, hn']
    have hc : ∀ c, compare c (scalar x) (scalar y) = .ok (c.onInts x.value y.value) := fun c => by
      rw [compare_scalar, Scalar.compare_of_related hr]
    refine ⟨v, w, h, h', ?_, ?_, fun hs c => ?_, fun hs c => ?_⟩
    · simp only [hi, hc, Except.ok.injEq, Comparison.onInts, decide_eq_true_eq, Int.ofNat_lt]
      exact Scalar.signed_lt_iff hf hx hy
    · simp only [hi, hc, Comparison.onInts, Scalar.signed_inj hf hx hy, Int.natCast_inj]
    · rw [hi, hc, Scalar.onInts_signed_of_eq hf hx hy hs]
    · rw [hi, hc, Scalar.onInts_signed_of_ne hf hx hy hs]
  · have hm : ∀ x ∈ xs, x.field = F := fun x h => (hx x h).1
    have hf : ∀ p : Scalar → Bool, ∃ ys, SortsTo supply (xs.filter p) ys := fun p =>
      exists_sortsTo supply fun x h => hm x (List.mem_of_mem_filter h)
    obtain ⟨ns, hn⟩ := hf Scalar.isNegative
    obtain ⟨ps, hp⟩ := hf fun x => !x.isNegative
    obtain ⟨vs, hv⟩ := exists_convertsTo supply fun x h => (hx x h).2
    obtain ⟨ws, hw⟩ := exists_convertsTo supply fun x h =>
      (hx x ((append_perm hn hp).subset h)).2
    exact ⟨ns, ps, vs, ws, hn, hp, hv, hw, sorted_column hx hn hp hv hw⟩

theorem conversion_orders_by_sign_seven :
    let F : Field := .under (.root "a" "Seven" { value := 7 }) "b" "Below" none
    let x : Scalar := ⟨F, 2⟩
    let y : Scalar := ⟨F, 4⟩
    let sorted := fun xs => (Operation.sorted (fun _ => []) (list xs)).result
    let column := fun xs => (mapItems (fun _ => []) toInt256 (list (xs.map scalar))).result
    let minusThree : Int256 := ⟨2 ^ 128 - 3, -1⟩
    let minusOne : Int256 := ⟨2 ^ 128 - 1, -1⟩
    (∃ v w : Int256, (scalar x).toInt256 = .ok (plain v) ∧ (scalar y).toInt256 = .ok (plain w) ∧
      compare .ge (plain v) (plain w) = .ok true ∧ compare .ge (scalar x) (scalar y) = .ok false) ∧
    sorted [scalar ⟨F, 6⟩, scalar y] = .ok (list [scalar y, scalar ⟨F, 6⟩]) ∧
    sorted [scalar x, scalar ⟨F, 0⟩] = .ok (list [scalar ⟨F, 0⟩, scalar x]) ∧
    column [x, ⟨F, 6⟩, y, ⟨F, 0⟩] = .ok (list ([⟨2, 0⟩, minusOne, minusThree, .zero].map plain)) ∧
    column [y, ⟨F, 6⟩, ⟨F, 0⟩, x] = .ok (list ([minusThree, minusOne, .zero, ⟨2, 0⟩].map plain)) ∧
    sorted ([⟨2, 0⟩, minusOne, minusThree, .zero].map plain) =
      .ok (list ([minusThree, minusOne, .zero, ⟨2, 0⟩].map plain)) := by
  intro F x y sorted column minusThree minusOne
  obtain ⟨h₁, h₂⟩ := conversion_orders_by_sign (fun _ => []) F
  obtain ⟨v, w, h, h', -, -, -, hc⟩ := h₁ x y rfl rfl (by decide) (by decide)
  have hn : [x, ⟨F, 6⟩, y, ⟨F, 0⟩].filter Scalar.isNegative = [⟨F, 6⟩, y] := by decide
  have hp : [x, ⟨F, 6⟩, y, ⟨F, 0⟩].filter (fun x => !x.isNegative) = [x, ⟨F, 0⟩] := by decide
  obtain ⟨ns, ps, vs, ws, hns, hps, hvs, hws, hs, -⟩ := h₂ [x, ⟨F, 6⟩, y, ⟨F, 0⟩] (by decide)
  rw [hn] at hns
  rw [hp] at hps
  obtain rfl : ns = [y, ⟨F, 6⟩] := hns.eq (F := F) (by simp [y]) (.swap ..) (by simp [y])
  obtain rfl : ps = [⟨F, 0⟩, x] := hps.eq (F := F) (by simp [x]) (.swap ..) (by simp [x])
  obtain rfl : vs = [⟨2, 0⟩, minusOne, minusThree, .zero] := hvs.eq (by decide) (by decide)
  obtain rfl : ws = [minusThree, minusOne, .zero, ⟨2, 0⟩] := hws.eq (by decide) (by decide)
  exact ⟨⟨v, w, h, h', (hc (by decide) .ge).trans rfl, rfl⟩, hns.result, hps.result, hvs.result,
    hws.result, hs⟩

end Operand

end Residue256
