import Residue256.Proofs.Column

namespace Residue256

open Fallible

namespace Reading

variable {F : Field} {t : Target} {ys : List Scalar} {is rest rows : Items} {k : Int256.Halves}
  {v : Int256} {i : Except Fault Operand} {n : Nat}

def Fits (F : Field) (i : Except Fault Operand) : Prop :=
  ∃ (k : Int256.Halves) (v : Int256), i = .ok (.int256 k) ∧ k.Holds v ∧ F.modulus.InWindow v.toInt

def InRange (rows : Items) : Prop := ∀ k, .ok (.int256 k) ∈ rows → k.InRange

theorem exists_converts (hr : InRange is) (h : ∀ i ∈ is, Fits F i) :
    ∃ ys, List.Forall₂ (Converts (.ofField F)) is ys := by
  apply exists_forall₂
  intro i hi
  obtain ⟨k, v, rfl, hk, hw⟩ := h i hi
  exact ⟨_, converts_of_holds hk ((hr k hi).valid hk) hw⟩

theorem ofRows_error {e : Fault} (h : List.Forall₂ (Converts t) is ys) :
    ofRows t (is ++ .error e :: rest) = stopped e rest := by
  rw [ofRows_append h, readOn]

theorem ofRows_stranger {x : Operand} (h : List.Forall₂ (Converts (.ofField F)) is ys)
    (hx : ∀ k, x ≠ .int256 k) :
    ofRows (.ofField F) (is ++ .ok x :: rest) = stopped .wrongKind rest := by
  have hc : (Target.ofField F).convert? x = .error .wrongKind := by
    rw [Target.convert?, Target.ofField, ok_bind]
    split
    · exact absurd rfl (hx _)
    · rfl
  rw [ofRows_append h, readOn.eq_def]
  simp only [hc]

/-- The halves, whether or not they stand for an integer, come before or after all of the window. -/
def Beyond (F : Field) (k : Int256.Halves) : Prop :=
  ∃ least greatest, F.window = .ok (least, greatest) ∧
    (k.compare .lt least.toHalves || k.compare .gt greatest.toHalves) = true

theorem convert?_fractional (hk : k.value? = none) :
    (Target.ofField F).convert? (.int256 k) = .ok none ∧ Beyond F k ∨
      (Target.ofField F).convert? (.int256 k) = .error .wrongKind ∧ ¬Beyond F k := by
  obtain ⟨least, greatest, hw, -⟩ := Field.exists_window_eq_ok F
  have hb : Beyond F k ↔
      (k.compare .lt least.toHalves || k.compare .gt greatest.toHalves) = true := by
    simp [Beyond, hw]
  simp only [Target.convert?, Target.ofField, ok_bind, hk, hw, hb]
  split
  · exact .inl ⟨rfl, ‹_›⟩
  · exact .inr ⟨rfl, ‹_›⟩

structure Whole (F : Field) (rows : Items) (r : Reading) : Prop where
  scalars : ∃ ys, r.result = .ok ys ∧ List.Forall₂ (fun i y =>
    ∃ x : Operand, i = .ok x ∧ x.toScalar? (.family (.field F)) = .ok (.scalar y)) rows ys
  line : r.log.map LogLine.toText = [s!"DEBUG: converted {rows.length} i256 rows to {F.name}"]
  unread : r.unread = []

/-- A reading that was stopped by row `n`, with some rows left unread. -/
inductive StoppedAt (F : Field) (n : Nat) (rest : Items) :
    Except Fault Operand → Reading → Prop where
  | raised (e : Fault) : StoppedAt F n rest (.error e) ⟨.error e, [], rest⟩
  | stranger (x : Operand) (e : Fault) (hx : ∀ k, x ≠ .int256 k) (he : e.kind = "TypeError") :
    StoppedAt F n rest (.ok x) ⟨.error e, [], rest⟩
  | outside (k : Int256.Halves) (v : Int256) (log : List LogLine) (hk : k.Holds v)
    (hl : log.map LogLine.toText = [s!"DEBUG: row {n} out of range for {F.name}"]) :
    StoppedAt F n rest (.ok (.int256 k)) ⟨.error (.outsideWindow k F (some n)), log, rest⟩
  -- Halves of which one is no integer have a place in the order of the values, but no value. So a
  -- line may be logged before there turns out to be nothing that the fault could name.
  | fractionInside (k : Int256.Halves) (hk : k.value? = none) (hi : ¬Beyond F k) :
    StoppedAt F n rest (.ok (.int256 k)) ⟨.error .wrongKind, [], rest⟩
  | fractionBeyond (k : Int256.Halves) (log : List LogLine) (hk : k.value? = none)
    (hb : Beyond F k)
    (hl : log.map LogLine.toText = [s!"DEBUG: row {n} out of range for {F.name}"]) :
    StoppedAt F n rest (.ok (.int256 k)) ⟨.error .wrongKind, log, rest⟩

theorem stoppedAt_fractional (h : List.Forall₂ (Converts (.ofField F)) is ys)
    (hk : k.value? = none) :
    StoppedAt F is.length rest (.ok (.int256 k))
      (ofRows (.ofField F) (is ++ .ok (.int256 k) :: rest)) := by
  rw [ofRows_append h, h.length_eq]
  obtain ⟨hc, hb⟩ | ⟨hc, hb⟩ := convert?_fractional (F := F) hk
  · have hv : k.value = .error .wrongKind := by rw [Int256.Halves.value, hk]
    rw [readOn_outside hc, List.length_reverse]
    simp only [outside, Target.ofField, Target.outside, hv]
    exact .fractionBeyond k _ hk hb rfl
  · rw [readOn.eq_def]
    simp only [hc]
    exact .fractionInside k hk hb

theorem whole_ofRows (hr : InRange rows) (h : ∀ i ∈ rows, Fits F i) :
    Whole F rows (ofRows (.ofField F) rows) := by
  obtain ⟨ys, hy⟩ := exists_converts hr h
  rw [ofRows_converted hy]
  refine ⟨⟨ys, rfl, hy.imp ?_⟩, rfl, rfl⟩
  rintro _ y ⟨x, rfl, hx⟩
  refine ⟨x, rfl, ?_⟩
  rw [Operand.toScalar?, Target.ofOperand, hx]
  rfl

theorem stoppedAt_ofRows (hr : InRange (is ++ i :: rest)) (h : ∀ j ∈ is, Fits F j)
    (hi : ¬Fits F i) : StoppedAt F is.length rest i (ofRows (.ofField F) (is ++ i :: rest)) := by
  obtain ⟨ys, hy⟩ := exists_converts (fun k hk => hr k (List.mem_append_left _ hk)) h
  -- The reading comes to row `i` with the scalars of the rows before it, and the row decides.
  cases i with
  | error e =>
    rw [ofRows_error hy]
    exact .raised e
  | ok x =>
    by_cases hx : ∃ k, x = .int256 k
    · obtain ⟨k, rfl⟩ := hx
      have hr' : k.InRange := hr k (by simp)
      obtain ⟨v, hk⟩ | hk := hr'.holds_or
      · rw [ofRows_outside hy hk (hr'.valid hk) fun hw => hi ⟨k, v, rfl, hk, hw⟩]
        exact .outside k v _ hk rfl
      · exact stoppedAt_fractional hy hk
    · rw [ofRows_stranger hy (not_exists.mp hx)]
      exact .stranger x _ (not_exists.mp hx) rfl

theorem StoppedAt.unread_eq {r : Reading} (h : StoppedAt F n rest i r) : r.unread = rest := by
  cases h <;> rfl

theorem StoppedAt.failed {r : Reading} (h : StoppedAt F n rest i r) : r.result ≠ .ok ys := by
  cases h <;> simp

theorem fit_or_exists_misfit (F : Field) (rows : Items) : (∀ i ∈ rows, Fits F i) ∨
    ∃ is i rest, rows = is ++ i :: rest ∧ (∀ j ∈ is, Fits F j) ∧ ¬Fits F i := by
  induction rows with
  | nil => exact .inl fun i hi => absurd hi List.not_mem_nil
  | cons i rows ih =>
    by_cases hi : Fits F i
    · obtain h | ⟨is, j, rest, rfl, h, hj⟩ := ih
      · exact .inl (List.forall_mem_cons.mpr ⟨hi, h⟩)
      · exact .inr ⟨i :: is, j, rest, rfl, List.forall_mem_cons.mpr ⟨hi, h⟩, hj⟩
    · exact .inr ⟨[], i, rows, rfl, fun j hj => absurd hj List.not_mem_nil, hi⟩

end Reading

open Reading

/-- A column that can be gone through is read row by row. If every row fits, each becomes the scalar
that it converts into. Otherwise the first row that does not fit stops the reading by what it is: no
row behind it is asked for, and no scalars are returned. -/
theorem column_stops_at_first_misfit (settings : Settings) (supply : Supply) (F : Field)
    (column : Operand) (rows : Items) (hc : supply.items column = .ok rows) (hr : InRange rows) :
    ∃ r : Reading,
      Operation.readColumn.apply settings supply [column, .family (.field F)] =
        ⟨.reading r, supply.taken column r.unread⟩ ∧
      ((∀ i ∈ rows, Fits F i) → Whole F rows r) ∧
      (∀ is i rest, rows = is ++ i :: rest → (∀ j ∈ is, Fits F j) → ¬Fits F i →
        StoppedAt F is.length rest i r ∧
          ∀ s, column = .stream s → supply.taken column r.unread = some (s, is.length + 1)) ∧
      ∀ ys, r.result = .ok ys → ∀ i ∈ rows, Fits F i := by
  refine ⟨ofRows (.ofField F) rows, ?_, whole_ofRows hr, ?_, ?_⟩
  · simp only [Operation.apply, Operation.Outcome.ofColumn, ofOperand, hc, Target.ofOperand]
  · rintro is i rest rfl h hi
    have hs := stoppedAt_ofRows hr h hi
    refine ⟨hs, ?_⟩
    rintro s rfl
    have hl : supply s = is ++ i :: rest := Except.ok.inj hc
    rw [hs.unread_eq, Supply.taken, hl, List.length_append, List.length_cons]
    congr 2
    omega
  · intro ys hy
    obtain h | ⟨is, i, rest, rfl, h, hi⟩ := fit_or_exists_misfit F rows
    · exact h
    · exact absurd hy (stoppedAt_ofRows hr h hi).failed

theorem column_stops_at_first_misfit_seven :
    let F : Field := .root "a" "Seven" { value := 7 }
    let rows : Items := [.ok (.plain ⟨3, 0⟩), .ok (.plain ⟨4, 0⟩), .error .lacking]
    ∃ r : Reading,
      Operation.readColumn.apply {} (fun _ => rows) [.stream 2, .family (.field F)] =
        ⟨.reading r, some (2, 2)⟩ ∧
      StoppedAt F 1 [.error .lacking] (.ok (.plain ⟨4, 0⟩)) r := by
  intro F rows
  have hr : InRange rows := by
    intro k hk
    simp only [rows, List.mem_cons, Except.ok.injEq, Operand.int256.injEq, reduceCtorEq,
      List.not_mem_nil, or_false] at hk
    obtain rfl | rfl := hk
    · exact ⟨by decide, by decide⟩
    · exact ⟨by decide, by decide⟩
  have hf : ∀ j ∈ [Except.ok (Operand.plain ⟨3, 0⟩)], Fits F j := by
    intro j hj
    rw [List.mem_singleton] at hj
    exact ⟨_, ⟨3, 0⟩, hj, ⟨rfl, rfl⟩, by decide⟩
  have hm : ¬Fits F (.ok (.plain ⟨4, 0⟩)) := by
    rintro ⟨k, v, hk, hv, hw⟩
    cases hk
    cases hv.value?.symm.trans Int256.Halves.value?_toHalves
    exact absurd hw (by decide)
  obtain ⟨r, h, -, hs, -⟩ :=
    column_stops_at_first_misfit {} (fun _ => rows) F (.stream 2) rows rfl hr
  obtain ⟨hs, ht⟩ := hs [.ok (.plain ⟨3, 0⟩)] _ _ rfl hf hm
  rw [ht 2 rfl] at h
  exact ⟨r, h, hs⟩

end Residue256
