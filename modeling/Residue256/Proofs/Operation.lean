import Residue256.Proofs.Operand.Combined

namespace Residue256

open Fallible

namespace Answer

def Sound : Answer → Prop
  | value r => Gives Operand.Sound r
  | table rows => ∀ row ∈ rows, Gives Operand.Sound row.2
  | reading r => Gives (fun ys => ∀ y ∈ ys, y.Reduced) r.result

end Answer

namespace Reading

variable {settings : Settings} {supply : Supply} {seen : List Scalar} {rows : Items}
  {column target : Operand}

theorem gives_readOn (t : Target) (hr : rows.Sound) (hs : ∀ y ∈ seen, y.Reduced) :
    Gives (fun ys => ∀ y ∈ ys, y.Reduced) (readOn t seen rows).result := by
  -- The scalars that are kept for the end are reduced, and a row adds one that is reduced.
  induction rows generalizing seen with
  | nil =>
    rw [readOn, complete]
    split
    · trivial
    · exact fun y hy => hs y (List.mem_reverse.mp hy)
  | cons i rest ih =>
    cases i with
    | error e => trivial
    | ok x =>
      have hc := t.gives_convert? (hr x List.mem_cons_self)
      rw [readOn.eq_def]
      dsimp only
      split
      · trivial
      · rename_i y hy
        rw [hy] at hc
        exact ih hr.tail (List.forall_mem_cons.mpr ⟨hc y rfl, hs⟩)
      · rw [outside]
        split <;> trivial
      · trivial

theorem gives_ofOperand (hs : supply.Sound) (hc : column.Sound) :
    Gives (fun ys => ∀ y ∈ ys, y.Reduced) (ofOperand settings supply column target).result := by
  have hr := Supply.gives_items hs hc
  rw [ofOperand.eq_def]
  dsimp only
  split
  · trivial
  · trivial
  · rename_i t rows _ hi
    rw [hi] at hr
    exact gives_readOn t hr (List.forall_mem_nil _)

end Reading

namespace Operand

theorem sound_constants (settings : Settings) : ∀ e ∈ constants settings, e.2.Sound := by
  simp only [constants, List.forall_mem_cons, sound_number, sound_text, true_and]
  exact ⟨sound_plain (by decide), sound_plain (by decide), sound_plain (by decide),
    List.forall_mem_nil _⟩

variable {a : Operand}

theorem gives_render : Gives Sound (a.render.map text) :=
  (gives_any a.render).map fun _ _ => sound_text _

theorem sound_inspect (ha : a.Sound) : a.inspect.Sound := by
  cases a with
  | scalar y =>
    simp only [inspect, Answer.Sound, List.forall_mem_cons]
    exact ⟨sound_number _, gives_toWords, gives_isNegative, gives_signed, gives_toWhole ha,
      gives_render, List.forall_mem_nil _⟩
  | int256 h =>
    simp only [inspect, Answer.Sound, List.forall_mem_cons]
    exact ⟨gives_toParts, gives_toInt ha, gives_isNegative, gives_wrappingNeg ha, gives_toBytes ha,
      gives_toWhole ha, gives_render, List.forall_mem_nil _⟩
  | record r =>
    simp only [inspect, Answer.Sound, List.forall_mem_cons]
    exact ⟨sound_tuple.mpr (sound_nats _), gives_toInt ha, gives_toTable, gives_toJson,
      gives_render, sound_text _, List.forall_mem_nil _⟩
  | _ => trivial

end Operand

namespace Operation

variable {settings : Settings} {supply : Supply} {op : Operation} {args : List Operand}
  {a b : Operand}

theorem gives_truth (r : Except Fault Bool) : Gives Operand.Sound (r.map Operand.truth) :=
  (gives_any r).map fun _ _ => Operand.sound_number _

theorem gives_constantsTable : Gives Operand.Sound (constantsTable settings) := by
  obtain ⟨least, greatest, hw, hl, hg, -⟩ := Field.curve25519.exists_window_eq_ok
  rw [constantsTable, windowConstants, hw]
  apply Operand.sound_table.mpr
  intro e he
  obtain he | he := List.mem_append.mp he
  · exact Operand.sound_constants settings e he
  · obtain rfl | rfl := List.mem_pair.mp he
    · exact Operand.sound_plain hl
    · exact Operand.sound_plain hg

theorem sound_arithmeticTable (ha : a.Sound) (hb : b.Sound) :
    (Answer.table (arithmeticTable a b)).Sound := by
  simp only [Answer.Sound, arithmeticTable, List.forall_mem_cons]
  exact ⟨Operand.gives_combine ha hb, Operand.gives_combine ha hb, Operand.gives_combine ha hb,
    List.forall_mem_nil _⟩

theorem sound_comparisonTable : (Answer.table (comparisonTable a b)).Sound := by
  intro row hr
  obtain ⟨c, -, rfl⟩ := List.mem_map.mp hr
  exact gives_truth _

theorem sound_answer (ha : ∀ a ∈ args, a.Sound)
    (hw : op = .int256OfParts → ∀ a ∈ args, a.whole?.isSome) : (op.answer args).Sound := by
  rw [answer.eq_def]
  split
  · exact Operand.gives_describe (ha _ (by simp))
  · exact Operand.gives_fieldOfName
  · exact Operand.gives_makeScalar
  · exact Operand.gives_makeScalar
  · exact Operand.gives_int256OfParts (hw rfl _ (by simp)) (hw rfl _ (by simp))
  · exact Operand.gives_int256OfNumber
  · exact Operand.gives_int256OfBytes
  · exact Operand.gives_toWords
  · exact Operand.gives_signed
  · exact Operand.gives_toParts
  · exact Operand.gives_toBytes (ha _ (by simp))
  · exact Operand.gives_wrappingNeg (ha _ (by simp))
  · exact Operand.gives_isNegative
  · exact Operand.gives_toInt (ha _ (by simp))
  · exact Operand.gives_toTable
  · exact Operand.gives_toJson
  · exact Operand.gives_toWhole (ha _ (by simp))
  · exact Operand.gives_render
  · exact Operand.sound_inspect (ha _ (by simp))
  · exact Operand.gives_neg
  · exact Operand.gives_combine (ha _ (by simp)) (ha _ (by simp))
  · exact sound_arithmeticTable (ha _ (by simp)) (ha _ (by simp))
  · exact gives_truth _
  · exact sound_comparisonTable
  · exact gives_truth _
  · exact Operand.gives_toInt256 (ha _ (by simp))
  · exact Operand.gives_toScalar? (ha _ (by simp))
  · exact Operand.gives_toScalar (ha _ (by simp))
  · exact Operand.gives_window
  · exact Operand.gives_toRecord (ha _ (by simp))
  · exact Operand.gives_recordOfJson
  · exact Operand.gives_assign
  · exact Operand.gives_ofBuffer
  · trivial
  · trivial

theorem gives_sorted (hs : supply.Sound) (ha : a.Sound) :
    Gives Operand.Sound (sorted supply a).result := by
  apply Supply.gives_read hs ha
  intro is hi
  apply ((Items.gives_gather hi).bind fun _ => Operand.gives_sort).map
  exact fun ys hy => Operand.sound_list.mpr hy

theorem gives_extremesOf (hs : supply.Sound) (ha : a.Sound) :
    Gives Operand.Sound (extremesOf supply a).result := by
  apply (Supply.gives_read hs ha fun _ => Operand.gives_extreme).bind
  intro x hx
  apply (Supply.gives_read (hs.after _) ha fun _ => Operand.gives_extreme).bind
  intro y hy
  exact Operand.sound_list.mpr (by simp [hx, hy])

theorem gives_distinctOf (hs : supply.Sound) (ha : a.Sound) :
    Gives Operand.Sound (distinctOf supply a).result :=
  Supply.gives_read hs ha fun is _ =>
    (gives_any (Operand.distinct is).1).map fun _ _ => Operand.sound_number _

theorem gives_isInOf (hs : supply.Sound) (hb : b.Sound) :
    Gives Operand.Sound (isInOf supply a b).result :=
  Supply.gives_read hs hb fun _ _ => gives_truth _

theorem sound_readUnder (hs : supply.Sound) (ha : a.Sound) :
    (readUnder supply b a args).answer.Sound := by
  rw [readUnder.eq_def]
  split
  · trivial
  · exact Reading.gives_ofOperand hs ha
  · exact Reading.gives_ofOperand hs ha
  · trivial

/-- What an operation answers is sound where all that it is given is sound. -/
theorem sound_apply (hs : supply.Sound) (ha : ∀ a ∈ args, a.Sound)
    (hw : op = .int256OfParts → ∀ a ∈ args, a.whole?.isSome) :
    (op.apply settings supply args).answer.Sound := by
  rw [apply.eq_def]
  split
  · exact gives_constantsTable
  · exact Operand.gives_scalarOfWords hs (ha _ (by simp))
  · exact gives_sorted hs (ha _ (by simp))
  · exact gives_extremesOf hs (ha _ (by simp))
  · exact Supply.gives_read hs (ha _ (by simp)) fun _ => Operand.gives_sum
  · exact gives_distinctOf hs (ha _ (by simp))
  · exact gives_isInOf hs (ha _ (by simp))
  · exact Operand.gives_recordOfLimbs hs (ha _ (by simp))
  · exact Operand.gives_recordOfValue hs (ha _ (by simp))
  · exact Operand.gives_mapItems hs (ha _ (by simp)) fun _ => Operand.gives_toInt256
  · exact Operand.gives_mapItems hs (ha _ (by simp)) fun _ => Operand.gives_toRecord
  · exact Operand.gives_toBuffer hs (ha _ (by simp))
  · exact Reading.gives_ofOperand hs (ha _ (by simp))
  · exact Reading.gives_ofOperand hs (ha _ (by simp))
  · exact sound_readUnder hs (ha _ (by simp))
  · exact sound_answer ha hw

end Operation

end Residue256
