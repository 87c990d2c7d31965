import Residue256.Proofs.Conversion
import Residue256.Proofs.Int256.Bytes

namespace Residue256

open Fallible

namespace Reading

variable {F : Field} {t : Target} {seen ys : List Scalar} {is rest : Items} {k : Int256.Halves}
  {v : Int256} {vs : List Int256}

theorem readOn_converted {x : Operand} {y : Scalar} (h : t.convert? x = .ok (some y)) :
    readOn t seen (.ok x :: rest) = readOn t (y :: seen) rest := by
  rw [readOn.eq_def]
  simp only [h]

theorem readOn_outside (h : t.convert? (.int256 k) = .ok none) :
    readOn t seen (.ok (.int256 k) :: rest) = outside t k seen.length rest := by
  rw [readOn.eq_def]
  simp only [h]

/-- The item is there, and it is converted into the scalar. -/
def Converts (t : Target) (i : Except Fault Operand) (y : Scalar) : Prop :=
  ∃ x, i = .ok x ∧ t.convert? x = .ok (some y)

theorem readOn_append (h : List.Forall₂ (Converts t) is ys) :
    readOn t seen (is ++ rest) = readOn t (ys.reverse ++ seen) rest := by
  induction h generalizing seen with
  | nil => rfl
  | cons hx _ ih =>
    obtain ⟨x, rfl, hx⟩ := hx
    rw [List.cons_append, readOn_converted hx, ih, List.reverse_cons, List.append_assoc,
      List.singleton_append]

theorem ofRows_append (h : List.Forall₂ (Converts t) is ys) :
    ofRows t (is ++ rest) = readOn t ys.reverse rest := by
  rw [ofRows, readOn_append h, List.append_nil]

theorem ofRows_converted (h : List.Forall₂ (Converts (.ofField F)) is ys) :
    ofRows (.ofField F) is = ⟨.ok ys, [.converted is.length F.name], []⟩ := by
  rw [← List.append_nil is, ofRows_append h, readOn, List.reverse_reverse, List.append_nil,
    h.length_eq]
  rfl

theorem ofRows_outside (h : List.Forall₂ (Converts (.ofField F)) is ys) (hk : k.Holds v)
    (hv : v.Valid) (hw : ¬F.modulus.InWindow v.toInt) :
    ofRows (.ofField F) (is ++ .ok (.int256 k) :: rest) =
      ⟨.error (.outsideWindow k F (some is.length)), [.outOfRange is.length F.name], rest⟩ := by
  have ho := Target.convert?_of_holds (F := F) hk hv
  rw [if_neg hw] at ho
  rw [ofRows_append h, readOn_outside ho, List.length_reverse, ← h.length_eq, outside,
    Target.outside_of_holds hk]
  rfl

/-- The scalars of some values, each that of the residue class of its integer. -/
def scalarsOf (F : Field) (vs : List Int256) : List Scalar :=
  vs.map fun v => Scalar.ofInt F v.toInt

theorem converts_of_holds (hk : k.Holds v) (hv : v.Valid) (hw : F.modulus.InWindow v.toInt) :
    Converts (.ofField F) (.ok (.int256 k)) (Scalar.ofInt F v.toInt) :=
  ⟨_, rfl, by rw [Target.convert?_of_holds hk hv, if_pos hw]⟩

theorem converts_all (hv : ∀ v ∈ vs, v.Valid) (hw : ∀ v ∈ vs, F.modulus.InWindow v.toInt) :
    List.Forall₂ (Converts (.ofField F)) ((vs.map Operand.plain).map .ok) (scalarsOf F vs) := by
  rw [scalarsOf, List.map_map, List.forall₂_map_left_iff, List.forall₂_map_right_iff,
    List.forall₂_same]
  exact fun v hm => converts_of_holds v.holds_toHalves (hv v hm) (hw v hm)

end Reading

namespace Operand

variable {supply : Supply} {bs : List UInt8} {xs : List Scalar} {vs : List Int256}

theorem ofBuffer_bytes (h : Int256.ofBuffer bs = .ok vs) :
    ofBuffer (bytes bs) = .ok (list (vs.map plain)) := by
  rw [ofBuffer, h]
  rfl

theorem mapItems_list {f : Operand → Except Fault Operand} {xs ys : List Operand}
    (h : List.Forall₂ (fun x y => f x = .ok y) xs ys) :
    (mapItems supply f (list xs)).result = .ok (list ys) := by
  simp only [mapItems, Supply.read_list]
  rw [Items.fst_mapEach_map_ok, mapM_eq_ok h]
  rfl

theorem toBuffer_eq_flatten {xs : List Operand} {slots : List (List UInt8)}
    (h : List.Forall₂ (fun x s => slot x = .ok s) xs slots) :
    (toBuffer supply (list xs)).result = .ok (bytes slots.flatten) := by
  simp only [toBuffer, Supply.read_list]
  rw [Items.fst_mapEach_map_ok, mapM_eq_ok h]
  rfl

theorem toBuffer_list : (toBuffer supply (list (vs.map plain))).result =
    .ok (bytes (Int256.toBuffer vs)) := by
  rw [Int256.toBuffer, List.flatMap_def]
  apply toBuffer_eq_flatten
  rw [List.forall₂_map_left_iff, List.forall₂_map_right_iff, List.forall₂_same]
  exact fun v _ => rfl

theorem exists_mapItems_toInt256 (supply : Supply) (h : ∀ x ∈ xs, x.Reduced) :
    ∃ vs : List Int256,
      (mapItems supply toInt256 (list (xs.map scalar))).result = .ok (list (vs.map plain)) ∧
      (∀ v ∈ vs, v.Valid) ∧ vs.map Int256.toInt = xs.map Scalar.signed := by
  obtain ⟨vs, hp⟩ := exists_forall₂ fun x hx => Scalar.exists_toInt256_eq_ok (h x hx)
  refine ⟨vs, mapItems_list ?_, forall_mem_right hp fun _ _ h => h.2.1,
    map_right_eq_map hp fun _ _ h => h.2.2⟩
  rw [List.forall₂_map_left_iff, List.forall₂_map_right_iff]
  refine hp.imp fun x v hx => ?_
  rw [toInt256, hx.1]
  rfl

end Operand

end Residue256
