import Residue256.Operation
import Residue256.Proofs.Fallible
import Residue256.Proofs.Int256.Integer

namespace Residue256

open Fallible

namespace Operand

mutual

/-- The scalars, 256-bit integers and limb records that an operand is or holds. -/
def values : Operand → List Operand
  | list xs | tuple xs => valuesAll xs
  | table es => valuesEntries es
  | scalar x => [scalar x]
  | int256 h => [int256 h]
  | record r => [record r]
  | _ => []

def valuesAll : List Operand → List Operand
  | [] => []
  | x :: xs => values x ++ valuesAll xs

def valuesEntries : List (String × Operand) → List Operand
  | [] => []
  | (_, x) :: es => values x ++ valuesEntries es

end

/-- The residue of a scalar is reduced, the halves of a 256-bit integer are whole and in range, and
a limb record has four words. -/
def WellFormed : Operand → Prop
  | scalar x => x.Reduced
  | int256 h => ∃ v, h.Holds v ∧ v.Valid
  | record r => r.Valid
  | _ => True

def Sound (a : Operand) : Prop := ∀ x ∈ a.values, x.WellFormed

variable {a x : Operand} {xs : List Operand} {es : List (String × Operand)} {y : Scalar}
  {h : Int256.Halves} {v : Int256} {r : LimbRecord}

theorem sound_of_empty (h : a.values = []) : a.Sound := by
  intro x hx
  rw [h] at hx
  exact absurd hx List.not_mem_nil

theorem sound_number (x : Number) : (number x).Sound := sound_of_empty rfl

theorem sound_text (s : String) : (text s).Sound := sound_of_empty rfl

theorem valuesAll_eq_flatMap : valuesAll xs = xs.flatMap values := by
  induction xs with
  | nil => rfl
  | cons x xs ih => rw [valuesAll, ih, List.flatMap_cons]

theorem valuesEntries_eq_flatMap : valuesEntries es = es.flatMap fun e => e.2.values := by
  induction es with
  | nil => rfl
  | cons e es ih => rw [valuesEntries, ih, List.flatMap_cons]

theorem sound_list : (list xs).Sound ↔ ∀ x ∈ xs, x.Sound := by
  rw [Sound, values, valuesAll_eq_flatMap]
  exact List.forall_mem_flatMap

theorem sound_tuple : (tuple xs).Sound ↔ ∀ x ∈ xs, x.Sound := by
  rw [← sound_list, Sound, Sound, values, values]

theorem sound_table : (table es).Sound ↔ ∀ e ∈ es, e.2.Sound := by
  rw [Sound, values, valuesEntries_eq_flatMap]
  exact List.forall_mem_flatMap

theorem sound_scalar : (scalar y).Sound ↔ y.Reduced := List.forall_mem_singleton

theorem sound_int256 : (int256 h).Sound ↔ ∃ v, h.Holds v ∧ v.Valid := List.forall_mem_singleton

theorem sound_record : (record r).Sound ↔ r.Valid := List.forall_mem_singleton

theorem sound_plain (hv : v.Valid) : (plain v).Sound := sound_int256.mpr ⟨v, v.holds_toHalves, hv⟩

theorem sound_nats (ns : List Nat) : ∀ x ∈ nats ns, x.Sound := by
  intro x hx
  obtain ⟨n, -, rfl⟩ := List.mem_map.mp hx
  exact sound_of_empty rfl

theorem Sound.items? (ha : a.Sound) (hx : a.items? = some xs) : ∀ x ∈ xs, x.Sound := by
  cases a with
  | list ys =>
    cases hx
    exact sound_list.mp ha
  | tuple ys =>
    cases hx
    exact sound_tuple.mp ha
  | text s | bytes bs | table es =>
    cases hx
    intro x hx
    obtain ⟨_, -, rfl⟩ := List.mem_map.mp hx
    exact sound_of_empty rfl
  | record r =>
    cases hx
    rw [recordEntries, List.forall_mem_singleton, sound_tuple, List.forall_mem_cons,
      List.forall_mem_singleton, sound_tuple]
    exact ⟨sound_of_empty rfl, sound_nats _⟩
  | _ => cases hx

end Operand

namespace Items

variable {is : Items} {σ α : Type} {s : σ} {P : σ → Prop} {T : α → Prop}
  {step : σ → Operand → Except Fault σ} {f : Operand → Except Fault α}

def Sound (is : Items) : Prop := ∀ x, .ok x ∈ is → x.Sound

theorem Sound.tail {i : Except Fault Operand} (h : Sound (i :: is)) : is.Sound :=
  fun x hx => h x (List.mem_cons_of_mem i hx)

theorem gives_fold (hi : is.Sound) (hs : P s)
    (hf : ∀ s x, P s → x.Sound → Gives P (step s x)) : Gives P (fold step s is).1 := by
  induction is generalizing s with
  | nil => exact hs
  | cons i rest ih =>
    cases i with
    | error e => trivial
    | ok x =>
      have hx := hf s x hs (hi x List.mem_cons_self)
      rw [fold]
      cases hr : step s x with
      | error e => trivial
      | ok s' =>
        rw [hr] at hx
        exact ih hi.tail hx

theorem gives_mapEach (hi : is.Sound) (hf : ∀ x, x.Sound → Gives T (f x)) :
    Gives (fun ys => ∀ y ∈ ys, T y) (mapEach f is).1 := by
  induction is with
  | nil => exact fun y hy => absurd hy List.not_mem_nil
  | cons i rest ih =>
    cases i with
    | error e => trivial
    | ok x =>
      have hx := hf x (hi x List.mem_cons_self)
      rw [mapEach]
      cases hr : f x with
      | error e => trivial
      | ok y =>
        rw [hr] at hx
        apply (ih hi.tail).map
        exact fun ys hys => List.forall_mem_cons.mpr ⟨hx, hys⟩

theorem gives_gather (hi : is.Sound) : Gives (fun xs => ∀ x ∈ xs, x.Sound) (gather is).1 :=
  gives_mapEach hi fun _ hx => hx

end Items

namespace Supply

variable {supply : Supply} {α : Type} {T : α → Prop} {a : Operand}
  {f : Items → Except Fault α × Items}

def Sound (supply : Supply) : Prop := ∀ s, (supply s).Sound

theorem gives_items (hs : supply.Sound) (ha : a.Sound) : Gives Items.Sound (supply.items a) := by
  cases a with
  | stream i => exact hs i
  | _ =>
    rw [items]
    · split
      · rename_i xs hx
        intro x hm
        obtain ⟨y, hy, h⟩ := List.mem_map.mp hm
        cases h
        exact ha.items? hx x hy
      · trivial
    · simp

theorem gives_read (hs : supply.Sound) (ha : a.Sound)
    (hf : ∀ is : Items, is.Sound → Gives T (f is).1) : Gives T (supply.read a f).result := by
  have hi := gives_items hs ha
  rw [read]
  cases h : supply.items a with
  | error e => trivial
  | ok is =>
    rw [h] at hi
    exact hf is hi

theorem Sound.after (hs : supply.Sound) (taken : Option (Nat × Nat)) :
    (supply.after taken).Sound := by
  cases taken with
  | none => exact hs
  | some p =>
    intro s x hx
    simp only [Supply.after] at hx
    split at hx
    · exact hs s x (List.mem_of_mem_drop hx)
    · exact hs s x hx

end Supply

end Residue256
