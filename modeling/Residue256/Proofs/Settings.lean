import Residue256.Proofs.Fallible
import Residue256.Proofs.Registry
import Residue256.Session

namespace Residue256

variable {settings other : Settings} {supply : Supply} {column target : Operand} {F : Field}
  {e : Fault}

theorem Settings.defaultField_ofEnvironment (value : Option String) :
    (ofEnvironment value).defaultField = value.getD "curve25519" := by
  cases value <;> rfl

def Supply.rows (supply : Supply) (column : Operand) : Items :=
  (supply.items column).toOption.getD []

theorem Supply.taken_rows_stream (i : Nat) :
    supply.taken (.stream i) (supply.rows (.stream i)) = some (i, 0) := by
  rw [rows, items, Except.toOption, Option.getD_some, taken, Nat.sub_self]

theorem Scope.after_taken_rows (s : Scope) (m : Memory) :
    s.after m (supply.taken column (supply.rows column)) = m := by
  cases column with
  | stream i => rw [Supply.taken_rows_stream, after, List.take_zero]; rfl
  | _ => rfl

namespace Reading

theorem ofOperand_of_ne_nothing (h : target ≠ .nothing) :
    ofOperand settings supply column target = ofOperand other supply column target := by
  rw [ofOperand.eq_def, ofOperand.eq_def]
  split
  · exact absurd rfl h
  · rfl

theorem ofOperand_of_found (h : Field.ofName settings.defaultField = .ok F) :
    ofOperand settings supply column .nothing =
      ofOperand other supply column (.family (.field F)) := by
  rw [ofOperand, h]
  rfl

theorem ofOperand_of_unknown (h : Field.ofName settings.defaultField = .error e) :
    ofOperand settings supply column .nothing = stopped e (supply.rows column) := by
  rw [ofOperand, h]
  rfl

end Reading

namespace Operation

variable {op : Operation} {args : List Operand}

/-- The operation asks for the settings: it reads a column and leaves it to them which field that is
read into, or it gives the constants, one of which is the name of the default field. -/
def AsksSettings (op : Operation) (args : List Operand) : Prop :=
  op = .constants ∨ op = .readColumn ∧ ∃ column, args ∈ [[column], [column, .nothing]]

theorem apply_of_ne (hc : op ≠ .constants) (hr : op ≠ .readColumn) :
    op.apply settings supply args = op.apply other supply args := by
  fun_cases apply settings supply op args
  all_goals first
    | exact absurd rfl hc
    | exact absurd rfl hr
    | rfl
    | rw [apply] <;> assumption

theorem apply_of_not_asksSettings (h : ¬op.AsksSettings args) :
    op.apply settings supply args = op.apply other supply args := by
  obtain ⟨hc, hn⟩ := not_or.mp h
  by_cases hr : op = .readColumn
  · subst hr
    match args with
    | [] => rfl
    | [vs] => exact absurd ⟨rfl, vs, by simp⟩ hn
    | [vs, F] =>
      have hF : F ≠ .nothing := by
        rintro rfl
        exact hn ⟨rfl, vs, by simp⟩
      have ho : Reading.ofOperand settings supply vs F = Reading.ofOperand other supply vs F :=
        Reading.ofOperand_of_ne_nothing hF
      simp only [apply, Outcome.ofColumn, ho]
    | _ :: _ :: _ :: _ => rfl
  · exact apply_of_ne hc hr

theorem apply_of_found (h : Field.ofName settings.defaultField = .ok F) :
    ∀ args ∈ [[column], [column, .nothing]], readColumn.apply settings supply args =
      readColumn.apply other supply [column, .family (.field F)] := by
  have hr : Reading.ofOperand settings supply column .nothing =
      Reading.ofOperand other supply column (.family (.field F)) := Reading.ofOperand_of_found h
  simp only [List.forall_mem_cons, apply, Outcome.ofColumn, hr, true_and]
  exact List.forall_mem_nil _

theorem apply_of_unknown (h : Field.ofName settings.defaultField = .error e) :
    ∀ args ∈ [[column], [column, .nothing]], readColumn.apply settings supply args =
      ⟨.reading (.stopped e (supply.rows column)), supply.taken column (supply.rows column)⟩ := by
  simp only [List.forall_mem_cons, apply, Outcome.ofColumn, Reading.ofOperand_of_unknown h,
    Reading.stopped, true_and]
  exact List.forall_mem_nil _

theorem settingsOf_elim {value : Option String}
    (h : ∀ text, value = some text → text.contains '\x00' = false) :
    settingsOf (value.elim .nothing .text) = .ok (.ofEnvironment value) := by
  cases value with
  | none => rfl
  | some text => rw [Option.elim_some, settingsOf, h text rfl]; rfl

theorem apply_readColumnUnder {environment : Operand} {targets : List Operand}
    (h : settingsOf environment = .ok settings) (ht : targets.length ≤ 1) :
    readColumnUnder.apply other supply (environment :: column :: targets) =
      readColumn.apply settings supply (column :: targets) := by
  match targets with
  | [] | [_] => simp only [apply, readUnder, h]

end Operation

namespace Session

variable {s : Session} {c : Call} {calls : List Call}

/-- None of the calls, each carried out in the session after the ones before it, asks for the
settings. -/
def NeverAsksSettings (s : Session) : List Call → Prop
  | [] => True
  | c :: calls =>
    (∀ xs m, (s.evalAll c.args).run s.memory = (.ok xs, m) → ¬c.operation.AsksSettings xs) ∧
      (s.after (c.run s).1 (c.run s).2).NeverAsksSettings calls

def under (s : Session) (settings : Settings) : Session := { s with settings }

theorem run_under_of_call
    (h : ∀ xs m, (s.evalAll c.args).run s.memory = (.ok xs, m) → ¬c.operation.AsksSettings xs) :
    c.run (s.under other) = c.run s := by
  rw [Call.run, Call.run, under]
  rcases hx : (s.evalAll c.args).run s.memory with ⟨r, m⟩
  cases r with
  | error e => rfl
  | ok xs =>
    dsimp only
    rw [Operation.apply_of_not_asksSettings (h xs m hx)]

theorem run_under (h : s.NeverAsksSettings calls) :
    (s.under other).run calls = ((s.run calls).1, (s.run calls).2.under other) := by
  induction calls generalizing s with
  | nil => rfl
  | cons c calls ih =>
    -- The call answers the same and leaves the same memory: the next sessions differ as these do.
    have hs : (s.under other).after (c.run s).1 (c.run s).2 =
        (s.after (c.run s).1 (c.run s).2).under other := rfl
    simp only [run, run_under_of_call h.1, hs, ih h.2]

end Session

open Operation Operand in
/-- The name that the environment gives to the default field is that of a field just if it is one of
three but for the case of ASCII letters. To read a column and leave its field out, or to name
nothing as its field, is then the same as to name the field that is found under the name. Where none
is found, that fault is the result: no line is logged, and of the column all items are left, if it
has any. An operation that does not ask for the settings, such as a reading that names its field, is
the same under any other ones, and so are calls in turn of which none asks for them. A reading under
a value of its own is one under the settings that the value makes. -/
theorem default_field_is_the_named_one (environment : Option String) :
    let name := environment.getD "curve25519"
    let settings := Settings.ofEnvironment environment
    let named := (text name).fieldOfName
    let fields := [("curve25519", Field.curve25519), ("dory", .dory), ("bn254", .bn254)]
    (∀ x, named = .ok x ↔ ∃ r ∈ fields, name.toLower = r.1 ∧ x = family (.field r.2)) ∧
    (∀ x, named = .ok x → ∀ (other : Settings) (supply : Supply) (column : Operand),
      ∀ args ∈ [[column], [column, .nothing]],
        readColumn.apply settings supply args = readColumn.apply other supply [column, x]) ∧
    (∀ e, named = .error e →
      e.kind = "ValueError" ∧
      e.message = some s!"Unknown scalar field '{name}' (known: bn254, curve25519, dory)" ∧
      ∀ (supply : Supply) (column : Operand), ∀ args ∈ [[column], [column, .nothing]],
        ∃ r taken, readColumn.apply settings supply args = ⟨.reading r, taken⟩ ∧
          r.result = .error e ∧ r.log = [] ∧
          (∀ rows, supply.items column = .ok rows → r.unread = rows) ∧
          (∀ i, column = .stream i → taken = some (i, 0)) ∧
          ∀ (s : Scope) (m : Memory), s.after m taken = m) ∧
    (∀ (other : Settings) (supply : Supply) (op : Operation) (args : List Operand),
      ¬op.AsksSettings args → op.apply settings supply args = op.apply other supply args) ∧
    (∀ (s : Session) (calls : List Call), s.settings = settings → s.NeverAsksSettings calls →
      ∀ other, ((s.under other).run calls).1 = (s.run calls).1) ∧
    ((∀ t, environment = some t → t.contains '\x00' = false) →
      ∀ (other : Settings) (supply : Supply) (column : Operand) (targets : List Operand),
        targets.length ≤ 1 →
        readColumnUnder.apply other supply (environment.elim .nothing .text :: column :: targets) =
          readColumn.apply settings supply (column :: targets)) := by
  intro name settings named fields
  have hn : settings.defaultField = name := Settings.defaultField_ofEnvironment environment
  refine ⟨fun x => ?_, fun x hx other supply column => ?_, fun e he => ?_,
    fun _ _ _ _ h => apply_of_not_asksSettings h, fun s calls _ hc other => ?_,
    fun h _ _ _ _ ht => apply_readColumnUnder (settingsOf_elim h) ht⟩
  · refine Fallible.map_eq_ok_iff.trans ⟨?_, ?_⟩
    · rintro ⟨F, hF, rfl⟩
      exact ⟨_, Field.ofName_eq_ok_iff.mp hF, rfl, rfl⟩
    · rintro ⟨⟨n, F⟩, hm, hl, rfl⟩
      exact ⟨F, Field.ofName_eq_ok_iff.mpr (hl ▸ hm), rfl⟩
  · obtain ⟨F, hF, rfl⟩ := Fallible.map_eq_ok_iff.mp hx
    have hs : Field.ofName settings.defaultField = .ok F := by rw [hn, hF]
    exact apply_of_found hs
  · have hF : Field.ofName name = .error e := Fallible.map_eq_error_iff.mp he
    cases Field.eq_unknownField_of_ofName hF
    have hs : Field.ofName settings.defaultField = .error (.unknownField name) := by rw [hn, hF]
    refine ⟨rfl, Fault.message_unknownField name, fun supply column args ha => ?_⟩
    refine ⟨_, _, apply_of_unknown hs args ha, rfl, rfl, fun rows hr => ?_, ?_,
      fun s m => s.after_taken_rows m⟩
    · rw [Reading.stopped, Supply.rows, hr]
      rfl
    · rintro i rfl
      exact Supply.taken_rows_stream i
  · rw [Session.run_under hc]

open Operation Operand in
theorem default_field_is_the_named_one_dory :
    let supply : Supply := fun _ => [.ok (.plain ⟨3, 0⟩), .error .lacking]
    let unknown := Settings.ofEnvironment (some "secp256k1")
    let call : Call :=
      ⟨.readColumn, [.stream [.int256 (.number (.int 3))], .family (.named "bn254")]⟩
    let s : Session := { settings := unknown }
    readColumn.apply (.ofEnvironment (some "DoRy")) supply [.stream 2, .nothing] =
        readColumn.apply {} supply [.stream 2, .family (.field .dory)] ∧
      (∃ r, readColumn.apply unknown supply [.stream 2] = ⟨.reading r, some (2, 0)⟩ ∧
        r.result = .error (.unknownField "secp256k1") ∧ r.log = [] ∧ r.unread = supply 2) ∧
      (∃ r taken, readColumn.apply unknown supply [.list [], .nothing] = ⟨.reading r, taken⟩ ∧
        r.result = .error (.unknownField "secp256k1") ∧ r.log = []) ∧
      ((s.under {}).run [call]).1 = (s.run [call]).1 ∧
      readColumnUnder.apply {} supply [.text "secp256k1", .stream 2] =
        readColumn.apply unknown supply [.stream 2] := by
  intro supply unknown call s
  have hk : (text "DoRy").fieldOfName = .ok (family (.field .dory)) := rfl
  have hu : (text "secp256k1").fieldOfName = .error (.unknownField "secp256k1") := rfl
  obtain ⟨-, h₁, -⟩ := default_field_is_the_named_one (some "DoRy")
  obtain ⟨-, -, h₂, -, h₃, h₄⟩ := default_field_is_the_named_one (some "secp256k1")
  obtain ⟨-, -, h₂⟩ := h₂ _ hu
  have hc : s.NeverAsksSettings [call] := by
    refine ⟨fun xs m h => ?_, trivial⟩
    have he : (s.evalAll call.args).run s.memory =
        (.ok [.stream 0, .family (.field .bn254)], ⟨[[.int256 (.number (.int 3))]], []⟩) := rfl
    cases he.symm.trans h
    simp [AsksSettings]
  refine ⟨h₁ _ hk {} supply _ _ (by simp), ?_, ?_, h₃ s [call] rfl hc {}, h₄ ?_ {} supply _ [] ?_⟩
  · obtain ⟨r, taken, ha, hr, hl, hi, ht, -⟩ := h₂ supply (.stream 2) _ List.mem_cons_self
    rw [ht 2 rfl] at ha
    exact ⟨r, ha, hr, hl, hi _ rfl⟩
  · obtain ⟨r, taken, ha, hr, hl, -⟩ := h₂ supply (.list []) [.list [], .nothing] (by simp)
    exact ⟨r, taken, ha, hr, hl⟩
  · rintro t ⟨⟩
    simp
  · exact Nat.zero_le 1

end Residue256
