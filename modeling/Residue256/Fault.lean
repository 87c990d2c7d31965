import Residue256.Field
import Residue256.Int256.Halves
import Residue256.Text.Quoted

namespace Residue256

def digitsText (count : Option Nat) : String :=
  let found := (count.map fun n => s!": value has {n} digits").getD ""
  s!"Exceeds the limit ({Number.maxDigits} digits) for integer string conversion" ++ found ++
    "; use sys.set_int_max_str_digits() to increase the limit"

inductive RecordForm where
  | value
  | json
deriving DecidableEq, Repr

/-- Something that keeps a value from being a limb record, or a limb record from being changed. -/
inductive Complaint where
  | notInteger (position : Nat)
  | absentLimb (position : Nat)
  | absentLimbs
  | tooMany (count : Option Nat)
  | limbRange (position : Nat) (limb : Int)
  | unnamedLimb
  | notSequence (form : RecordForm)
  | notRecord (form : RecordForm)
  | notText
  | malformed
  | interrupted (count : Nat) (reason : String)
  | frozen (part : String)
deriving DecidableEq, Repr

namespace Complaint

def code : Complaint → String
  | notInteger _ => "int_type"
  | absentLimb _ | absentLimbs => "missing"
  | tooMany _ => "too_long"
  | limbRange .. | unnamedLimb => "value_error"
  | notSequence _ => "tuple_type"
  | notRecord _ => "model_type"
  | notText => "json_type"
  | malformed => "json_invalid"
  | interrupted .. => "iteration_error"
  | frozen _ => "frozen_instance"

def path : Complaint → List String
  | notInteger i | absentLimb i | interrupted i _ => ["limbs", toString i]
  | absentLimbs | tooMany _ | limbRange .. | unnamedLimb | notSequence _ => ["limbs"]
  | notRecord _ | notText | malformed => []
  | frozen a => [a]

def message : Complaint → Option String
  | notInteger _ => some "Input should be a valid integer"
  | absentLimb _ | absentLimbs => some "Field required"
  | tooMany n =>
    let count := (n.map fun n => toString n).getD "more"
    some s!"Tuple should have at most 4 items after validation, not {count}"
  | limbRange i w => some s!"Value error, limb {i} out of u64 range: {w}"
  | unnamedLimb => some ("Value error, " ++ digitsText none)
  | notSequence .value => some "Input should be a valid tuple"
  | notSequence .json => some "Input should be a valid array"
  | notRecord .value => some "Input should be a valid dictionary or instance of I256"
  | notRecord .json => some "Input should be an object"
  | notText => some "JSON input should be string, bytes or bytearray"
  | malformed => none
  | interrupted _ reason => some s!"Error iterating over object, error: {reason}"
  | frozen _ => some "Instance is frozen"

def ofLimb (i : Nat) (w : Int) : Complaint :=
  if Number.isWritable (.int w) then limbRange i w else unnamedLimb

variable {i : Nat} {w : Int}

theorem ofLimb_of_lt (h : w.natAbs < 10 ^ Number.maxDigits) : ofLimb i w = limbRange i w :=
  if_pos (Number.isWritable_int.mpr h)

theorem ofLimb_of_le (h : 10 ^ Number.maxDigits ≤ w.natAbs) : ofLimb i w = unnamedLimb :=
  if_neg (mt Number.isWritable_int.mp (Nat.not_lt.mpr h))

end Complaint

inductive Fault where
  | modulusNotOdd (name : String)
  | modulusTooLarge (name : String)
  | nullInName
  | unknownField (name : String)
  | notInteger (kind : String)
  | wordCount (count : Nat)
  | wordRange (position : Nat) (word : Number)
  | notResidue (name : String)
  | lowRange (half : Number)
  | highRange (half : Number)
  | overflow (n : Number)
  -- The digits have been counted where they are read, and not where a number is to be written.
  | tooManyDigits (count : Option Nat)
  | byteCount (count : Nat)
  | byteRange
  | bufferLength (count : Nat)
  | outsideWindow (halves : Int256.Halves) (field : Field) (row : Option Nat)
  | frozen (part : String)
  | badRecord (complaints : List Complaint)
  | noItems (extreme : String)
  | notNumeral (shown : String)
  | infinite
  | notNumber
  | embeddedNull
  | streamBusy
  | unordered (sign left right : String)
  | noBits (kind : String)
  | noIteration (kind : String)
  | noModulus (name : String)
  | wrongKind
  | lacking
deriving DecidableEq, Repr

namespace Fault

def knownFields : String := "bn254, curve25519, dory"

def kind : Fault → String
  | modulusNotOdd _ | modulusTooLarge _ | nullInName | unknownField _ | wordCount _ | wordRange ..
  | notResidue _ | lowRange _ | highRange _ | byteCount _ | byteRange | bufferLength _ | noItems _
  | notNumeral _ | notNumber | embeddedNull | streamBusy | tooManyDigits _ => "ValueError"
  | overflow _ | infinite => "OverflowError"
  | notInteger _ | unordered .. | noBits _ | noIteration _ | wrongKind => "TypeError"
  | noModulus _ | lacking => "AttributeError"
  | outsideWindow .. => "ConversionOutOfRange"
  | frozen _ => "FrozenInstanceError"
  | badRecord _ => "ValidationError"

def message : Fault → Option String
  | modulusNotOdd name => some s!"{name}.MODULUS must be odd and > 2"
  | modulusTooLarge name => some s!"{name}.MODULUS too large: MAX_SIGNED must be < 2^255"
  | nullInName => some "type name must not contain null characters"
  | unknownField name => some s!"Unknown scalar field '{name}' (known: {knownFields})"
  | notInteger kind => some s!"expected int, got {kind}"
  | wordCount n => some s!"Expected 4 limbs, got {n}"
  | wordRange i w => some s!"Limb {i} out of u64 range: {w.toText}"
  | notResidue name => some s!"Limbs encode a value >= {name}.MODULUS"
  | lowRange h => some s!"low half out of u128 range: {h.toText}"
  | highRange h => some s!"high half out of i128 range: {h.toText}"
  | overflow n => some s!"{n.toText} does not fit in i256"
  | tooManyDigits count => some (digitsText count)
  | byteCount n => some s!"Expected 32 bytes, got {n}"
  | byteRange => some "bytes must be in range(0, 256)"
  | bufferLength n => some s!"Buffer length {n} is not a multiple of 32"
  | outsideWindow h F row =>
    let place := (row.map fun r => s!" (row {r})").getD ""
    h.value?.map fun v =>
      s!"i256 value {v.toInt}{place} is outside the supported range of {(F : String)}"
  | frozen a => some s!"cannot assign to field {Text.quote a}"
  | badRecord _ => none
  | noItems extreme => some s!"{extreme}() arg is an empty sequence"
  | notNumeral shown => some s!"invalid literal for int() with base 10: {shown}"
  | infinite => some "cannot convert float infinity to integer"
  | notNumber => some "cannot convert float NaN to integer"
  | embeddedNull => some "embedded null byte"
  | streamBusy => some "generator already executing"
  | unordered .. | noBits _ | noIteration _ | noModulus _ | wrongKind | lacking => none

/-- A fault that names a number. If the number cannot be written, then that is the fault. -/
def naming (fault : Number → Fault) (x : Number) : Fault :=
  if x.isWritable then fault x else tooManyDigits none

variable {fault : Number → Fault} {n : Int}

theorem naming_of_lt (h : n.natAbs < 10 ^ Number.maxDigits) :
    naming fault (.int n) = fault (.int n) :=
  if_pos (Number.isWritable_int.mpr h)

theorem naming_of_le (h : 10 ^ Number.maxDigits ≤ n.natAbs) :
    naming fault (.int n) = tooManyDigits none :=
  if_neg (mt Number.isWritable_int.mp (Nat.not_lt.mpr h))

/-- The fault as it is told of where it is the reason for another one. There some of the faults that
have no message say which kinds of things did not fit. -/
def reason (e : Fault) : String :=
  let detail := match e with
    | unordered sign left right =>
      some s!"'{sign}' not supported between instances of '{left}' and '{right}'"
    | noBits kind => some s!"unsupported operand type(s) for &: '{kind}' and 'int'"
    | noIteration kind => some s!"'{kind}' object is not iterable"
    | noModulus name => some s!"type object '{name}' has no attribute 'MODULUS'"
    | e => e.message
  match detail with
  | some detail => e.kind ++ ": " ++ detail
  | none => e.kind

end Fault

end Residue256
