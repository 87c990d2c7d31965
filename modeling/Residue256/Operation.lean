import Residue256.Numeral
import Residue256.Operand.Arithmetic
import Residue256.Operand.Construct
import Residue256.Operand.Sort
import Residue256.Operand.Text
import Residue256.Reading

namespace Residue256

inductive Answer where
  | value (result : Except Fault Operand)
  | table (rows : List (String × Except Fault Operand))
  | reading (r : Reading)

namespace Operand

def askScalar (x : Operand) (f : Scalar → Operand) : Except Fault Operand :=
  match x with
  | scalar x => .ok (f x)
  | family _ => .error .wrongKind
  | _ => .error .lacking

def askInt256 (x : Operand) (f : Int256 → Except Fault Operand) : Except Fault Operand :=
  match x with
  | int256 h => h.value >>= f
  | _ => .error .lacking

def askRecord (x : Operand) (f : LimbRecord → Operand) : Except Fault Operand :=
  match x with
  | record r => .ok (f r)
  | _ => .error .lacking

def toWords (x : Operand) : Except Fault Operand := x.askScalar fun x => tuple (nats x.toWords)

def signed (x : Operand) : Except Fault Operand := x.askScalar fun x => int x.signed

def isNegative : Operand → Except Fault Operand
  | int256 h => .ok (truth h.isNegative)
  | x => x.askScalar fun x => truth x.isNegative

def toParts : Operand → Except Fault Operand
  | int256 h => .ok (tuple [number h.low, number h.high])
  | _ => .error .lacking

def toBytes (x : Operand) : Except Fault Operand := x.askInt256 fun v => .ok (bytes v.toBytes)

def wrappingNeg (x : Operand) : Except Fault Operand := x.askInt256 fun v => v.wrappingNeg.map plain

def toInt : Operand → Except Fault Operand
  | record r => .ok (int r.toInt)
  | x => x.askInt256 fun v => .ok (int v.toInt)

def toTable (x : Operand) : Except Fault Operand :=
  x.askRecord fun r => table [(LimbRecord.limbsKey, tuple (nats r.limbs))]

def toJson (x : Operand) : Except Fault Operand :=
  x.askRecord fun r => text (String.ofList r.toJson)

def wholeOfText (shown : String) (cs : List Char) : Except Fault Operand :=
  let count := (Numeral.digitCount? cs).getD 0
  if Number.maxDigits < count then .error (.tooManyDigits (some count))
  else
    match Numeral.integer? cs with
    | some n => .ok (int n)
    | none => .error (.notNumeral shown)

def toWhole : Operand → Except Fault Operand
  | number (.int n) => .ok (int n)
  | number (.truth b) => .ok (int b.toInt)
  | number (.real x) =>
    match x.truncate? with
    | some n => .ok (int n)
    | none => .error (if x = .nan then .notNumber else .infinite)
  | text s => wholeOfText (Text.quote s) s.toList
  | bytes bs => wholeOfText (Text.quoteBytes bs) (bs.map fun b => Char.ofNat b.toNat)
  | scalar x => .ok (int x.value)
  | int256 h => h.value.map fun v => int v.toInt
  | _ => .error .wrongKind

def inspect (x : Operand) : Answer :=
  match x with
  | scalar y => .table
      [("value", .ok (int y.value)), ("to_limbs", x.toWords), ("is_negative", x.isNegative),
        ("to_signed_int", x.signed), ("int", x.toWhole), ("repr", x.render.map text)]
  | int256 .. => .table
      [("to_parts", x.toParts), ("to_int", x.toInt), ("is_negative", x.isNegative),
        ("wrapping_neg", x.wrappingNeg), ("to_le_bytes", x.toBytes), ("int", x.toWhole),
        ("repr", x.render.map text)]
  | record r => .table
      [("limbs", .ok (tuple (nats r.limbs))), ("to_int", x.toInt), ("model_dump", x.toTable),
        ("model_dump_json", x.toJson), ("repr", x.render.map text),
        ("str", .ok (text (limbsText r)))]
  | _ => .value (.error .lacking)

def describe (x : Operand) : Except Fault Operand := do
  match x.family? with
  | none => .error .lacking
  | some F =>
    let F ← fieldOf F
    return list [x, int F.modulus.value, scalar F.maxSigned, scalar (Scalar.ofInt F 0),
      scalar (Scalar.ofInt F 1)]

def fieldOfName : Operand → Except Fault Operand
  | text s => (Field.ofName s).map fun F => family (.field F)
  | bytes bs => .error (.unknownField (Text.quoteBytes bs))
  | _ => .error .lacking

def toInt256 : Operand → Except Fault Operand
  | scalar x => x.toInt256.map plain
  | _ => .error .lacking

def window (F : Operand) : Except Fault Operand := do
  let F ← (Target.ofOperand F).field
  let (least, greatest) ← F.window
  return tuple [plain least, plain greatest]

def toScalar? (x F : Operand) : Except Fault Operand := do
  match ← (Target.ofOperand F).convert? x with
  | some y => return scalar y
  | none => return nothing

def toScalar (x F : Operand) : Except Fault Operand :=
  ((Target.ofOperand F).convert x).map scalar

def toRecord (x : Operand) : Except Fault Operand :=
  x.askInt256 fun v => (LimbRecord.ofInt256 v).map record

/-- Changing a part of a 256-bit integer or of a limb record, which are never changed; but names
that begin with an underscore are not guarded in a record. Nothing else is taken. -/
def assign (x part : Operand) : Except Fault Operand :=
  match x, part with
  | int256 .., text p => .error (.frozen p)
  | record _, text p =>
    if p.startsWith "_" then .ok nothing else .error (.badRecord [.frozen p])
  | _, _ => .error .wrongKind

def mapItems (supply : Supply) (f : Operand → Except Fault Operand) (x : Operand) : Draw Operand :=
  supply.read x fun is =>
    let (ys, unread) := is.mapEach f
    (ys.map list, unread)

def slot : Operand → Except Fault (List UInt8)
  | int256 h => h.value.map Int256.toBytes
  | _ => .error .lacking

def toBuffer (supply : Supply) (x : Operand) : Draw Operand :=
  supply.read x fun is =>
    let (slots, unread) := is.mapEach slot
    (slots.map fun slots => bytes slots.flatten, unread)

def ofBuffer : Operand → Except Fault Operand
  | bytes bs => (Int256.ofBuffer bs).map fun vs => list (vs.map plain)
  | x =>
    match x.length? with
    | none => .error .wrongKind
    | some n => if n % 32 ≠ 0 then .error (.bufferLength n) else .error .wrongKind

end Operand

def constants (settings : Settings) : List (String × Operand) :=
  [("LIMB_BITS", .int 64),
    ("NUM_LIMBS", .int 4),
    ("U64_MAX", .int (2 ^ 64 - 1)),
    ("U128_MAX", .int (2 ^ 128 - 1)),
    ("I128_MIN", .int (-2 ^ 127)),
    ("I128_MAX", .int (2 ^ 127 - 1)),
    ("I256_MIN", .int Int256.minInt),
    ("I256_MAX", .int Int256.maxInt),
    ("INT256_BYTE_WIDTH", .int 32),
    ("CURVE25519_ORDER", .int Field.curve25519.modulus.value),
    ("BLS12_381_ORDER", .int Field.dory.modulus.value),
    ("BN254_ORDER", .int Field.bn254.modulus.value),
    ("DEFAULT_SCALAR", .text settings.defaultField),
    ("INT256_MIN", .plain ⟨0, -2 ^ 127⟩),
    ("INT256_MAX", .plain ⟨2 ^ 128 - 1, 2 ^ 127 - 1⟩),
    ("INT256_ZERO", .plain .zero)]

def windowConstants : Except Fault (List (String × Operand)) := do
  let (least, greatest) ← Field.curve25519.window
  return [("MIN_SUPPORTED", .plain least), ("MAX_SUPPORTED", .plain greatest)]

/-- What can be asked of operands. An operation that is given another number of them than it takes
fails as one that is given an operand of the wrong kind. -/
inductive Operation where
  | constants
  | describe
  | fieldOfName
  | makeScalar
  | scalarOfWords
  | int256OfParts
  | int256OfNumber
  | int256OfBytes
  | toWords
  | signed
  | toParts
  | toBytes
  | wrappingNeg
  | isNegative
  | toInt
  | toTable
  | toJson
  | toWhole
  | render
  | inspect
  | neg
  | arithmetic (op : Arithmetic)
  | allArithmetic
  | compare (c : Comparison)
  | allComparisons
  | sort
  | extremes
  | sum
  | countDistinct
  | isIn
  | sameKey
  | toInt256
  | toScalar?
  | toScalar
  | window
  | toRecord
  | recordOfLimbs
  | recordOfValue
  | recordOfJson
  | assign
  | columnToInt256
  | columnToRecords
  | toBuffer
  | ofBuffer
  | readColumn
  | readColumnUnder
deriving DecidableEq, Repr

namespace Operation

/-- The settings that a value of the environment makes, which is a text or nothing. A text ends at
the null character there, so it may hold none. -/
def settingsOf : Operand → Except Fault Settings
  | .text s => if s.contains '\x00' then .error .embeddedNull else .ok (.ofEnvironment (some s))
  | .nothing => .ok (.ofEnvironment none)
  | _ => .error .wrongKind

def sorted (supply : Supply) (xs : Operand) : Draw Operand :=
  supply.read xs fun is =>
    let (ys, unread) := is.gather
    (ys >>= Operand.sort |>.map .list, unread)

def extremesOf (supply : Supply) (xs : Operand) : Draw Operand :=
  let least := supply.read xs Operand.least
  let greatest := (supply.after least.taken).read xs Operand.greatest
  { least with
    result := do
      let x ← least.result
      let y ← greatest.result
      return .list [x, y] }

def distinctOf (supply : Supply) (xs : Operand) : Draw Operand :=
  supply.read xs fun is =>
    let (ys, unread) := Operand.distinct is
    (ys.map fun ys => .int ys.length, unread)

def isInOf (supply : Supply) (x xs : Operand) : Draw Operand :=
  supply.read xs fun is =>
    let (ys, unread) := Operand.distinct is
    (ys >>= x.isIn |>.map .truth, unread)

def arithmeticTable (a b : Operand) : List (String × Except Fault Operand) :=
  [("add", a.combine .add b), ("sub", a.combine .sub b), ("mul", a.combine .mul b)]

def comparisonTable (a b : Operand) : List (String × Except Fault Operand) :=
  [("eq", Comparison.eq), ("ne", .ne), ("lt", .lt), ("le", .le), ("gt", .gt), ("ge", .ge)].map
    fun (name, c) => (name, (a.compare c b).map Operand.truth)

def constantsTable (settings : Settings) : Except Fault Operand := do
  let rest ← windowConstants
  return .table (Residue256.constants settings ++ rest)

def answer : Operation → List Operand → Answer
  | describe, [F] => .value F.describe
  | fieldOfName, [s] => .value s.fieldOfName
  | makeScalar, [F] => .value (F.makeScalar (.int 0))
  | makeScalar, [F, x] => .value (F.makeScalar x)
  | int256OfParts, [low, high] => .value (low.int256OfParts high)
  | int256OfNumber, [n] => .value n.int256OfNumber
  | int256OfBytes, [bs] => .value bs.int256OfBytes
  | toWords, [x] => .value x.toWords
  | signed, [x] => .value x.signed
  | toParts, [x] => .value x.toParts
  | toBytes, [x] => .value x.toBytes
  | wrappingNeg, [x] => .value x.wrappingNeg
  | isNegative, [x] => .value x.isNegative
  | toInt, [x] => .value x.toInt
  | toTable, [x] => .value x.toTable
  | toJson, [x] => .value x.toJson
  | toWhole, [x] => .value x.toWhole
  | render, [x] => .value (x.render.map .text)
  | inspect, [x] => x.inspect
  | neg, [x] => .value x.neg
  | arithmetic op, [a, b] => .value (a.combine op b)
  | allArithmetic, [a, b] => .table (arithmeticTable a b)
  | compare c, [a, b] => .value ((a.compare c b).map .truth)
  | allComparisons, [a, b] => .table (comparisonTable a b)
  | sameKey, [a, b] => .value ((a.sameKey b).map .truth)
  | toInt256, [x] => .value x.toInt256
  | toScalar?, [v, F] => .value (v.toScalar? F)
  | toScalar, [v, F] => .value (v.toScalar F)
  | window, [F] => .value F.window
  | toRecord, [v] => .value v.toRecord
  | recordOfJson, [s] => .value s.recordOfJson
  | assign, [x, part, _] => .value (x.assign part)
  | ofBuffer, [bs] => .value bs.ofBuffer
  | readColumn, _ => .reading (.stopped .wrongKind [])
  | _, _ => .value (.error .wrongKind)

structure Outcome where
  answer : Answer
  taken : Option (Nat × Nat) := none

def Outcome.ofDraw (d : Draw Operand) : Outcome := ⟨.value d.result, d.taken⟩

def Outcome.ofColumn (settings : Settings) (supply : Supply) (column target : Operand) : Outcome :=
  let r := Reading.ofOperand settings supply column target
  ⟨.reading r, supply.taken column r.unread⟩

def readUnder (supply : Supply) (environment column : Operand) (targets : List Operand) : Outcome :=
  match settingsOf environment, targets with
  | .error e, _ => { answer := .value (.error e) }
  | .ok settings, [] => .ofColumn settings supply column .nothing
  | .ok settings, [F] => .ofColumn settings supply column F
  | .ok _, _ => { answer := .reading (.stopped .wrongKind []) }

def apply (settings : Settings) (supply : Supply) : Operation → List Operand → Outcome
  | constants, [] => { answer := .value (constantsTable settings) }
  | scalarOfWords, [F, ws] => .ofDraw (F.scalarOfWords supply ws)
  | sort, [xs] => .ofDraw (sorted supply xs)
  | extremes, [xs] => .ofDraw (extremesOf supply xs)
  | sum, [xs] => .ofDraw (supply.read xs Operand.sum)
  | countDistinct, [xs] => .ofDraw (distinctOf supply xs)
  | isIn, [x, xs] => .ofDraw (isInOf supply x xs)
  | recordOfLimbs, [ws] => .ofDraw (ws.recordOfLimbs supply)
  | recordOfValue, [x] => .ofDraw (x.recordOfValue supply)
  | columnToInt256, [xs] => .ofDraw (xs.mapItems supply Operand.toInt256)
  | columnToRecords, [vs] => .ofDraw (vs.mapItems supply Operand.toRecord)
  | toBuffer, [vs] => .ofDraw (vs.toBuffer supply)
  | readColumn, [vs] => .ofColumn settings supply vs .nothing
  | readColumn, [vs, F] => .ofColumn settings supply vs F
  | readColumnUnder, environment :: vs :: targets => readUnder supply environment vs targets
  | op, xs => { answer := op.answer xs }

end Operation

end Residue256
