import Residue256.Numeral
import Residue256.Power

namespace Residue256

/-- A double-precision number, held exactly: a signed natural number times a power of two. -/
inductive Binary64 where
  | nan
  | infinite (negative : Bool)
  | finite (negative : Bool) (m : Nat) (q : Int)
deriving DecidableEq, Repr

namespace Binary64

def ofBits (bits : UInt64) : Binary64 :=
  let negative := bits >>> 63 == 1
  let e := ((bits >>> 52) &&& 0x7FF).toNat
  let f := (bits &&& 0xFFFFFFFFFFFFF).toNat
  if e = 0x7FF then (if f = 0 then infinite negative else nan)
  else if e = 0 then finite negative f (-1074)
  else finite negative (2 ^ 52 + f) ((e : Int) - 1075)

def ofDecimal (negative : Bool) (digits : Nat) (exponent : Int) : Binary64 :=
  -- There are at most a third as many decimal digits as binary ones, and two more.
  if digits = 0 ∨ exponent + digits.log2 / 3 + 2 < -400 then finite negative 0 (-1074)
  else if 400 < exponent then infinite negative
  else
    match ofBits (Float.ofScientific digits (exponent < 0) exponent.natAbs).toBits with
    | finite _ m q => finite negative m q
    | infinite _ => infinite negative
    | nan => nan

def fraction? : Binary64 → Option (Int × Nat)
  | finite negative m q =>
    let n : Int := if negative then -(m : Int) else m
    some (n * 2 ^ q.toNat, (-q).toNat)
  | _ => none

def compareInt? (x : Binary64) (n : Int) : Option Ordering :=
  match x, x.fraction? with
  | nan, _ => none
  | infinite negative, _ => some (if negative then .lt else .gt)
  | _, some (a, i) => some (compare a (n * 2 ^ i))
  | _, none => none

def compare? (x y : Binary64) : Option Ordering :=
  match x, y with
  | nan, _ | _, nan => none
  | infinite s, infinite t => some (compare (!s) (!t))
  | infinite s, _ => some (if s then .lt else .gt)
  | _, infinite t => some (if t then .gt else .lt)
  | _, _ =>
    match x.fraction?, y.fraction? with
    | some (a, i), some (b, j) => some (compare (a * 2 ^ j) (b * 2 ^ i))
    | _, _ => none

def isEven (x : Binary64) : Bool :=
  match x.fraction? with
  | some (a, i) => a % 2 ^ (i + 1) == 0
  | none => false

def toInt? (x : Binary64) : Option Int :=
  match x.fraction? with
  | some (a, i) => if a % 2 ^ i = 0 then some (a / 2 ^ i) else none
  | none => none

def truncate? (x : Binary64) : Option Int :=
  x.fraction?.map fun (a, i) => a.tdiv (2 ^ i)

structure Decimal where
  digits : Nat
  exponent : Int
deriving DecidableEq, Repr

def compareScaled (a : Nat) (i : Int) (n : Nat) (j : Int) : Ordering :=
  compare (a * 10 ^ i.toNat * 2 ^ (-j).toNat) (n * 2 ^ j.toNat * 10 ^ (-i).toNat)

def readsBack (m : Nat) (q : Int) (d : Decimal) : Bool :=
  -- Below a power of two the gap is half as wide; the ends round to an even `m` alone.
  let low := if m = 2 ^ 52 ∧ -1074 < q then 4 * m - 1 else 4 * m - 2
  let atLow := compareScaled d.digits d.exponent low (q - 2)
  let atHigh := compareScaled d.digits d.exponent (4 * m + 2) (q - 2)
  let ends := m % 2 == 0
  (atLow == .gt || (ends && atLow == .eq)) && (atHigh == .lt || (ends && atHigh == .eq))

def scale (m : Nat) (q : Int) : Int :=
  -- Finite positive doubles lie between `10 ^ (-324)` and `10 ^ 309`.
  let below (i : Nat) : Bool := compareScaled 1 ((i : Int) - 330) m q == .gt
  (((List.range 640).find? below).getD 0 : Int) - 330

def nearest? (m : Nat) (q : Int) (k : Int) (n : Nat) : Option Decimal :=
  let e := k - n
  let num := m * 2 ^ q.toNat * 10 ^ (-e).toNat
  let den := 2 ^ (-q).toNat * 10 ^ e.toNat
  let low : Decimal := ⟨num / den, e⟩
  let high : Decimal := ⟨num / den + 1, e⟩
  match readsBack m q low, readsBack m q high with
  | false, false => none
  | true, false => some low
  | false, true => some high
  | true, true =>
    match compare (2 * (num % den)) den with
    | .lt => some low
    | .gt => some high
    | .eq => some (if low.digits % 2 = 0 then low else high)

def Decimal.strip : Nat → Decimal → Decimal
  | 0, d => d
  | fuel + 1, d =>
    if d.digits ≠ 0 ∧ d.digits % 10 = 0 then strip fuel ⟨d.digits / 10, d.exponent + 1⟩ else d

/-- The shortest decimal that reads back to `m * 2 ^ q`, for a positive `m`. -/
def shortest (m : Nat) (q : Int) : Decimal :=
  let k := scale m q
  match (List.range 17).findSome? fun i => nearest? m q k (i + 1) with
  | some d => d.strip 18
  | none => ⟨m * 2 ^ q.toNat * 5 ^ (-q).toNat, if q < 0 then q else 0⟩

/-- Writes a decimal, positionally while its first digit stands for `10 ^ e` with `-4 ≤ e < 16`. -/
def Decimal.render (d : Decimal) : String :=
  let s := (toString d.digits).toList
  let zeros (n : Nat) : List Char := List.replicate n '0'
  let point : Int := s.length + d.exponent
  if -4 < point ∧ point ≤ 16 then
    String.ofList <|
      if 0 ≤ d.exponent then s ++ zeros d.exponent.toNat ++ ['.', '0']
      else if 0 < point then s.take point.toNat ++ '.' :: s.drop point.toNat
      else '0' :: '.' :: zeros (-point).toNat ++ s
  else
    let e := point - 1
    let mantissa := match s with
      | c :: c' :: r => c :: '.' :: c' :: r
      | _ => s
    let width := if e.natAbs < 10 then ['0'] else []
    String.ofList (mantissa ++ 'e' :: (if e < 0 then '-' else '+') :: width) ++ toString e.natAbs

def toText : Binary64 → String
  | nan => "nan"
  | infinite negative => if negative then "-inf" else "inf"
  | finite negative m q =>
    let sign := if negative then "-" else ""
    sign ++ if m = 0 then "0.0" else (shortest m q).render

def exponent? : List Char → Option Int
  | [] => some 0
  | c :: r =>
    if c ≠ 'e' ∧ c ≠ 'E' then none
    else
      let (negative, ds) := match r with
        | '-' :: ds => (true, ds)
        | '+' :: ds => (false, ds)
        | ds => (false, ds)
      if ds.isEmpty || !ds.all Char.isDigit then none
      else some (if negative then -(Nat.ofDigitChars 10 ds 0 : Int) else Nat.ofDigitChars 10 ds 0)

def unsigned? (negative : Bool) (cs : List Char) : Option Binary64 := do
  let whole := cs.takeWhile Char.isDigit
  let rest := cs.dropWhile Char.isDigit
  let (fraction, rest) := match rest with
    | '.' :: r => (r.takeWhile Char.isDigit, r.dropWhile Char.isDigit)
    | r => ([], r)
  guard !(whole.isEmpty && fraction.isEmpty)
  let e ← exponent? rest
  some (ofDecimal negative (Nat.ofDigitChars 10 (whole ++ fraction) 0) (e - fraction.length))

def ofText? (s : String) : Option Binary64 := do
  let cs ← Numeral.clean? s.toList
  let (negative, cs) := match cs with
    | '-' :: cs => (true, cs)
    | '+' :: cs => (false, cs)
    | cs => (false, cs)
  match String.ofList (cs.map Char.toLower) with
  | "nan" => some nan
  | "inf" | "infinity" => some (infinite negative)
  | _ => unsigned? negative cs

end Binary64

end Residue256
