import Residue256.Json.Basic

namespace Residue256.Json

inductive Token where
  | openObject
  | closeObject
  | openArray
  | closeArray
  | colon
  | comma
  | text (s : String)
  | word (v : Json)

def maxDigits : Nat := 4300

def isNatural : List Char → Bool
  | [] => false
  | ['0'] => true
  | c :: cs => c != '0' && (c :: cs).all Char.isDigit

def isDigits (cs : List Char) : Bool := !cs.isEmpty && cs.all Char.isDigit

def isExponent : List Char → Bool
  | c :: '+' :: cs | c :: '-' :: cs => (c == 'e' || c == 'E') && isDigits cs
  | c :: cs => (c == 'e' || c == 'E') && isDigits cs
  | [] => false

def isTail : List Char → Bool
  | '.' :: cs =>
    let rest := cs.dropWhile Char.isDigit
    !(cs.takeWhile Char.isDigit).isEmpty && (rest.isEmpty || isExponent rest)
  | cs => isExponent cs

def unsigned? (negative : Bool) (cs : List Char) : Option Json :=
  let whole := cs.takeWhile Char.isDigit
  let rest := cs.dropWhile Char.isDigit
  if !isNatural whole || maxDigits < whole.length then none
  else if rest.isEmpty then
    let n : Int := Nat.ofDigitChars 10 whole 0
    some (int (if negative then -n else n))
  else if isTail rest then some real
  else none

def number? : List Char → Option Json
  | '-' :: cs => unsigned? true cs
  | cs => unsigned? false cs

def word? (cs : List Char) : Option Json :=
  match String.ofList cs with
  | "null" => some null
  | "true" => some (truth true)
  | "false" => some (truth false)
  | "NaN" | "Infinity" | "-Infinity" => some real
  | _ => number? cs

namespace Token

/-- What has been read of the token at hand. Characters are kept with the last one first. -/
inductive Mode where
  | between
  | word (seen : List Char)
  | quoted (seen : List Char)
  | escape (seen : List Char)
  | unit (seen : List Char) (first : Option Nat) (left value : Nat)
  | pair (seen : List Char) (first : Nat)
  | pairEscape (seen : List Char) (first : Nat)

def isBlank (c : Char) : Bool := c == ' ' || c == '\t' || c == '\n' || c == '\r'

def isWordChar (c : Char) : Bool := c.isAlphanum || c == '+' || c == '-' || c == '.'

def punctuation? : Char → Option Token
  | '\x7b' => some openObject
  | '\x7d' => some closeObject
  | '[' => some openArray
  | ']' => some closeArray
  | ':' => some colon
  | ',' => some comma
  | _ => none

def letter? : Char → Option Char
  | '"' => some '"'
  | '\\' => some '\\'
  | '/' => some '/'
  | 'b' => some '\x08'
  | 'f' => some '\x0c'
  | 'n' => some '\n'
  | 'r' => some '\r'
  | 't' => some '\t'
  | _ => none

def hexDigit? (c : Char) : Option Nat :=
  if c.isDigit then some (c.toNat - '0'.toNat)
  else if 'a' ≤ c ∧ c ≤ 'f' then some (c.toNat - 'a'.toNat + 10)
  else if 'A' ≤ c ∧ c ≤ 'F' then some (c.toNat - 'A'.toNat + 10)
  else none

def unitDone (seen : List Char) (first : Option Nat) (value : Nat) : Option Mode :=
  let isFirst := 0xD800 ≤ value && value < 0xDC00
  let isSecond := 0xDC00 ≤ value && value < 0xE000
  match first with
  | none =>
    if isFirst then some (.pair seen value)
    else if isSecond then none
    else some (.quoted (Char.ofNat value :: seen))
  | some high =>
    if isSecond then
      some (.quoted (Char.ofNat (0x10000 + (high - 0xD800) * 0x400 + (value - 0xDC00)) :: seen))
    else none

def start (c : Char) : Option (Mode × List Token) :=
  if isBlank c then some (.between, [])
  else if c = '"' then some (.quoted [], [])
  else if isWordChar c then some (.word [c], [])
  else (punctuation? c).map fun t => (.between, [t])

/-- Reads one character. Gives the mode after it and the tokens that it completes. -/
def step (m : Mode) (c : Char) : Option (Mode × List Token) :=
  match m with
  | .between => start c
  | .word seen =>
    if isWordChar c then some (.word (c :: seen), [])
    else do
      let v ← word? seen.reverse
      let (m, ts) ← start c
      return (m, .word v :: ts)
  | .quoted seen =>
    if c = '"' then some (.between, [.text (String.ofList seen.reverse)])
    else if c = '\\' then some (.escape seen, [])
    else if c.toNat < 0x20 then none
    else some (.quoted (c :: seen), [])
  | .escape seen =>
    if c = 'u' then some (.unit seen none 4 0, [])
    else (letter? c).map fun l => (.quoted (l :: seen), [])
  | .unit seen first left value => do
    let d ← hexDigit? c
    if left ≤ 1 then
      let m ← unitDone seen first (16 * value + d)
      return (m, [])
    else return (.unit seen first (left - 1) (16 * value + d), [])
  | .pair seen first => if c = '\\' then some (.pairEscape seen first, []) else none
  | .pairEscape seen first => if c = 'u' then some (.unit seen (some first) 4 0, []) else none

def finish : Mode → Option (List Token)
  | .between => some []
  | .word seen => (word? seen.reverse).map fun v => [.word v]
  | _ => none

def scan (m : Mode) : List Char → Option (List Token)
  | [] => finish m
  | c :: cs => do
    let (m, ts) ← step m c
    let rest ← scan m cs
    return ts ++ rest

end Token

end Residue256.Json
