namespace Residue256.Numeral

def isBlank (c : Char) : Bool := c == ' ' || (9 ≤ c.toNat && c.toNat ≤ 13)

def trim (cs : List Char) : List Char :=
  ((cs.dropWhile isBlank).reverse.dropWhile isBlank).reverse

/-- Takes out the underscores, each of which has to stand between two digits. What comes before the
characters is given. -/
def ungroup? (before : Option Char) : List Char → Option (List Char)
  | [] => some []
  | '_' :: cs =>
    if before.any Char.isDigit && cs.head?.any Char.isDigit then ungroup? none cs else none
  | c :: cs => (ungroup? (some c) cs).map (c :: ·)

def clean? (cs : List Char) : Option (List Char) := ungroup? none (trim cs)

def natural? (cs : List Char) : Option Nat :=
  if cs.isEmpty || !cs.all Char.isDigit then none else some (Nat.ofDigitChars 10 cs 0)

def integer? (cs : List Char) : Option Int := do
  match ← clean? cs with
  | '-' :: cs => (natural? cs).map fun n => -(n : Int)
  | '+' :: cs => (natural? cs).map Int.ofNat
  | cs => (natural? cs).map Int.ofNat

def unsigned : List Char → List Char
  | '-' :: cs | '+' :: cs => cs
  | cs => cs

/-- The number of digits at the front of a numeral, if underscores part them as they may. -/
def digitCount? (cs : List Char) : Option Nat :=
  let digits := (unsigned (trim cs)).takeWhile fun c => c.isDigit || c == '_'
  (ungroup? none digits).map List.length

end Residue256.Numeral
