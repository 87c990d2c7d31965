import Residue256.Digits
import Residue256.Text.Shown

namespace Residue256.Text

/-- The quote that suits the characters of a text. -/
def quoteFor (cs : List Char) : Char := if cs.contains '\'' && !cs.contains '"' then '"' else '\''

def hexEscape (mark : Char) (width n : Nat) : List Char :=
  '\\' :: mark :: ((Digits.split 16 width n).map Nat.digitChar).reverse

/-- The escape of a character by its number, with as many digits as it needs of two, four and
eight. -/
def escaped (n : Nat) : List Char :=
  if n < 0x100 then hexEscape 'x' 2 n
  else if n < 0x10000 then hexEscape 'u' 4 n
  else hexEscape 'U' 8 n

def quoted (quote c : Char) : List Char :=
  if c = quote ∨ c = '\\' then ['\\', c]
  else if c = '\n' then ['\\', 'n']
  else if c = '\r' then ['\\', 'r']
  else if c = '\t' then ['\\', 't']
  else if isShown c then [c]
  else escaped c.toNat

def quotedByte (quote : Char) (b : UInt8) : List Char :=
  if b.toNat < 0x80 then quoted quote (Char.ofNat b.toNat) else escaped b.toNat

def quote (s : String) : String :=
  let q := quoteFor s.toList
  String.ofList (q :: s.toList.flatMap (quoted q) ++ [q])

def quoteBytes (bs : List UInt8) : String :=
  let q := quoteFor (bs.map fun b => Char.ofNat b.toNat)
  String.ofList ('b' :: q :: bs.flatMap (quotedByte q) ++ [q])

end Residue256.Text
