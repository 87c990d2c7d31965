import Residue256.Number

namespace Residue256

mutual

/-- How a request describes an operand. The form of a stream describes the items that the stream is
going to make. -/
inductive Form where
  | nothing
  | number (x : Number)
  | text (s : String)
  | bytes (bs : List UInt8)
  | list (xs : List Form)
  | stream (xs : List Form)
  | table (entries : List (String × Form))
  | family (F : FamilyForm)
  | scalar (F : FamilyForm) (value : Form)
  | int256 (n : Form)
  | parts (low high : Form)
  | record (limbs : Form)
  | result (call : Nat)
  | current

inductive FamilyForm where
  | named (name : String)
  | declared (tag name : String) (base : Option FamilyForm) (modulus : Option Form)

end

end Residue256
