namespace Residue256

/-- A JSON value as far as a limb record needs to know it. -/
inductive Json where
  | null
  | truth (b : Bool)
  | int (n : Int)
  | real
  | text (s : String)
  | array (items : List Json)
  | object (members : List (String × Json))
deriving Repr

namespace Json

/-- The value of the last member with a given name. -/
def lastMember? (name : String) (members : List (String × Json)) : Option Json :=
  (members.filter fun m => m.1 == name).getLast?.map Prod.snd

end Json

end Residue256
