import Residue256.Json.Token

namespace Residue256.Json

/-- An array or an object that has been opened, with what has been read of it, the last first. -/
inductive Frame where
  | array (items : List Json)
  | object (members : List (String × Json))
  | member (members : List (String × Json)) (name : String)

inductive Want where
  | value
  | item
  | name
  | member
  | colon
  | more

inductive Progress where
  | want (w : Want) (stack : List Frame)
  | done (v : Json)

/-- The most arrays and objects that are not empty and stand inside one another. -/
def maxDepth : Nat := 200

def place (v : Json) : List Frame → Option Progress
  | [] => some (.done v)
  | .array items :: stack => some (.want .more (.array (v :: items) :: stack))
  | .member members name :: stack => some (.want .more (.object ((name, v) :: members) :: stack))
  | .object _ :: _ => none

def begin? (stack : List Frame) : Token → Option Progress
  | .openObject => some (.want .member (.object [] :: stack))
  | .openArray => some (.want .item (.array [] :: stack))
  | .text s => place (.text s) stack
  | .word v => place v stack
  | _ => none

def nameMember? (stack : List Frame) (t : Token) : Option Progress :=
  match stack, t with
  | .object members :: stack, .text name => some (.want .colon (.member members name :: stack))
  | _, _ => none

def take? : Progress → Token → Option Progress
  | .want .value stack, t => begin? stack t
  | .want .item (.array _ :: stack), .closeArray => place (.array []) stack
  | .want .item stack, t => if stack.length ≤ maxDepth then begin? stack t else none
  | .want .member (.object _ :: stack), .closeObject => place (.object []) stack
  | .want .member stack, t => if stack.length ≤ maxDepth then nameMember? stack t else none
  | .want .name stack, t => nameMember? stack t
  | .want .colon stack, .colon => some (.want .value stack)
  | .want .more (.array items :: stack), .comma => some (.want .value (.array items :: stack))
  | .want .more (.array items :: stack), .closeArray => place (.array items.reverse) stack
  | .want .more (.object ms :: stack), .comma => some (.want .name (.object ms :: stack))
  | .want .more (.object ms :: stack), .closeObject => place (.object ms.reverse) stack
  | _, _ => none

def read? (cs : List Char) : Option Json := do
  let ts ← Token.scan .between cs
  match ← ts.foldlM take? (.want .value []) with
  | .done v => some v
  | .want .. => none

end Residue256.Json
