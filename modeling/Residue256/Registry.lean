import Residue256.Fault
import Residue256.Field
import Residue256.Text.Lower

namespace Residue256

namespace Field

def curve25519 : Field :=
  .root "curve25519" "Curve25519Scalar"
    { value := 2 ^ 252 + 27742317777372353535851937790883648493 }

def dory : Field :=
  .root "dory" "DoryScalar"
    { value := 0x73EDA753299D7D483339D80809A1D80553BDA402FFFE5BFEFFFFFFFF00000001 }

def bn254 : Field :=
  .root "bn254" "BN254Scalar"
    { value := 21888242871839275222246405745257275088548364400416034343698204186575808495617 }

/-- The fields that go by a name, each under its name. -/
def registered : List (String × Field) :=
  [("curve25519", curve25519), ("dory", dory), ("bn254", bn254)]

def ofName (name : String) : Except Fault Field :=
  match registered.lookup (Text.lower name) with
  | some F => .ok F
  | none => .error (.unknownField name)

end Field

namespace Family

def scalar : Family := .unset "" "Scalar"

end Family

/-- What is settled before any request. -/
structure Settings where
  defaultField : String := "curve25519"
deriving DecidableEq, Repr

namespace Settings

def ofEnvironment (value : Option String) : Settings :=
  match value with
  | some name => { defaultField := name }
  | none => {}

end Settings

end Residue256
