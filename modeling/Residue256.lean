import Residue256.Session
import Residue256.Proofs.Scalar.Order
import Residue256.Proofs.Scalar.Signed
import Residue256.Proofs.Int256.Integer
import Residue256.Proofs.Scalar.Words
import Residue256.Proofs.Scalar.ToInt256
import Residue256.Proofs.Window
import Residue256.Proofs.Conversion
import Residue256.Proofs.Int256.Bytes
import Residue256.Proofs.Column
import Residue256.Proofs.Pipeline
import Residue256.Proofs.Operand.Arithmetic
import Residue256.Proofs.Expression
import Residue256.Proofs.Transfer
import Residue256.Proofs.LimbRecord.Acceptance
import Residue256.Proofs.LimbRecord.Pattern
import Residue256.Proofs.Layout
import Residue256.Proofs.Sorting.Permutation
import Residue256.Proofs.Misfit
import Residue256.Proofs.Operand.Values
import Residue256.Proofs.Operand.Sound
import Residue256.Proofs.Operand.Combined
import Residue256.Proofs.Operation
import Residue256.Proofs.Reachable
import Residue256.Proofs.Buffer
import Residue256.Proofs.Hierarchy
import Residue256.Proofs.Opposite
import Residue256.Proofs.Operand.Mixed
import Residue256.Proofs.Operand.Equality
import Residue256.Proofs.Operand.Set
import Residue256.Proofs.Sorting.Search
import Residue256.Proofs.Sorting.Ordered
import Residue256.Proofs.Sorting.Order
import Residue256.Proofs.Operand.Order
import Residue256.Proofs.Int256.Order
import Residue256.Proofs.SignClasses
import Residue256.Proofs.Operand.Words
import Residue256.Proofs.Int256.Arithmetic
import Residue256.Proofs.Int256.Chain
import Residue256.Proofs.LimbRecord.Report
import Residue256.Proofs.Json.Naturals
import Residue256.Proofs.LimbRecord.RoundTrip
import Residue256.Proofs.Scalar.Signs
import Residue256.Proofs.Declaration
import Residue256.Proofs.Registry
import Residue256.Proofs.Settings
