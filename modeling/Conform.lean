import Conform.Catalog.Functions
import Conform.Catalog.Records
import Conform.Failure.Tree
import Conform.Proofs.Choice
import Conform.Proofs.Counterpart
import Conform.Proofs.Declaration
import Conform.Proofs.Extent
import Conform.Proofs.FixedPoint
import Conform.Proofs.Log
import Conform.Proofs.NumberText
import Conform.Proofs.Object
import Conform.Proofs.Origin
import Conform.Proofs.Pipeline
import Conform.Proofs.Pointwise
import Conform.Proofs.Position
import Conform.Proofs.Preorder
import Conform.Proofs.Presence
import Conform.Proofs.Reordering
import Conform.Proofs.Report
import Conform.Proofs.Required
import Conform.Proofs.RoundTrip
import Conform.Proofs.Scanning
import Conform.Proofs.Undeclared
import Conform.Proofs.Widening
import Conform.Proofs.Wording
import Conform.Schema.Check
import Conform.Schema.Outline
