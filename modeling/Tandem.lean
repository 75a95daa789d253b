import Tandem.Main
import Tandem.Rehearsal
import Tandem.Proofs.CommandLine.Grammar
import Tandem.Proofs.Differ
import Tandem.Proofs.Environment
import Tandem.Proofs.Host.World
import Tandem.Proofs.NormalDiff.CommonFront
import Tandem.Proofs.NormalDiff.Faithful
import Tandem.Proofs.NormalDiff.Positions
import Tandem.Proofs.NormalDiff.Texts
import Tandem.Proofs.NormalDiff.WholeLines
import Tandem.Proofs.Report
import Tandem.Proofs.Run.Apart
import Tandem.Proofs.Run.ListingOrder
import Tandem.Proofs.Run.Rerun
import Tandem.Proofs.Run.Trace
import Tandem.Proofs.Run.Truncation
