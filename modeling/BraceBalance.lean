import BraceBalance.Main
import BraceBalance.Proofs.Balance.Concatenation
import BraceBalance.Proofs.Check.FormatIndependence
import BraceBalance.Proofs.Comment.StringLexer
import BraceBalance.Proofs.Report.JsonRoundTrip
import BraceBalance.Proofs.Scan.Collect
import BraceBalance.Proofs.Settings.Precedence
import BraceBalance.Proofs.Settings.TomlRoundTrip
import BraceBalance.Proofs.Balance.WellNested
import BraceBalance.Proofs.Report.Unambiguous
import BraceBalance.Proofs.Check.ListingUnambiguous
import BraceBalance.Packed.Basic
import BraceBalance.Packed.Scan
import BraceBalance.Proofs.Packed.Encoding
import BraceBalance.Proofs.Packed.Search
import BraceBalance.Proofs.Packed.Word
import BraceBalance.Proofs.Packed.Simulation
import BraceBalance.Proofs.Balance.CommentIndependence
import BraceBalance.Proofs.Balance.Replay
import BraceBalance.Proofs.Balance.TraceChain
import BraceBalance.Proofs.Packed.UniversalLines
import BraceBalance.Proofs.Comment.FirstMarker
import BraceBalance.Proofs.Check.Verdicts
import BraceBalance.Proofs.Scan.DefaultExclude
import BraceBalance.Proofs.Scan.Relocation
import BraceBalance.Proofs.Check.LoadedSettings
import BraceBalance.Proofs.Settings.Shown
import BraceBalance.Proofs.Report.Layouts
import BraceBalance.Proofs.Settings.NewFile
import BraceBalance.Proofs.Check.CountedFiles
import BraceBalance.Proofs.Comment.SinglePass
