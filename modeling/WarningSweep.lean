import WarningSweep.Batch.Plan
import WarningSweep.Batch.Result
import WarningSweep.Batch.Run
import WarningSweep.Buffer
import WarningSweep.Command.Grammar
import WarningSweep.Command.Request
import WarningSweep.Command.Run
import WarningSweep.Constant.Basic
import WarningSweep.Constant.Declaration
import WarningSweep.Constant.Extraction
import WarningSweep.Constant.Header
import WarningSweep.Files.Access
import WarningSweep.Files.Path
import WarningSweep.Files.Replace
import WarningSweep.Files.Tree
import WarningSweep.Log.Record
import WarningSweep.Log.Sink
import WarningSweep.Main
import WarningSweep.Marker.Basic
import WarningSweep.Number
import WarningSweep.Proofs.Batch.File
import WarningSweep.Proofs.Batch.Isolation
import WarningSweep.Proofs.Batch.Plan
import WarningSweep.Proofs.Batch.Removal
import WarningSweep.Proofs.Batch.Tally
import WarningSweep.Proofs.Buffer
import WarningSweep.Proofs.Buffer.History
import WarningSweep.Proofs.Command.Containment
import WarningSweep.Proofs.Constant.Declaration
import WarningSweep.Proofs.Constant.Extraction
import WarningSweep.Proofs.Constant.Grammar
import WarningSweep.Proofs.Constant.Header
import WarningSweep.Proofs.Constant.Reading
import WarningSweep.Proofs.Constant.Symbol
import WarningSweep.Proofs.Files.Access
import WarningSweep.Proofs.Files.Atomicity
import WarningSweep.Proofs.Files.Fault
import WarningSweep.Proofs.Files.Path
import WarningSweep.Proofs.Files.Replace
import WarningSweep.Proofs.Files.Tree
import WarningSweep.Proofs.Files.Write
import WarningSweep.Proofs.LeafRule
import WarningSweep.Proofs.Log.Frame
import WarningSweep.Proofs.Log.History
import WarningSweep.Proofs.Marker.Balance
import WarningSweep.Proofs.Marker.Fault
import WarningSweep.Proofs.Marker.Reading
import WarningSweep.Proofs.Marker.Regions
import WarningSweep.Proofs.Marker.Unique
import WarningSweep.Proofs.Operation
import WarningSweep.Proofs.Report.Agreement
import WarningSweep.Proofs.Settings.Entries
import WarningSweep.Proofs.Settings.Markers
import WarningSweep.Proofs.Settings.RoundTrip
import WarningSweep.Proofs.Source.Collect
import WarningSweep.Proofs.Source.Completeness
import WarningSweep.Proofs.Source.Matching
import WarningSweep.Proofs.Source.Parts
import WarningSweep.Proofs.Source.Patch
import WarningSweep.Proofs.Sweep.Basic
import WarningSweep.Proofs.Sweep.Bytes
import WarningSweep.Proofs.Sweep.Commit
import WarningSweep.Proofs.Sweep.Count
import WarningSweep.Proofs.Sweep.Deletion
import WarningSweep.Proofs.Sweep.Descent
import WarningSweep.Proofs.Sweep.Fault
import WarningSweep.Proofs.Sweep.FixedPoint
import WarningSweep.Proofs.Sweep.Literal
import WarningSweep.Proofs.Sweep.Loss
import WarningSweep.Proofs.Sweep.Meaning
import WarningSweep.Proofs.Sweep.Residue
import WarningSweep.Proofs.Text.Blank
import WarningSweep.Proofs.Text.Count
import WarningSweep.Proofs.Text.Encoding
import WarningSweep.Proofs.Text.Line
import WarningSweep.Proofs.Text.Occurrence
import WarningSweep.Proofs.Text.Portion
import WarningSweep.Proofs.Text.Warning
import WarningSweep.Proofs.Yaml.Building
import WarningSweep.Proofs.Yaml.Folding
import WarningSweep.Proofs.Yaml.Nodes
import WarningSweep.Proofs.Yaml.Printing
import WarningSweep.Proofs.Yaml.RoundTrip
import WarningSweep.Proofs.Yaml.Scalar
import WarningSweep.Proofs.Yaml.Scan
import WarningSweep.Proofs.Yaml.Tokens
import WarningSweep.Proofs.Yaml.Values
import WarningSweep.Report
import WarningSweep.Settings.Basic
import WarningSweep.Settings.Check
import WarningSweep.Settings.Document
import WarningSweep.Source.Collect
import WarningSweep.Source.Diff
import WarningSweep.Sweep
import WarningSweep.Text.Basic
import WarningSweep.Text.CharClass
import WarningSweep.Text.Encoding
import WarningSweep.Text.LetterCase
import WarningSweep.Text.Portion
import WarningSweep.Text.Quoted
import WarningSweep.Value.Basic
import WarningSweep.Value.Moment
import WarningSweep.Yaml.Cursor
import WarningSweep.Yaml.Document
import WarningSweep.Yaml.Node.Cell
import WarningSweep.Yaml.Node.Graph
import WarningSweep.Yaml.Node.Parse
import WarningSweep.Yaml.Node.Scalar
import WarningSweep.Yaml.Print.Document
import WarningSweep.Yaml.Print.Line
import WarningSweep.Yaml.Tag
import WarningSweep.Yaml.Token.Basic
import WarningSweep.Yaml.Token.Scalar
import WarningSweep.Yaml.Token.Scan
