import ProxyLog.Config.Level
import ProxyLog.Config.Settings
import ProxyLog.Config.Source
import ProxyLog.Fault
import ProxyLog.File.Bits
import ProxyLog.File.Contents
import ProxyLog.File.Directory
import ProxyLog.File.Gzip
import ProxyLog.File.Inflate
import ProxyLog.Header.Account
import ProxyLog.Header.Diff
import ProxyLog.Header.Name
import ProxyLog.Header.Set
import ProxyLog.Log.Block
import ProxyLog.Log.Edit
import ProxyLog.Log.Fault
import ProxyLog.Log.File
import ProxyLog.Log.Notice
import ProxyLog.Log.Outcome
import ProxyLog.Log.Reading
import ProxyLog.Main
import ProxyLog.Net.Address
import ProxyLog.Net.Query
import ProxyLog.Net.Url
import ProxyLog.Number.Binary64
import ProxyLog.Number.Decimal
import ProxyLog.Number.Digits
import ProxyLog.Number.Rounding
import ProxyLog.OrderedMap
import ProxyLog.Record.Basic
import ProxyLog.Record.Family
import ProxyLog.Record.Fault
import ProxyLog.Record.Grammar
import ProxyLog.Record.Layout
import ProxyLog.Record.Line
import ProxyLog.Record.Tag
import ProxyLog.Record.Text
import ProxyLog.Report.Arguments
import ProxyLog.Report.Description
import ProxyLog.Report.Help
import ProxyLog.Report.Run
import ProxyLog.Report.Sample
import ProxyLog.Text.Blank
import ProxyLog.Text.Case
import ProxyLog.Text.CaseTable
import ProxyLog.Text.Digit
import ProxyLog.Text.Encoding
import ProxyLog.Text.Lines
import ProxyLog.Text.Printable
import ProxyLog.Text.Quoted
import ProxyLog.Text.Span
import ProxyLog.Text.Utf8
import ProxyLog.Time.Calendar
import ProxyLog.Time.Duration
import ProxyLog.Time.Fault
import ProxyLog.Time.Instant
import ProxyLog.Transaction.Basic
import ProxyLog.Transaction.Builder
import ProxyLog.Transaction.Consistency
import ProxyLog.Transaction.Group
import ProxyLog.Transaction.Root
import ProxyLog.Transaction.Run
import ProxyLog.Transaction.Set
import ProxyLog.Transaction.Walk
import ProxyLog.Yaml.Document
import ProxyLog.Yaml.Folding
import ProxyLog.Yaml.Node
import ProxyLog.Yaml.Scalar
import ProxyLog.Yaml.Token
import ProxyLog.Yaml.Value
import ProxyLog.Proofs.Header.Restriction
import ProxyLog.Proofs.Header.OneName
import ProxyLog.Proofs.Header.FinalView
import ProxyLog.Proofs.Header.Name
import ProxyLog.Proofs.Header.Set
import ProxyLog.Proofs.Transaction.Buffer
import ProxyLog.Proofs.Transaction.FinalView
import ProxyLog.Proofs.Header.Account
import ProxyLog.Proofs.Header.Order
import ProxyLog.Proofs.Transaction.Ledger
import ProxyLog.Proofs.Transaction.Waiting
import ProxyLog.Proofs.Transaction.KeptApart
import ProxyLog.Proofs.Text.Blank
import ProxyLog.Proofs.Text.Lines
import ProxyLog.Proofs.Transaction.Taking
import ProxyLog.Proofs.Transaction.Merging
import ProxyLog.Proofs.Log.Line
import ProxyLog.Proofs.Log.StartLine
import ProxyLog.Proofs.Log.Delivery
import ProxyLog.Proofs.Log.Grammar
import ProxyLog.Proofs.Log.RoundTrip
import ProxyLog.Proofs.Log.Concatenation
import ProxyLog.Proofs.Log.Paths
import ProxyLog.Proofs.Header.Arriving
import ProxyLog.Proofs.Header.Received
import ProxyLog.Proofs.Transaction.Step
import ProxyLog.Proofs.Transaction.Received
import ProxyLog.Proofs.Transaction.Response
import ProxyLog.Proofs.Transaction.Classes
import ProxyLog.Proofs.Transaction.Txid
import ProxyLog.Proofs.Transaction.Roots
import ProxyLog.Proofs.Transaction.Search
import ProxyLog.Proofs.Transaction.Groups
import ProxyLog.Proofs.Transaction.Coverage
import ProxyLog.Proofs.Transaction.Reordering
import ProxyLog.Proofs.Record.Digits
import ProxyLog.Proofs.Log.Malformed
import ProxyLog.Proofs.Text.Quoted
import ProxyLog.Proofs.Log.NamedLine
import ProxyLog.Proofs.Record.FromLine
import ProxyLog.Proofs.Transaction.WellFormed
import ProxyLog.Proofs.Log.ReadSet
import ProxyLog.Proofs.Header.Edit
import ProxyLog.Proofs.Transaction.Preorder
import ProxyLog.Proofs.Transaction.Hops
import ProxyLog.Proofs.Log.Noise
import ProxyLog.Proofs.Transaction.RootSet
import ProxyLog.Proofs.Header.Slots
import ProxyLog.Proofs.Header.Replacing
import ProxyLog.Proofs.Text.Case
import ProxyLog.Proofs.Header.Spelling
import ProxyLog.Proofs.Text.Utf8
import ProxyLog.Proofs.Net.Query
import ProxyLog.Transaction.Draft
import ProxyLog.Proofs.Transaction.Refusal
import ProxyLog.Proofs.Config.Settings
import ProxyLog.Proofs.Transaction.ClientPhase
import ProxyLog.Proofs.Record.Layout
