import PackageFinder.Main
import PackageFinder.Report.Reader
import PackageFinder.Run.Window
import PackageFinder.Proofs.Run.Session
import PackageFinder.Proofs.Run.Window
import PackageFinder.Proofs.Run.Answer
import PackageFinder.Proofs.Run.Report
import PackageFinder.Proofs.Run.Failure
import PackageFinder.Proofs.Json.Scalar
import PackageFinder.Proofs.Text.Utf8
import PackageFinder.Proofs.Json.Record
import PackageFinder.Proofs.Report.RoundTrip
import PackageFinder.Proofs.Run.EmptyPage
import PackageFinder.Proofs.Run.Calls
import PackageFinder.Proofs.Run.Independence
import PackageFinder.Proofs.Command.Arguments
import PackageFinder.Proofs.Command.Outcome
import PackageFinder.Proofs.Run.Warning
import PackageFinder.Link.Pattern
import PackageFinder.Proofs.Link.Embedding
import PackageFinder.Proofs.Link.Pattern
import PackageFinder.Proofs.Link.Search
import PackageFinder.Proofs.Url.Form
import PackageFinder.Proofs.Url.Parser
import PackageFinder.Proofs.Http.Request
import PackageFinder.Proofs.Settings.Source
import PackageFinder.Proofs.Settings.Environment
import PackageFinder.Proofs.Search.Page
import PackageFinder.Proofs.Settings.Overlay
import PackageFinder.Proofs.Json.Layout
import PackageFinder.Proofs.Link.Overlap
import PackageFinder.Proofs.Link.LaterLines
import PackageFinder.Proofs.Json.Nesting
import PackageFinder.Proofs.Report.Layout
import PackageFinder.Proofs.Decimal.Rounding
import PackageFinder.Proofs.Decimal.Value
import PackageFinder.Proofs.Http.Timeout
import PackageFinder.Proofs.Settings.Timeout
