import SearchBox.Lexeme.Grammar
import SearchBox.Main
import SearchBox.Search
import SearchBox.Service.Http
import SearchBox.Service.Tools
import SearchBox.Token.Printer
import SearchBox.Proofs.Lexeme.Reading
import SearchBox.Proofs.Text.Trim
import SearchBox.Proofs.Token.Unread
import SearchBox.Proofs.Token.Lookahead
import SearchBox.Proofs.Token.Canonical
import SearchBox.Proofs.Token.Simulation
import SearchBox.Proofs.Token.RoundTrip
import SearchBox.Proofs.Lexeme.Append
import SearchBox.Proofs.Filter.Merge
import SearchBox.Proofs.Operator.Compile
import SearchBox.Proofs.Query.Concatenation
import SearchBox.Proofs.Query.Separation
import SearchBox.Proofs.Query.Stability
import SearchBox.Proofs.Token.Shape
import SearchBox.Proofs.Filter.Shape
import SearchBox.Proofs.Operator.Shape
import SearchBox.Proofs.Query.Shape
import SearchBox.Proofs.Query.Blank
import SearchBox.Proofs.Operator.LookBehind
import SearchBox.Proofs.OrderedMap
import SearchBox.Proofs.Plan.Jobs
import SearchBox.Proofs.Service.Agreement
import SearchBox.Proofs.Filter.Sections
import SearchBox.Proofs.Lexeme.Source
import SearchBox.Proofs.Token.Conservation
import SearchBox.Proofs.Lexeme.Word
import SearchBox.Proofs.Query.Words
import SearchBox.Proofs.Filter.Key
import SearchBox.Proofs.Text.Split
import SearchBox.Proofs.Path
import SearchBox.Proofs.Pattern.Search
import SearchBox.Proofs.Pattern.Marker
import SearchBox.Proofs.Operator.Discarded
import SearchBox.Proofs.Plan.Pulling
import SearchBox.Proofs.Search.Trace
import SearchBox.Proofs.Pattern.Escape
import SearchBox.Proofs.Token.Rescanning
import SearchBox.Proofs.Token.Guarded
import SearchBox.Proofs.Service.Rejection
