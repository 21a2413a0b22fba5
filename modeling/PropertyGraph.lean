import PropertyGraph.AttributeFilter
import PropertyGraph.Calendar
import PropertyGraph.Config.Basic
import PropertyGraph.Config.Directive
import PropertyGraph.Config.Setting
import PropertyGraph.Config.Text
import PropertyGraph.Decimal.Notation
import PropertyGraph.Decimal.Reading
import PropertyGraph.Decimal.Shortest
import PropertyGraph.EdgeKey
import PropertyGraph.Element
import PropertyGraph.Error
import PropertyGraph.Graph.Basic
import PropertyGraph.Graph.InPlace
import PropertyGraph.Graph.Reachable
import PropertyGraph.Graph.Traversal
import PropertyGraph.Instant
import PropertyGraph.Json.Basic
import PropertyGraph.Json.Number
import PropertyGraph.Json.Reader
import PropertyGraph.Json.Record
import PropertyGraph.Json.Token
import PropertyGraph.Json.Writer
import PropertyGraph.Json.Written
import PropertyGraph.Matching.Basic
import PropertyGraph.Matching.Plan
import PropertyGraph.Matching.Queue
import PropertyGraph.Matching.Search
import PropertyGraph.NodeLink.Document
import PropertyGraph.NodeLink.Graph
import PropertyGraph.Proofs.Accounting
import PropertyGraph.Proofs.BagEquality
import PropertyGraph.Proofs.Batch
import PropertyGraph.Proofs.Built
import PropertyGraph.Proofs.Calendar
import PropertyGraph.Proofs.Content
import PropertyGraph.Proofs.Conversion
import PropertyGraph.Proofs.Double
import PropertyGraph.Proofs.Except
import PropertyGraph.Proofs.ExportedTimestamp
import PropertyGraph.Proofs.Extraction
import PropertyGraph.Proofs.Filter.Condition
import PropertyGraph.Proofs.Filter.Construction
import PropertyGraph.Proofs.Filter.OwnBag
import PropertyGraph.Proofs.Filter.RoundTrip
import PropertyGraph.Proofs.History
import PropertyGraph.Proofs.Import
import PropertyGraph.Proofs.InPlace
import PropertyGraph.Proofs.Instant
import PropertyGraph.Proofs.LooseEquality
import PropertyGraph.Proofs.LooseOrder
import PropertyGraph.Proofs.Marking
import PropertyGraph.Proofs.Matching.AnchorSet
import PropertyGraph.Proofs.Matching.Anchors
import PropertyGraph.Proofs.Matching.Budget
import PropertyGraph.Proofs.Matching.Embedding
import PropertyGraph.Proofs.Matching.Failure
import PropertyGraph.Proofs.Matching.Order
import PropertyGraph.Proofs.Matching.Partial
import PropertyGraph.Proofs.Matching.Plan
import PropertyGraph.Proofs.Matching.Queue
import PropertyGraph.Proofs.Matching.Result
import PropertyGraph.Proofs.Matching.Search
import PropertyGraph.Proofs.Matching.Termination
import PropertyGraph.Proofs.NodeLink
import PropertyGraph.Proofs.Notification
import PropertyGraph.Proofs.Properties
import PropertyGraph.Proofs.Query.Compile
import PropertyGraph.Proofs.Query.Meaning
import PropertyGraph.Proofs.Query.Operators
import PropertyGraph.Proofs.Query.Selection
import PropertyGraph.Proofs.Regex.Anchored
import PropertyGraph.Proofs.Regex.Enclosed
import PropertyGraph.Proofs.Regex.Lookahead
import PropertyGraph.Proofs.Regex.Stable
import PropertyGraph.Proofs.Removal
import PropertyGraph.Proofs.Restrict
import PropertyGraph.Proofs.Rewording
import PropertyGraph.Proofs.Run
import PropertyGraph.Proofs.SelfEquality
import PropertyGraph.Proofs.SortedMap
import PropertyGraph.Proofs.Store.Consistent
import PropertyGraph.Proofs.Store.Dangling
import PropertyGraph.Proofs.Store.Indexed
import PropertyGraph.Proofs.Store.Lookup
import PropertyGraph.Proofs.Store.Scan
import PropertyGraph.Proofs.StoredValues
import PropertyGraph.Proofs.Subgraph
import PropertyGraph.Proofs.Surroundings
import PropertyGraph.Proofs.Traversal
import PropertyGraph.Proofs.Union
import PropertyGraph.Proofs.Value
import PropertyGraph.Properties
import PropertyGraph.Query.Basic
import PropertyGraph.Query.Compile
import PropertyGraph.Regex.Automaton
import PropertyGraph.Regex.Basic
import PropertyGraph.Regex.Bracket
import PropertyGraph.Regex.Escape
import PropertyGraph.Regex.Match
import PropertyGraph.Regex.Mode
import PropertyGraph.Regex.Property
import PropertyGraph.Regex.Reader
import PropertyGraph.SortedMap
import PropertyGraph.Store
import PropertyGraph.Subscription
import PropertyGraph.Text.Age
import PropertyGraph.Text.Alphabetic
import PropertyGraph.Text.Blank
import PropertyGraph.Text.Break
import PropertyGraph.Text.ByteRanges
import PropertyGraph.Text.CaseChange
import PropertyGraph.Text.CaseFold
import PropertyGraph.Text.Category
import PropertyGraph.Text.Category.Control
import PropertyGraph.Text.Category.Letter
import PropertyGraph.Text.Category.Mark
import PropertyGraph.Text.Category.Number
import PropertyGraph.Text.Category.Punctuation
import PropertyGraph.Text.Category.Symbol
import PropertyGraph.Text.CharSet
import PropertyGraph.Text.Digits
import PropertyGraph.Text.Emoji
import PropertyGraph.Text.Graphic
import PropertyGraph.Text.Identifier
import PropertyGraph.Text.Ideograph
import PropertyGraph.Text.Invisible
import PropertyGraph.Text.Number
import PropertyGraph.Text.Property
import PropertyGraph.Text.Ranges
import PropertyGraph.Text.Reading
import PropertyGraph.Text.Script
import PropertyGraph.Text.Sign
import PropertyGraph.Text.WordChar
import PropertyGraph.Toml.Basic
import PropertyGraph.Toml.Reader
import PropertyGraph.Toml.Scalar
import PropertyGraph.Toml.Writer
import PropertyGraph.Value.Basic
import PropertyGraph.Value.Json
import PropertyGraph.Value.Loose
import PropertyGraph.Vocabulary
import PropertyGraph.Word
