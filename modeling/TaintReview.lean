import TaintReview.Text.Basic
import TaintReview.Text.Word
import TaintReview.Text.Case
import TaintReview.Text.Lower
import TaintReview.Text.Quoted
import TaintReview.Decimal.Binary
import TaintReview.Decimal.Shortest
import TaintReview.Decimal.Layout
import TaintReview.Json.Basic
import TaintReview.Json.Printer
import TaintReview.Json.Written
import TaintReview.Json.Reader
import TaintReview.Json.Decode
import TaintReview.Json.Metadata
import TaintReview.Stage
import TaintReview.Error
import TaintReview.Category
import TaintReview.Impact
import TaintReview.Record
import TaintReview.Json.Shape
import TaintReview.Candidate
import TaintReview.Endpoint
import TaintReview.FlowPath
import TaintReview.Findings
import TaintReview.Report
import TaintReview.Text.Pattern
import TaintReview.Lexicon.Tables
import TaintReview.Lexicon.Keywords
import TaintReview.Extraction
import TaintReview.Settings
import TaintReview.Yaml.Cursor
import TaintReview.Yaml.Scalar
import TaintReview.Yaml.Token.Names
import TaintReview.Yaml.Token.Lexer
import TaintReview.Yaml.Node
import TaintReview.Yaml.Value
import TaintReview.Yaml.Printer
import TaintReview.Settings.Document
import TaintReview.Graph.Store
import TaintReview.Graph.Basic
import TaintReview.Graph.Statements
import TaintReview.Graph.Handlers
import TaintReview.Completion
import TaintReview.Session
import TaintReview.Tracker
import TaintReview.Funnel
import TaintReview.Analyzer
import TaintReview.Analyzer.Documentation
import TaintReview.Analyzer.Completion
import TaintReview.Persistence
import TaintReview.Review
import TaintReview.Proofs.Stages
import TaintReview.Proofs.Outcome
import TaintReview.Proofs.Accounting
import TaintReview.Proofs.Members
import TaintReview.Proofs.Entities
import TaintReview.Proofs.WriteBack
import TaintReview.Proofs.FlowLinks
import TaintReview.Proofs.GraphShape
import TaintReview.Proofs.Acting
import TaintReview.Proofs.Defaults
import TaintReview.Proofs.Independence
import TaintReview.Proofs.Cancellation
import TaintReview.Proofs.Writes
import TaintReview.Proofs.Confirmation
import TaintReview.Proofs.FlowEnds
import TaintReview.Proofs.Integrity
import TaintReview.Proofs.GraphHistory
import TaintReview.Proofs.MapRoundTrip
import TaintReview.Proofs.PrintedText
import TaintReview.Proofs.TextRoundTrip
import TaintReview.Proofs.Duplicates
import TaintReview.Proofs.Texts
import TaintReview.Proofs.FlowLayout
import TaintReview.Proofs.FlowPairing
import TaintReview.Proofs.FileFlows
import TaintReview.Proofs.PatternSearch
import TaintReview.Proofs.LetterCase
import TaintReview.Proofs.Phrases
import TaintReview.Proofs.KeywordEvidence
import TaintReview.Proofs.CallPaths
import TaintReview.Proofs.NameResolution
import TaintReview.Proofs.AddedLines
import TaintReview.Proofs.NodeProperties
import TaintReview.Proofs.Scores
import TaintReview.Proofs.DecodedParts
import TaintReview.Proofs.BuiltConfidence
import TaintReview.Proofs.ReportTables
import TaintReview.Proofs.StageWalk
import TaintReview.Proofs.FunnelRows
import TaintReview.Proofs.MarkerLines
import TaintReview.Proofs.FunnelKeywords
import TaintReview.Proofs.NumberColumns
