import FileQuery.Main
import FileQuery.Proofs.Query.Grammar
import FileQuery.Proofs.Query.TwoStacks
import FileQuery.Proofs.Query.Parsing
import FileQuery.Proofs.Evaluate.Answers
import FileQuery.Proofs.Evaluate.Content
import FileQuery.Proofs.Evaluate.Naive
import FileQuery.Proofs.Evaluate.Progress
import FileQuery.Proofs.Calendar.IsoReading
import FileQuery.Proofs.Document.PathText
import FileQuery.Proofs.Query.Literal.Size
import FileQuery.Proofs.Query.Literal.Time
import FileQuery.Proofs.Query.NormalForm
import FileQuery.Proofs.Query.PathWord
import FileQuery.Proofs.Query.Printing
import FileQuery.Proofs.Query.Rechecking
import FileQuery.Proofs.Query.Rereading
import FileQuery.Proofs.Query.RoundTrip
import FileQuery.Proofs.Evaluate.Accesses
import FileQuery.Proofs.Evaluate.Laziness
import FileQuery.Proofs.Evaluate.Operations
import FileQuery.Proofs.Document.PathIndex
import FileQuery.Proofs.Query.Breakdown
import FileQuery.Proofs.Evaluate.Causes
import FileQuery.Proofs.Evaluate.Locality
import FileQuery.Proofs.Document.BreakingOff
import FileQuery.Proofs.Document.LongNumbers
import FileQuery.Proofs.Document.Loading
import FileQuery.Proofs.Evaluate.Bytes
import FileQuery.Proofs.Document.Reachability
import FileQuery.Proofs.Text.Decoding
import FileQuery.Proofs.Content.Streaming
import FileQuery.Proofs.Content.Lines
import FileQuery.Proofs.Pattern.Literal
import FileQuery.Proofs.Content.Parts
import FileQuery.Proofs.Content.Windows
import FileQuery.Proofs.Pattern.Paths
import FileQuery.Proofs.Pattern.Matching
import FileQuery.Proofs.Pattern.Language
import FileQuery.Proofs.Pattern.Lasting
import FileQuery.Proofs.Content.PartMatches
import FileQuery.Proofs.Content.ShortMatches
import FileQuery.Proofs.Content.Undecodable
import FileQuery.Proofs.Content.SharedPass
import FileQuery.Proofs.Tree.Locate
import FileQuery.Proofs.Evaluate.SameBytes
import FileQuery.Proofs.Evaluate.Stages
import FileQuery.Proofs.Evaluate.Visits
import FileQuery.Proofs.Evaluate.LeastReading
import FileQuery.Proofs.Tree.Walk
import FileQuery.Proofs.Document.PathGrammar
import FileQuery.Proofs.Query.QuotedName
import FileQuery.Proofs.Document.Rendering
import FileQuery.Proofs.Document.JsonText
import FileQuery.Proofs.Document.ReadBack
import FileQuery.Proofs.Document.Containing
import FileQuery.Proofs.Query.Spans
import FileQuery.Proofs.Document.Ordering
import FileQuery.Proofs.Evaluate.Membership
import FileQuery.Proofs.Query.Spacing
import FileQuery.Proofs.Query.Cutting
import FileQuery.Proofs.Query.Expectations
import FileQuery.Proofs.Query.Places
import FileQuery.Proofs.PathName
import FileQuery.Proofs.Git.Listing
import FileQuery.Proofs.Evaluate.Moments
import FileQuery.Proofs.Query.Literal.SizeProduct
import FileQuery.Proofs.Evaluate.Residue
import FileQuery.Proofs.Query.PredicateOrder
import FileQuery.Proofs.Query.SetSpelling
import FileQuery.Proofs.Config
