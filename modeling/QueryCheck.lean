import QueryCheck.CommandLine
import QueryCheck.Condition.Evaluation
import QueryCheck.Condition.Parser
import QueryCheck.Configuration
import QueryCheck.Discovery
import QueryCheck.Document.Reader
import QueryCheck.Main
import QueryCheck.Proofs.Building
import QueryCheck.Proofs.BuiltSpecification
import QueryCheck.Proofs.Condition.Chains
import QueryCheck.Proofs.Condition.Columns
import QueryCheck.Proofs.Condition.Completeness
import QueryCheck.Proofs.Condition.Cursor
import QueryCheck.Proofs.Condition.Depth
import QueryCheck.Proofs.Condition.FloatLexemes
import QueryCheck.Proofs.Condition.Grammar
import QueryCheck.Proofs.Condition.Membership
import QueryCheck.Proofs.Condition.ParsedTrees
import QueryCheck.Proofs.Condition.ParserRuns
import QueryCheck.Proofs.Condition.Parsing
import QueryCheck.Proofs.Condition.Paths
import QueryCheck.Proofs.Condition.Segments
import QueryCheck.Proofs.Condition.Soundness
import QueryCheck.Proofs.Condition.TallestTree
import QueryCheck.Proofs.Condition.WrittenValues
import QueryCheck.Proofs.DocumentContent
import QueryCheck.Proofs.FirstError
import QueryCheck.Proofs.Number.Digits
import QueryCheck.Proofs.Number.NearestDecimal
import QueryCheck.Proofs.Number.Numerals
import QueryCheck.Proofs.Number.PlainNumerals
import QueryCheck.Proofs.Number.ScientificNumerals
import QueryCheck.Proofs.ParameterEncoding
import QueryCheck.Proofs.ParameterMoments
import QueryCheck.Proofs.ParameterTexts
import QueryCheck.Proofs.Places
import QueryCheck.Proofs.Report.Listing
import QueryCheck.Proofs.RowFailures
import QueryCheck.Proofs.SchemaConversion
import QueryCheck.Proofs.SchemaErrors
import QueryCheck.Proofs.SchemaFlaws
import QueryCheck.Proofs.Value.JsonRoundTrip
import QueryCheck.Proofs.Value.Promotion
import QueryCheck.Proofs.Value.ShownMoments
import QueryCheck.Proofs.Verdict
import QueryCheck.Proofs.Warehouse.DecodedRows
import QueryCheck.Proofs.Warehouse.EpochSeconds
import QueryCheck.Proofs.Warehouse.NumericCells
import QueryCheck.Proofs.Warehouse.QueryRuns
import QueryCheck.Proofs.WrittenClocks
import QueryCheck.Report.Json
import QueryCheck.Report.Text
import QueryCheck.Run
import QueryCheck.Specification
import QueryCheck.Specification.Schema
import QueryCheck.Specification.Values
import QueryCheck.Toml.Reader
import QueryCheck.Verification
import QueryCheck.Warehouse.Session
