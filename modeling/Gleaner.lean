import Gleaner.Number.Shortest
import Gleaner.Document.Preorder
import Gleaner.Unicode.CaseFolding
import Gleaner.Unicode.GeneralCategory
import Gleaner.Unicode.Property
import Gleaner.Unicode.Script
import Gleaner.Unicode.ScriptExtension
import Gleaner.Unicode.Age
import Gleaner.Unicode.Segmentation
import Gleaner.Json.Text
import Gleaner.Regex.Reader
import Gleaner.Predicate.Trace
import Gleaner.Predicate.Matcher
import Gleaner.Predicate.Value
import Gleaner.Predicate.Validation
import Gleaner.Search.Trace
import Gleaner.Search.Event
import Gleaner.Schema.Load
import Gleaner.Yaml.Document
import Gleaner.Yaml.Decode
import Gleaner.Yaml.Text
import Gleaner.Fixture.Suite
import Gleaner.Main
import Gleaner.Proofs.Document.Listing
import Gleaner.Proofs.Search.Query
import Gleaner.Proofs.Json.Record
import Gleaner.Proofs.Predicate.Evaluation
import Gleaner.Proofs.Predicate.Matcher
import Gleaner.Proofs.Predicate.Replay
import Gleaner.Proofs.Predicate.Value
import Gleaner.Proofs.Schema.Leaf
import Gleaner.Proofs.Schema.Acceptance
import Gleaner.Proofs.Schema.Defect
import Gleaner.Proofs.Schema.Key
import Gleaner.Proofs.Fixture.Configuration
import Gleaner.Proofs.Search.Trace
import Gleaner.Proofs.Search.Item
import Gleaner.Proofs.Search.Flattening
import Gleaner.Proofs.Yaml.Tagging
import Gleaner.Proofs.Document.Depth
import Gleaner.Proofs.Search.Bound
import Gleaner.Proofs.Search.Skeleton
import Gleaner.Proofs.Schema.Failure
import Gleaner.Proofs.Yaml.Plain
import Gleaner.Proofs.Json.Depth
import Gleaner.Proofs.Yaml.Notation
import Gleaner.Proofs.CommandLine.Mode
import Gleaner.Proofs.Predicate.Nesting
import Gleaner.Proofs.Predicate.Order
import Gleaner.Proofs.Predicate.ShortCircuit
import Gleaner.Proofs.Predicate.Rewriting
import Gleaner.Proofs.Search.Inquiry
import Gleaner.Proofs.Schema.Matching
import Gleaner.Proofs.Schema.Registration
import Gleaner.Proofs.CommandLine.Output
import Gleaner.Proofs.Search.Summary
import Gleaner.Proofs.Fixture.Table
import Gleaner.Proofs.Predicate.Splitting
import Gleaner.Proofs.Schema.Specification
import Gleaner.Proofs.Json.Recovery
import Gleaner.Proofs.Schema.NonText
import Gleaner.Proofs.Search.Shape
import Gleaner.Proofs.CommandLine.Arguments
import Gleaner.Proofs.Document.Survey
