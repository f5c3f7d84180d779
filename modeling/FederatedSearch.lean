import FederatedSearch.SortedMap
import FederatedSearch.WordRange
import FederatedSearch.Text.CharClass
import FederatedSearch.Text.LetterCase
import FederatedSearch.Double.Decimal
import FederatedSearch.Json.Reader
import FederatedSearch.Json.Printer
import FederatedSearch.Regex.Replacement
import FederatedSearch.Regex.Reader
import FederatedSearch.Query.Lexer
import FederatedSearch.Query.Printer
import FederatedSearch.Query.Specialization
import FederatedSearch.Query.Operands
import FederatedSearch.Query.Like
import FederatedSearch.Document.Collection
import FederatedSearch.Lookup.Store
import FederatedSearch.Sql.Compilation
import FederatedSearch.Sql.Numerals
import FederatedSearch.Sql.Table
import FederatedSearch.Store
import FederatedSearch.Relation.Reading
import FederatedSearch.Relation.Collector
import FederatedSearch.Statistics
import FederatedSearch.Cache.Key
import FederatedSearch.Cache.Store
import FederatedSearch.Processor.Basic
import FederatedSearch.Processor.Reading
import FederatedSearch.Files
import FederatedSearch.Configuration.Basic
import FederatedSearch.Configuration.Reading
import FederatedSearch.Sql.Script
import FederatedSearch.Federation.Backend
import FederatedSearch.Federation.Run
import FederatedSearch.Federation.Search
import FederatedSearch.Federation.Setup
import FederatedSearch.Console
import FederatedSearch.Main
import FederatedSearch.Proofs.Success
import FederatedSearch.Proofs.Json.Equality
import FederatedSearch.Proofs.Query.Truth
import FederatedSearch.Proofs.Query.Renaming
import FederatedSearch.Proofs.Query.Splitting
import FederatedSearch.Proofs.Query.LikePattern
import FederatedSearch.Proofs.Query.Grammar
import FederatedSearch.Proofs.Query.Reading
import FederatedSearch.Proofs.Query.PredicateReading
import FederatedSearch.Proofs.Query.StatementReading
import FederatedSearch.Proofs.Document.Meaning
import FederatedSearch.Proofs.Document.FilterReading
import FederatedSearch.Proofs.Document.Faithfulness
import FederatedSearch.Proofs.Document.Decomposition
import FederatedSearch.Proofs.Relation.Pair
import FederatedSearch.Proofs.Relation.Collecting
import FederatedSearch.Proofs.Federation.Interleaving
import FederatedSearch.Proofs.Query.Stripping
import FederatedSearch.Proofs.Federation.Merging
import FederatedSearch.Proofs.Federation.Remembering
import FederatedSearch.Proofs.Federation.Fanout
import FederatedSearch.Proofs.Federation.Arrivals
import FederatedSearch.Proofs.Federation.Faults
import FederatedSearch.Proofs.Federation.Isolation
import FederatedSearch.Proofs.Cache.Rounding
import FederatedSearch.Proofs.Text.Classes
import FederatedSearch.Proofs.Cache.Lexing
import FederatedSearch.Proofs.Cache.Twins
import FederatedSearch.Proofs.Cache.Parsing
import FederatedSearch.Proofs.Query.Acceptance
import FederatedSearch.Proofs.Cache.Collisions
import FederatedSearch.Proofs.Federation.Replay
import FederatedSearch.Proofs.Relation.Growth
import FederatedSearch.Proofs.Federation.Chronicle
import FederatedSearch.Proofs.Federation.Snapshots
import FederatedSearch.Proofs.Federation.Truncation
import FederatedSearch.Proofs.Sql.Truth
import FederatedSearch.Proofs.Lookup.Disjunction
import FederatedSearch.Proofs.Query.Spelling
import FederatedSearch.Proofs.Query.RoundTrip
import FederatedSearch.Proofs.Double.Rounding
import FederatedSearch.Proofs.Double.Shortest
import FederatedSearch.Proofs.Double.Positional
import FederatedSearch.Proofs.Sql.Literals
import FederatedSearch.Proofs.Sql.Rows
import FederatedSearch.Proofs.Sql.Leaves
import FederatedSearch.Proofs.Sql.Depth
import FederatedSearch.Proofs.Sql.Agreement
import FederatedSearch.Proofs.Query.LikeMeaning
import FederatedSearch.Proofs.Regex.Stretches
import FederatedSearch.Proofs.Query.LikeMatching
import FederatedSearch.Proofs.Federation.Capping
import FederatedSearch.Proofs.Query.Paging
import FederatedSearch.Proofs.Text.Lowering
import FederatedSearch.Proofs.Sql.Likeness
import FederatedSearch.Proofs.Relation.Sequential
import FederatedSearch.Proofs.Relation.Representation
import FederatedSearch.Proofs.Query.SpineTruth
import FederatedSearch.Proofs.Failure
import FederatedSearch.Proofs.Query.Refusal
import FederatedSearch.Proofs.Query.BareNames
import FederatedSearch.Proofs.StableSort
import FederatedSearch.Proofs.Document.Sorting
import FederatedSearch.Proofs.SortedTexts
import FederatedSearch.Proofs.Statistics
import FederatedSearch.Proofs.Query.Quoting
import FederatedSearch.Proofs.Relation.Publishing
import FederatedSearch.Proofs.Processor.Modification
import FederatedSearch.Proofs.Lookup.NumberTexts
import FederatedSearch.Proofs.Lookup.Numbers
import FederatedSearch.Proofs.FieldPaths
import FederatedSearch.Proofs.Cache.Places
import FederatedSearch.Proofs.Query.Lexemes
import FederatedSearch.Proofs.Query.Relocation
import FederatedSearch.Proofs.Query.Layout
import FederatedSearch.Proofs.Query.Tiling
import FederatedSearch.Proofs.Query.Chains
import FederatedSearch.Proofs.Document.Rewriting
import FederatedSearch.Proofs.Relation.Distinctness
import FederatedSearch.Proofs.Processor.Distinctness
import FederatedSearch.Proofs.Federation.Distinctness
