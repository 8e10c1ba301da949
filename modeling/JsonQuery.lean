import JsonQuery.Inspection
import JsonQuery.Json.Reading
import JsonQuery.Semantics.Basic
import JsonQuery.Proofs.Parts
import JsonQuery.Proofs.SliceIndices
import JsonQuery.Proofs.Discipline
import JsonQuery.Proofs.Safety
import JsonQuery.Proofs.Rounds
import JsonQuery.Proofs.Lowering
import JsonQuery.Proofs.Meaning
import JsonQuery.Proofs.Grammar
import JsonQuery.Proofs.Strings
import JsonQuery.Proofs.Spellings
import JsonQuery.Proofs.GrammarSound
import JsonQuery.Proofs.Follow
import JsonQuery.Proofs.GrammarComplete
import JsonQuery.Proofs.Parsing
import JsonQuery.Proofs.Digits
import JsonQuery.Proofs.Shortest
import JsonQuery.Proofs.WellFormed
import JsonQuery.Proofs.Canonical
import JsonQuery.Proofs.RoundTrip
import JsonQuery.Proofs.Occurrences
import JsonQuery.Proofs.Conditions
import JsonQuery.Proofs.Operands
import JsonQuery.Proofs.Refusals
import JsonQuery.Proofs.Prefixes
import JsonQuery.Proofs.Positions
import JsonQuery.Proofs.Places
import JsonQuery.Proofs.PatternReading
import JsonQuery.Proofs.PatternEscapes
import JsonQuery.Proofs.PatternOpenings
import JsonQuery.Proofs.PatternClasses
import JsonQuery.Proofs.PatternGroups
import JsonQuery.Proofs.Enclosing
import JsonQuery.Proofs.Demands
import JsonQuery.Proofs.Assembled
import JsonQuery.Proofs.Compilation
import JsonQuery.Proofs.Concatenation
import JsonQuery.Proofs.Recency
import JsonQuery.Proofs.Histories
import JsonQuery.Proofs.Lookups
import JsonQuery.Proofs.Equivariance
import JsonQuery.Proofs.Roots
import JsonQuery.Proofs.DistinctNames
import JsonQuery.Proofs.Reordering
import JsonQuery.Proofs.MemberOrder
import JsonQuery.Proofs.Registration
import JsonQuery.Proofs.PatternHistories
import JsonQuery.Proofs.PreOrder
import JsonQuery.Proofs.SliceSelection
import JsonQuery.Proofs.PatternPoints
import JsonQuery.Proofs.PatternExpansion
import JsonQuery.Proofs.Shorthands
import JsonQuery.Proofs.DocumentOrder
import JsonQuery.Proofs.ComparisonLaws
import JsonQuery.Proofs.SingularQueries
import JsonQuery.Proofs.OpenBlocks
import JsonQuery.Proofs.Visits
import JsonQuery.Proofs.Verification
import JsonQuery.Proofs.Pooling
import JsonQuery.Proofs.Construction
import JsonQuery.Proofs.JsonNumbers
import JsonQuery.Proofs.Recompilation
import JsonQuery.Proofs.FunctionNames
import JsonQuery.Proofs.Depth
import JsonQuery.Proofs.Words
import JsonQuery.Proofs.SliceArithmetic
import JsonQuery.Proofs.Finiteness
import JsonQuery.Proofs.NumberTexts
import JsonQuery.Proofs.Cursors
