import UnitReducer.Command
import UnitReducer.CommandLine.Arguments
import UnitReducer.CommandLine.Run
import UnitReducer.Database
import UnitReducer.Distinct
import UnitReducer.FileTree
import UnitReducer.Journal
import UnitReducer.Json
import UnitReducer.Json.Parser
import UnitReducer.Json.Token
import UnitReducer.Line
import UnitReducer.Line.Classify
import UnitReducer.Main
import UnitReducer.Patch
import UnitReducer.Patch.Constexpr
import UnitReducer.Patch.Null
import UnitReducer.Patch.Quotes
import UnitReducer.Patch.Substitution
import UnitReducer.PatchFile
import UnitReducer.Path
import UnitReducer.Path.Header
import UnitReducer.Path.Kind
import UnitReducer.Pipeline
import UnitReducer.Pipeline.SummaryJson
import UnitReducer.Preprocess
import UnitReducer.Reduction
import UnitReducer.ShellWords
import UnitReducer.TaskPool
import UnitReducer.Text.CharClass
import UnitReducer.Text.Decimal
import UnitReducer.Text.Lines
import UnitReducer.Text.Quoted
import UnitReducer.Text.Utf8
import UnitReducer.Text.Utf8.Lemmas
import UnitReducer.Toolchain
import UnitReducer.Proofs.LineBreaks
import UnitReducer.Proofs.DirectiveShapes
import UnitReducer.Proofs.Results
import UnitReducer.Proofs.Classification
import UnitReducer.Proofs.Walk
import UnitReducer.Proofs.RetentionRule
import UnitReducer.Proofs.Rereading
import UnitReducer.Proofs.TaskOutcomes
import UnitReducer.Proofs.TaskPool
import UnitReducer.Proofs.FailureIsolation
import UnitReducer.Proofs.AllOrNothing
import UnitReducer.Proofs.TaskIndependence
import UnitReducer.Proofs.IndependentPools
import UnitReducer.Proofs.Interleaving
import UnitReducer.Proofs.PatchedFiles
import UnitReducer.Proofs.RunEffect
import UnitReducer.Proofs.SummaryConsistency
import UnitReducer.Proofs.Deduplication
import UnitReducer.Proofs.LineGrammar
import UnitReducer.Proofs.UnusableMarkers
import UnitReducer.Proofs.NonemptyUnits
import UnitReducer.Proofs.HeaderCollections
import UnitReducer.Proofs.MarkerBlocks
import UnitReducer.Proofs.SystemBodies
import UnitReducer.Proofs.LineAccounting
import UnitReducer.Proofs.BareNull
import UnitReducer.Proofs.QuotedPairs
import UnitReducer.Proofs.QuotedLiterals
import UnitReducer.Proofs.MatchPlaces
import UnitReducer.Proofs.FurthestMarks
import UnitReducer.Proofs.KeywordSegments
import UnitReducer.Proofs.Parentheses
import UnitReducer.Proofs.QuotedLines
import UnitReducer.Proofs.PatchReports
import UnitReducer.Proofs.ShellQuoting
import UnitReducer.Proofs.PreprocessArguments
import UnitReducer.Proofs.PatchList
import UnitReducer.Proofs.RepeatedPatches
import UnitReducer.Proofs.DatabaseEntries
import UnitReducer.Proofs.PathComponents
import UnitReducer.Proofs.HeaderIdentity
import UnitReducer.Proofs.PathSpellings
import UnitReducer.Proofs.SystemRoots
