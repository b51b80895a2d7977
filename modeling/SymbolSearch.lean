import SymbolSearch.Argument
import SymbolSearch.Cache
import SymbolSearch.Call
import SymbolSearch.Catalog.Basic
import SymbolSearch.Catalog.Builtin
import SymbolSearch.Catalog.Kind
import SymbolSearch.Catalog.Rule
import SymbolSearch.Client
import SymbolSearch.CommandLine.Options
import SymbolSearch.CommandLine.Picker
import SymbolSearch.CommandLine.Program
import SymbolSearch.CommandLine.Run
import SymbolSearch.CommandLine.Task
import SymbolSearch.Config
import SymbolSearch.Decimal.Binary
import SymbolSearch.Decimal.Fixed
import SymbolSearch.Decimal.Reading
import SymbolSearch.Decimal.Shortest
import SymbolSearch.Desk
import SymbolSearch.Error
import SymbolSearch.Extraction
import SymbolSearch.FileTree
import SymbolSearch.History
import SymbolSearch.Identifier
import SymbolSearch.Item
import SymbolSearch.Json.Basic
import SymbolSearch.Json.Display
import SymbolSearch.Json.Limits
import SymbolSearch.Json.Parser
import SymbolSearch.Json.Printer
import SymbolSearch.Language
import SymbolSearch.Listing
import SymbolSearch.Main
import SymbolSearch.Notice
import SymbolSearch.Number
import SymbolSearch.Occurrence
import SymbolSearch.Operand
import SymbolSearch.OrderedMap
import SymbolSearch.Path
import SymbolSearch.Pattern.Basic
import SymbolSearch.Pattern.CharSet
import SymbolSearch.Pattern.Cursor
import SymbolSearch.Pattern.Error
import SymbolSearch.Pattern.Escape
import SymbolSearch.Pattern.Flag
import SymbolSearch.Pattern.Matcher
import SymbolSearch.Pattern.Parser
import SymbolSearch.Pattern.SmartCase
import SymbolSearch.Pattern.Token
import SymbolSearch.Proofs.AccessHistory
import SymbolSearch.Proofs.Blending
import SymbolSearch.Proofs.CacheHistory
import SymbolSearch.Proofs.CacheKeys
import SymbolSearch.Proofs.CachedSearch
import SymbolSearch.Proofs.ClientSearch
import SymbolSearch.Proofs.Deduplication
import SymbolSearch.Proofs.DeskActions
import SymbolSearch.Proofs.DeskInvariants
import SymbolSearch.Proofs.Doubles
import SymbolSearch.Proofs.FailedRescans
import SymbolSearch.Proofs.FailingWrites
import SymbolSearch.Proofs.FoundSymbols
import SymbolSearch.Proofs.GroupTraces
import SymbolSearch.Proofs.ItemOrder
import SymbolSearch.Proofs.JobSchedules
import SymbolSearch.Proofs.JsonReading
import SymbolSearch.Proofs.JsonStrings
import SymbolSearch.Proofs.JsonText
import SymbolSearch.Proofs.LeastRecent
import SymbolSearch.Proofs.LineOrder
import SymbolSearch.Proofs.ListSources
import SymbolSearch.Proofs.LoadedEntries
import SymbolSearch.Proofs.MatchRuns
import SymbolSearch.Proofs.OccurrenceOrigins
import SymbolSearch.Proofs.OutputLines
import SymbolSearch.Proofs.PathResolution
import SymbolSearch.Proofs.Persistence
import SymbolSearch.Proofs.PoolSteps
import SymbolSearch.Proofs.ProgramRuns
import SymbolSearch.Proofs.PublishedOrder
import SymbolSearch.Proofs.ReadNumbers
import SymbolSearch.Proofs.Records
import SymbolSearch.Proofs.Reloading
import SymbolSearch.Proofs.Rescans
import SymbolSearch.Proofs.Rescoring
import SymbolSearch.Proofs.ResumedSearch
import SymbolSearch.Proofs.Scanning
import SymbolSearch.Proofs.SeparateSearches
import SymbolSearch.Proofs.SessionLifecycle
import SymbolSearch.Proofs.SessionSteps
import SymbolSearch.Proofs.SessionView
import SymbolSearch.Proofs.StaleSearch
import SymbolSearch.Proofs.StoreRuns
import SymbolSearch.Proofs.StoredMap
import SymbolSearch.Proofs.TrackerSteps
import SymbolSearch.Proofs.Traversal
import SymbolSearch.Proofs.Utf8Text
import SymbolSearch.Proofs.WholeNames
import SymbolSearch.Proofs.WrittenRecords
import SymbolSearch.Query
import SymbolSearch.Ranking
import SymbolSearch.Recency.Entry
import SymbolSearch.Recency.Score
import SymbolSearch.Recency.Tracker
import SymbolSearch.Record
import SymbolSearch.Ripgrep
import SymbolSearch.Server
import SymbolSearch.Session
import SymbolSearch.SessionPool
import SymbolSearch.Sibling
import SymbolSearch.Signature
import SymbolSearch.Similarity.Fuzzy
import SymbolSearch.Similarity.Ratio
import SymbolSearch.Similarity.Subsequence
import SymbolSearch.Slice
import SymbolSearch.Sorting
import SymbolSearch.Store
import SymbolSearch.Text.Alphanumeric
import SymbolSearch.Text.Blank
import SymbolSearch.Text.Case
import SymbolSearch.Text.CaseTable
import SymbolSearch.Text.CharName.Alias
import SymbolSearch.Text.CharName.Ancient
import SymbolSearch.Text.CharName.EastAsian
import SymbolSearch.Text.CharName.Encoding
import SymbolSearch.Text.CharName.Hangul
import SymbolSearch.Text.CharName.Letters
import SymbolSearch.Text.CharName.Lookup
import SymbolSearch.Text.CharName.Signs
import SymbolSearch.Text.CharName.Symbols
import SymbolSearch.Text.ControlSequence
import SymbolSearch.Text.Digit
import SymbolSearch.Text.Find
import SymbolSearch.Text.Hex
import SymbolSearch.Text.Lines
import SymbolSearch.Text.Name
import SymbolSearch.Text.Printable
import SymbolSearch.Text.Run
import SymbolSearch.Text.Utf8
import SymbolSearch.TextMatch
import SymbolSearch.Proofs.StrongestOccurrences
import SymbolSearch.Proofs.Eviction
import SymbolSearch.Proofs.SharedCaches
import SymbolSearch.Proofs.NumberedListings
import SymbolSearch.Proofs.PickedItems
import SymbolSearch.Proofs.FilteredItems
import SymbolSearch.Proofs.TermColumns
import SymbolSearch.Proofs.SiblingPairs
import SymbolSearch.Proofs.AcceptedItems
import SymbolSearch.Proofs.OpenedNames
import SymbolSearch.Proofs.TypedLines
import SymbolSearch.Proofs.BuiltMaps
import SymbolSearch.Proofs.CatalogSelectors
import SymbolSearch.Proofs.PiecewiseDeduplication
import SymbolSearch.Proofs.NarrowedQueries
import SymbolSearch.Proofs.GivenSettings
import SymbolSearch.Proofs.ExactRounding
import SymbolSearch.Proofs.ExactScores
