import KernelAtlas.Alignment
import KernelAtlas.Arguments
import KernelAtlas.Command
import KernelAtlas.Command.Help
import KernelAtlas.Command.Invocation
import KernelAtlas.Config
import KernelAtlas.Demangler.Memo
import KernelAtlas.Demangler.Process
import KernelAtlas.Diagnostic
import KernelAtlas.Directive
import KernelAtlas.Discovery
import KernelAtlas.FileTree
import KernelAtlas.FileTree.Edit
import KernelAtlas.FileTree.Walk
import KernelAtlas.Journal
import KernelAtlas.Json
import KernelAtlas.Json.Number
import KernelAtlas.Json.Printer
import KernelAtlas.Json.Reader
import KernelAtlas.Kernel
import KernelAtlas.Line
import KernelAtlas.LineIndex
import KernelAtlas.Listing
import KernelAtlas.Main
import KernelAtlas.Match
import KernelAtlas.Number.Binary64
import KernelAtlas.Number.Numeral
import KernelAtlas.Number.Shortest
import KernelAtlas.OrderedMap
import KernelAtlas.Path
import KernelAtlas.Report.Column
import KernelAtlas.Report.Diff
import KernelAtlas.Report.Kernels
import KernelAtlas.Report.Matches
import KernelAtlas.Report.Summary
import KernelAtlas.Report.Template
import KernelAtlas.Session
import KernelAtlas.Slice
import KernelAtlas.SourceTable
import KernelAtlas.Text.Blank
import KernelAtlas.Text.Class
import KernelAtlas.Text.CodePoint
import KernelAtlas.Text.Digit
import KernelAtlas.Text.Lines
import KernelAtlas.Text.Lower
import KernelAtlas.Text.Printable
import KernelAtlas.Text.Quoted
import KernelAtlas.Text.Utf8
import KernelAtlas.Text.Word
import KernelAtlas.Timestamp
import KernelAtlas.Version
import KernelAtlas.Proofs.DeclaredSources
import KernelAtlas.Proofs.FileIsolation
import KernelAtlas.Proofs.GoverningLocation
import KernelAtlas.Proofs.IndexEntries
import KernelAtlas.Proofs.IndexLaws
import KernelAtlas.Proofs.IndexReuse
import KernelAtlas.Proofs.RegionTiling
import KernelAtlas.Proofs.Requests
import KernelAtlas.Proofs.Resolution
import KernelAtlas.Proofs.Provenance
import KernelAtlas.Proofs.QueriedLine
import KernelAtlas.Proofs.SessionView
import KernelAtlas.Proofs.SearchLookup
import KernelAtlas.Proofs.SessionRuns
import KernelAtlas.Proofs.LatestBuild
import KernelAtlas.Proofs.ComparedLines
import KernelAtlas.Proofs.PathLookup
import KernelAtlas.Proofs.WalkCoverage
import KernelAtlas.Proofs.WalkedFiles
import KernelAtlas.Proofs.Accounting
import KernelAtlas.Proofs.Suppression
import KernelAtlas.Proofs.RecentNames
import KernelAtlas.Proofs.NamedReports
import KernelAtlas.Proofs.DisplayNames
import KernelAtlas.Proofs.ListingOrder
import KernelAtlas.Proofs.SourceDeclarations
import KernelAtlas.Proofs.DirectiveGrammar
import KernelAtlas.Proofs.RestrictedIndex
import KernelAtlas.Proofs.OutdatedBuilds
import KernelAtlas.Proofs.AlignedRows
import KernelAtlas.Proofs.SourceInventory
import KernelAtlas.Proofs.Utf8Decoding
import KernelAtlas.Proofs.PhysicalLines
import KernelAtlas.Proofs.JsonGrammar
import KernelAtlas.Proofs.JsonLineEnds
import KernelAtlas.Proofs.JsonReading
import KernelAtlas.Proofs.JsonAcceptance
import KernelAtlas.Proofs.MalformedSettings
import KernelAtlas.Proofs.CommentedLines
import KernelAtlas.Proofs.MnemonicCounts
import KernelAtlas.Proofs.SourcePaths
import KernelAtlas.Proofs.RenderedRows
import KernelAtlas.Proofs.RecognisedLines
