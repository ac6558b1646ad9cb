import CompileIndex.Command.Database
import CompileIndex.Command.Entry
import CompileIndex.Command.Record
import CompileIndex.Command.Sorted
import CompileIndex.CommandLine.Grammar
import CompileIndex.CommandLine.Invocation
import CompileIndex.CommandLine.Program
import CompileIndex.CommandLine.Reading
import CompileIndex.CommandLine.Report
import CompileIndex.CommandLine.Service
import CompileIndex.CommandLine.Usage
import CompileIndex.Configuration.Browse
import CompileIndex.Configuration.File
import CompileIndex.Decimal.Notation
import CompileIndex.Decimal.Shortest
import CompileIndex.Disk
import CompileIndex.Disk.Access
import CompileIndex.Disk.Error
import CompileIndex.EditorMode
import CompileIndex.Host.Request
import CompileIndex.Host.Response
import CompileIndex.Host.Session
import CompileIndex.Index.Basic
import CompileIndex.Index.Rebuild
import CompileIndex.Json.Decoder
import CompileIndex.Json.Fault
import CompileIndex.Json.Lexeme
import CompileIndex.Json.Printer
import CompileIndex.Json.Reader
import CompileIndex.Json.Value
import CompileIndex.Log
import CompileIndex.Log.Filter
import CompileIndex.Log.Pattern
import CompileIndex.Main
import CompileIndex.OrderedSet
import CompileIndex.Path
import CompileIndex.Path.Relative
import CompileIndex.PathMap
import CompileIndex.Proofs.AbsolutePaths
import CompileIndex.Proofs.Accounting
import CompileIndex.Proofs.Anchoring
import CompileIndex.Proofs.ArgumentClasses
import CompileIndex.Proofs.Attribution
import CompileIndex.Proofs.BatchQueries
import CompileIndex.Proofs.CommandLines
import CompileIndex.Proofs.CompilerNames
import CompileIndex.Proofs.ConfigurationWire
import CompileIndex.Proofs.Containers
import CompileIndex.Proofs.Convergence
import CompileIndex.Proofs.Correlation
import CompileIndex.Proofs.Debouncing
import CompileIndex.Proofs.FileContent
import CompileIndex.Proofs.FolderContent
import CompileIndex.Proofs.Framing
import CompileIndex.Proofs.History
import CompileIndex.Proofs.InitialLayer
import CompileIndex.Proofs.Interleaving
import CompileIndex.Proofs.Joining
import CompileIndex.Proofs.JsonIndented
import CompileIndex.Proofs.JsonLexemes
import CompileIndex.Proofs.JsonLoops
import CompileIndex.Proofs.JsonMembers
import CompileIndex.Proofs.JsonOutline
import CompileIndex.Proofs.JsonRecords
import CompileIndex.Proofs.JsonRoundTrip
import CompileIndex.Proofs.JsonShapes
import CompileIndex.Proofs.JsonSkip
import CompileIndex.Proofs.JsonStrays
import CompileIndex.Proofs.JsonText
import CompileIndex.Proofs.Layers
import CompileIndex.Proofs.Loading
import CompileIndex.Proofs.Malformed
import CompileIndex.Proofs.NormalForm
import CompileIndex.Proofs.NormalPaths
import CompileIndex.Proofs.Precedence
import CompileIndex.Proofs.QueryAgreement
import CompileIndex.Proofs.Quoting
import CompileIndex.Proofs.Rebuild
import CompileIndex.Proofs.RecordGrammar
import CompileIndex.Proofs.Refusals
import CompileIndex.Proofs.Registration
import CompileIndex.Proofs.RelativePaths
import CompileIndex.Proofs.Reordering
import CompileIndex.Proofs.RequestLines
import CompileIndex.Proofs.ResolvedSettings
import CompileIndex.Proofs.Resolving
import CompileIndex.Proofs.SessionRun
import CompileIndex.Proofs.SettingsFile
import CompileIndex.Proofs.SettingsLeaves
import CompileIndex.Proofs.SortedNames
import CompileIndex.Proofs.Spelling
import CompileIndex.Proofs.Swapping
import CompileIndex.Proofs.Targets
import CompileIndex.Proofs.TomlDocument
import CompileIndex.Proofs.TomlLexemes
import CompileIndex.Proofs.Triggers
import CompileIndex.Proofs.Turns
import CompileIndex.Proofs.Utf8
import CompileIndex.Proofs.Waiting
import CompileIndex.Proofs.Wire
import CompileIndex.Proofs.WrittenFiles
import CompileIndex.Settings.Basic
import CompileIndex.Settings.Extract
import CompileIndex.Settings.Layer
import CompileIndex.Settings.Load
import CompileIndex.Settings.Printer
import CompileIndex.Settings.Variable
import CompileIndex.ShellWords
import CompileIndex.Standard
import CompileIndex.Text.Alphanumeric
import CompileIndex.Text.Blank
import CompileIndex.Text.Cased
import CompileIndex.Text.Hexadecimal
import CompileIndex.Text.Hidden
import CompileIndex.Text.Lowercase
import CompileIndex.Text.Quoted
import CompileIndex.Text.Runs
import CompileIndex.Text.Utf8
import CompileIndex.Toml.Document
import CompileIndex.Toml.Lexeme
import CompileIndex.Toml.Printer
import CompileIndex.Toml.Table
import CompileIndex.Toml.Value
import CompileIndex.Watch.Debouncer
import CompileIndex.Watch.Watcher
