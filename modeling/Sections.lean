import Sections.Command.Arguments
import Sections.Command.Listing
import Sections.Command.Palette
import Sections.Command.Report
import Sections.Command.Request
import Sections.Command.Run
import Sections.Config.Basic
import Sections.Config.Opening
import Sections.Config.Reader
import Sections.Diff.Compaction
import Sections.Diff.Patch
import Sections.Diff.Script
import Sections.Diff.Shortest
import Sections.Edit
import Sections.Engine
import Sections.Error
import Sections.Files.Disk
import Sections.Files.Fault
import Sections.Files.PathText
import Sections.Files.Timestamp
import Sections.Files.Tree
import Sections.Hash.Xxh3
import Sections.Index
import Sections.IndexCache
import Sections.Json.Basic
import Sections.Json.Reader
import Sections.Json.Record
import Sections.Main
import Sections.Markup.Automaton.Basic
import Sections.Markup.Automaton.Closure
import Sections.Markup.Automaton.Item
import Sections.Markup.Automaton.Merge
import Sections.Markup.Automaton.Shortcut
import Sections.Markup.Automaton.State
import Sections.Markup.Automaton.Table
import Sections.Markup.Character
import Sections.Markup.Document
import Sections.Markup.EntityName
import Sections.Markup.Grammar.Blocks
import Sections.Markup.Grammar.Coded
import Sections.Markup.Grammar.Rule
import Sections.Markup.HeadingText
import Sections.Markup.Lexing
import Sections.Markup.Line.Expected
import Sections.Markup.Line.Html
import Sections.Markup.Line.Reader
import Sections.Markup.Line.Scan
import Sections.Markup.Line.Start
import Sections.Markup.Line.TableStart
import Sections.Markup.LineIndex
import Sections.Markup.Parse.NextToken
import Sections.Markup.Parse.Reading
import Sections.Markup.Parse.Recovery
import Sections.Markup.Parse.Reduce
import Sections.Markup.Parse.Run
import Sections.Markup.Parse.Stack
import Sections.Markup.Parse.SyntaxTree
import Sections.Markup.Source
import Sections.Markup.Token
import Sections.Markup.Tree
import Sections.OrderedEntries
import Sections.Outcome
import Sections.PathTable
import Sections.Resolve
import Sections.Selector
import Sections.Slug
import Sections.SlugPath
import Sections.Span
import Sections.Store.Basic
import Sections.Store.Folder
import Sections.Store.Memory
import Sections.Store.Recorded
import Sections.Store.RootGuard
import Sections.Suggest
import Sections.Text.Alphanumeric
import Sections.Text.Blank
import Sections.Text.Bytes
import Sections.Text.Numeral
import Sections.Text.Printable
import Sections.Text.Quoted
import Sections.Text.Ranges
import Sections.Text.Similarity
import Sections.Text.Split
import Sections.Text.Utf8
import Sections.Toml.Reader
import Sections.Toml.Scalar
import Sections.Toml.Text
import Sections.Toml.Value
import Sections.Wire
import Sections.Proofs.Association
import Sections.Proofs.Engine.Session
import Sections.Proofs.Store.Ledger
import Sections.Proofs.Engine.Cache
import Sections.Proofs.Engine.Sharing
import Sections.Proofs.Engine.LostUpdate
import Sections.Proofs.Index.PathTable
import Sections.Proofs.Slug
import Sections.Proofs.Slug.Siblings
import Sections.Proofs.Files.Confined
import Sections.Proofs.Files.Directories
import Sections.Proofs.Files.Writing
import Sections.Proofs.Index.Build
import Sections.Proofs.Store.Confinement
import Sections.Proofs.Engine.Race
import Sections.Proofs.Store.Journal
import Sections.Proofs.Index.Resolve
import Sections.Proofs.Index.Naming
import Sections.Proofs.Selector
import Sections.Proofs.Index.Addresses
import Sections.Proofs.Index.Tags
import Sections.Proofs.Store.FileRevision
import Sections.Proofs.Engine.Reuse
import Sections.Proofs.Engine.StoreUse
import Sections.Proofs.Files.Replacement
import Sections.Proofs.Store.AllOrNothing
import Sections.Proofs.Store.History
import Sections.Proofs.Text.Boundary
import Sections.Proofs.Engine.Reading
import Sections.Proofs.Store.Disclosure
import Sections.Proofs.Diff.Common
import Sections.Proofs.Diff.EditGraph
import Sections.Proofs.Diff.Reach
import Sections.Proofs.Diff.Meeting
import Sections.Proofs.Diff.Script
import Sections.Proofs.Diff.Shortest
import Sections.Proofs.Diff.Compaction
import Sections.Proofs.Diff.Patch
import Sections.Proofs.Splice
import Sections.Proofs.Engine.Region
import Sections.Proofs.Selector.RoundTrip
import Sections.Proofs.Json.RoundTrip
import Sections.Proofs.OrderedEntries
import Sections.Proofs.Index.Listing
import Sections.Proofs.Index.Growth
import Sections.Proofs.Index.Containment
import Sections.Proofs.Index.Matching
import Sections.Proofs.Index.Options
import Sections.Proofs.Json.Reading
import Sections.Proofs.Wire
import Sections.Proofs.Index.Body
import Sections.Proofs.Text.Runs
import Sections.Proofs.Slug.Runs
import Sections.Proofs.Markup.HeadingText
import Sections.Proofs.Markup.Underscore
import Sections.Proofs.Markup.Position
import Sections.Proofs.Markup.Descendants
import Sections.Proofs.Index.Rows
import Sections.Proofs.Index.Positions
import Sections.Proofs.Store.DocumentId
