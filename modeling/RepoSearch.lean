import RepoSearch.Chunk.Basic
import RepoSearch.Chunk.Json
import RepoSearch.Chunking.Chunker
import RepoSearch.Chunking.Document
import RepoSearch.Chunking.Markdown
import RepoSearch.Chunking.Markup
import RepoSearch.Chunking.Script
import RepoSearch.Chunking.Tunables
import RepoSearch.Chunking.Window
import RepoSearch.Cli.Commands
import RepoSearch.Cli.Disk
import RepoSearch.Cli.Grammar
import RepoSearch.Cli.Parse
import RepoSearch.Cli.Run
import RepoSearch.Cli.Similar
import RepoSearch.Config.Basic
import RepoSearch.Config.Decode
import RepoSearch.Config.Encode
import RepoSearch.Embedding.Error
import RepoSearch.Embedding.Mock
import RepoSearch.Embedding.Provider
import RepoSearch.Embedding.SipHash
import RepoSearch.Embedding.Vector
import RepoSearch.Files.Filter
import RepoSearch.Files.Glob
import RepoSearch.Files.Ignore
import RepoSearch.Files.Scan
import RepoSearch.Files.Tree
import RepoSearch.Git.Host
import RepoSearch.Git.Object
import RepoSearch.Git.RefName
import RepoSearch.Git.Repository
import RepoSearch.Git.Sha1
import RepoSearch.Git.Wildmatch
import RepoSearch.Index.Error
import RepoSearch.Index.Indexer
import RepoSearch.Index.Json
import RepoSearch.Index.Shared
import RepoSearch.Json.Read
import RepoSearch.Json.Typed
import RepoSearch.Json.Value
import RepoSearch.Json.Write
import RepoSearch.Language
import RepoSearch.Lexicon.Terms
import RepoSearch.Main
import RepoSearch.Number.Binary
import RepoSearch.Number.Decimal
import RepoSearch.Number.Order
import RepoSearch.Pattern.Basic
import RepoSearch.Proofs.Text.Split
import RepoSearch.Proofs.Chunking.Cut
import RepoSearch.Proofs.Chunking.Ids
import RepoSearch.Proofs.Chunking.Coverage
import RepoSearch.Proofs.Git.RefNames
import RepoSearch.Proofs.Git.Documented
import RepoSearch.Proofs.Index.Committed
import RepoSearch.Proofs.Index.FailedPass
import RepoSearch.Proofs.Index.Freshness
import RepoSearch.Proofs.Index.Locking
import RepoSearch.Proofs.Index.Serialized
import RepoSearch.Proofs.Index.Solo
import RepoSearch.Proofs.Search.Isolation
import RepoSearch.Proofs.Store.Passes
import RepoSearch.Proofs.Store.Writes
import RepoSearch.Search.Boost
import RepoSearch.Search.Context
import RepoSearch.Search.Engine
import RepoSearch.Search.Fusion
import RepoSearch.Search.Query
import RepoSearch.Search.Result
import RepoSearch.Search.Structural
import RepoSearch.Source.Error
import RepoSearch.Source.Git
import RepoSearch.Source.Mock
import RepoSearch.Source.Provider
import RepoSearch.Source.Remote
import RepoSearch.Store.Basic
import RepoSearch.Store.Bm25
import RepoSearch.Store.Database
import RepoSearch.Store.Hits
import RepoSearch.Store.Json
import RepoSearch.Store.Lexical
import RepoSearch.Store.Nearest
import RepoSearch.Store.Write
import RepoSearch.Text.Alphanumeric
import RepoSearch.Text.Blank
import RepoSearch.Text.IndexChars
import RepoSearch.Text.Lowercase
import RepoSearch.Text.RangeTable
import RepoSearch.Text.Slice
import RepoSearch.Text.Utf8
import RepoSearch.Text.WordChar
import RepoSearch.Proofs.Source.GitRefs
import RepoSearch.Proofs.Source.Checkouts
import RepoSearch.Proofs.Search.Structural
import RepoSearch.Proofs.Store.Slots
import RepoSearch.Proofs.Chunking.Merge
import RepoSearch.Proofs.Pattern.Spans
import RepoSearch.Proofs.Chunking.Positions
import RepoSearch.Proofs.Chunking.Symbols
import RepoSearch.Proofs.Store.Atomicity
import RepoSearch.Proofs.Store.LexicalRanking
import RepoSearch.Proofs.Search.Candidates
import RepoSearch.Proofs.Search.Phrases
import RepoSearch.Proofs.Search.Ranking
import RepoSearch.Proofs.Search.Rendering
import RepoSearch.Proofs.Index.Report
import RepoSearch.Proofs.Chunking.Lines
import RepoSearch.Proofs.Chunking.SymbolPlaces
import RepoSearch.Proofs.Chunking.ScriptScan
import RepoSearch.Proofs.Chunking.Sections
import RepoSearch.Proofs.Chunking.Lengths
import RepoSearch.Proofs.Text.Truncation
import RepoSearch.Proofs.Text.Lowercase
import RepoSearch.Proofs.Embedding.Bytes
import RepoSearch.Proofs.Lexicon.QueryTerms
import RepoSearch.Proofs.Store.TableRefinement
