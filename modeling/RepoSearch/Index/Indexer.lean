import RepoSearch.Chunking.Chunker
import RepoSearch.Embedding.Provider
import RepoSearch.Files.Scan
import RepoSearch.Number.Decimal
import RepoSearch.Source.Provider
import RepoSearch.Store.Write
/-! The write path. An index pass starts a new generation, fetches the repository's tree
within the fetch deadline and walks it. Each eligible file then gets a task of its own, which
reads the file, decodes it, cuts it into chunks, embeds each chunk within the embedding deadline
and stores the file's chunks in one insert; the pass takes the tasks' results as they finish
and then commits the generation. A file that is oversized, cannot be read or is not UTF-8 is
skipped and reported, and a chunk whose vector could not be made is stored without one. Any
other failure ends the pass: the tasks still running are dropped, the rows the finished ones
wrote stay until the repository is marked failed with the failure's message, which drops the
generation, and the previous snapshot stays current.

What the pass does not decide is the environment's (`Runtime`): the order in which the file
tasks finish, which store calls fail, which files cannot be read and which tasks fail to join.
`index` and `ensureIndexed` run with one worker on a single-threaded runtime where nothing
fails, so the tasks finish in walk order; `indexIn` and `ensureIndexedIn` take any runtime. -/
namespace RepoSearch.Index

open RepoSearch.Chunking RepoSearch.Config RepoSearch.Embedding RepoSearch.Files
open RepoSearch.Source RepoSearch.Store RepoSearch.Text

/-- Settings of the write path. -/
structure IndexerConfig where
  indexing : IndexingConfig := {}
  fetchTimeoutMs : Nat := 60000
  embedTimeoutMs : Nat := 60000
  /-- Chunk text is cut to this many characters before embedding. -/
  maxEmbedChars : Nat := 512

/-- The outcome of one index pass. -/
structure IndexReport where
  repository : String
  gitRef : String
  commit : String
  generation : Int
  filesScanned : Nat
  filesIndexed : Nat
  filesSkipped : Nat
  chunksCreated : Nat
  chunksWithoutEmbedding : Nat
  /-- File-level problems that were skipped over. -/
  errors : List String
  deriving DecidableEq

/-- The chunking settings of an indexing configuration; the window is at least one line. -/
def chunkingTunables (c : IndexingConfig) : Tunables :=
  { fallbackWindow := max c.fallbackWindowLines 1, lookahead := c.lookaheadLines,
    displayChars := c.displayChars, contextChars := c.contextChars }

/-- A duration in milliseconds as seconds, in shortest decimal form. -/
def secondsText (ms : Nat) : String :=
  Number.doublePlainText (Float.ofNat (ms / 1000) + Float.ofNat ((ms % 1000) * 1000000) / 1000000000)

/-- The indexer: the store, where repositories come from, and how files become vectors. -/
structure Indexer (σ : Type) where
  store : ChunkStore
  source : σ
  embedder : Embedder
  config : IndexerConfig
  filter : FileFilter

/-- What indexing one file produced. -/
structure FileOutcome where
  written : Nat
  withoutEmbedding : Nat

/-- A placeholder record for a repository the store does not know. -/
def unknownRecord (name : String) : RepositoryRecord := { name }

/-- A store call of a pass. Each is one transaction, so a call the environment fails (a full
disk, a locked or corrupt database) changes nothing. -/
inductive StoreCall where
  /-- The record read by which `ensureIndexed` decides whether a pass is needed. -/
  | readRecord
  | beginPass
  /-- The insert of the chunks of the file at this path. -/
  | insert (path : String)
  | commit
  | markFailed
  deriving DecidableEq

/-- A task of a pass that can fail to join, having panicked or been cancelled. -/
inductive TaskPoint where
  | scan
  /-- The task of the file at this path. -/
  | file (path : String)
  deriving DecidableEq

/-- What the environment decides in one call beyond its inputs: the order in which the file
tasks finish, some arrangement of the walked files; the store calls that fail, with the
database's message; the files that cannot be read when their task reads them, with the reason;
and the tasks that fail to join. -/
structure Runtime where
  finish : List SourceFile → List SourceFile
  finish_perm : ∀ files, (finish files).Perm files
  storeFault : StoreCall → Option String
  readFault : String → Option String
  taskFault : TaskPoint → Option String

/-- One worker on a single-threaded runtime with nothing failing: the file tasks finish in walk
order. -/
def Runtime.serial : Runtime :=
  ⟨id, List.Perm.refl, fun _ => none, fun _ => none, fun _ => none⟩

namespace Indexer

variable {σ : Type} [SourceProvider σ]

/-- An indexer over a store, walking trees with the given libraries; a malformed exclude glob
is refused. -/
def create (walk : WalkLibraries) (store : ChunkStore) (source : σ) (embedder : Embedder)
    (config : IndexerConfig) : Except IndexError (Indexer σ) := do
  let filter ← FileFilter.ofConfig walk config.indexing
  pure { store, source, embedder, config, filter }

/-- Ask the provider within the fetch deadline; a provider failure or a missed deadline
makes the source unavailable. The call happens, and counts, either way; the caller waits for
it until the deadline, and a call that takes longer goes on after the caller has left. -/
def callSource {α : Type} (ix : Indexer σ) (repository gitRef : String) (delay : Nat)
    (call : σ → σ × Except SourceError α) : Indexer σ × Except IndexError α :=
  let (source, result) := call ix.source
  let ix := { ix with source := SourceProvider.wait source (min delay ix.config.fetchTimeoutMs) }
  if ix.config.fetchTimeoutMs ≤ delay then
    (ix, .error (.sourceUnavailable repository gitRef
      ("timed out after " ++ secondsText ix.config.fetchTimeoutMs ++ "s")))
  else
    match result with
    | .ok v => (ix, .ok v)
    | .error e => (ix, .error (.sourceUnavailable repository gitRef e.message))

/-- The commit of a repository's committed snapshot, if it has one. -/
def indexedCommit (ix : Indexer σ) (repository : String) : Option String :=
  (ix.store.record? repository).bind (fun r => if r.hasSnapshot then r.lastCommit else none)

/-- Whether the ref is no longer at the indexed commit: the provider names another, or cannot
name one in time. -/
def movedFrom (ix : Indexer σ) (repository gitRef indexed : String) : Indexer σ × Bool :=
  match ix.callSource repository gitRef 0 (fun s => SourceProvider.currentCommit s repository gitRef) with
  | (ix, .ok current) => (ix, current != indexed)
  | (ix, .error _) => (ix, true)

/-- Whether a repository needs a pass: it has no snapshot, its current commit cannot be
read, or the commit differs from the indexed one. -/
def needsUpdate (ix : Indexer σ) (repository gitRef : String) : Indexer σ × Bool :=
  match ix.indexedCommit repository with
  | none => (ix, true)
  | some indexed => ix.movedFrom repository gitRef indexed

/-- The vector of a chunk, when the embedder gives a usable one of the store's width in time. -/
def chunkVector (ix : Indexer σ) (c : Chunk) : Option (List Float32) :=
  let text := truncateAtChar c.embeddingText ix.config.maxEmbedChars
  match ix.embedder.embedWithin ix.config.embedTimeoutMs text with
  | .ok v => if v.length == ix.store.dimensions && isUsable v then some v else none
  | .error _ => none

/-- What the task of one file does: read the file, decode and cut it, embed each chunk, and
store the file's chunks under a generation in one insert. -/
def indexFile (ix : Indexer σ) (rt : Runtime) (repository : String) (generation : Int) (file : SourceFile) :
    Except IndexError (Indexer σ × FileOutcome) :=
  match rt.taskFault (.file file.relative) with
  | some reason => .error (.task reason)
  | none =>
    match rt.readFault file.relative with
    | some reason => .error (.fileUnreadable file.relative reason)
    | none =>
      match decodeUtf8 file.bytes with
      | .error e => .error (.fileUnreadable file.relative e.message)
      | .ok text =>
        let chunks := chunkFile (chunkingTunables ix.config.indexing) file.relative
          (Language.detect file.relative) text
        if chunks.isEmpty then .ok (ix, ⟨0, 0⟩)
        else
          let embedded := chunks.map (fun c => ({ chunk := c, embedding := ix.chunkVector c } : EmbeddedChunk))
          let missing := (embedded.filter (fun e => e.embedding.isNone)).length
          match rt.storeFault (.insert file.relative) with
          | some msg => .error (.storage msg)
          | none =>
            match ix.store.insertFileChunks repository generation embedded with
            | .error msg => .error (.storage msg)
            | .ok (store, written) => .ok ({ ix with store }, ⟨written, missing⟩)

/-- Take one finished file task into a pass: an indexed file adds the rows its insert wrote and
the chunks it embedded without a vector, a skipped file its reason; a fatal failure ends the
pass. -/
def finishFile (ix : Indexer σ) (rt : Runtime) (repository : String) (generation : Int)
    (report : IndexReport) (file : SourceFile) : Except IndexError (Indexer σ × IndexReport) :=
  match ix.indexFile rt repository generation file with
  | .ok (ix', outcome) =>
    .ok (ix', { report with filesIndexed := report.filesIndexed + 1,
                            chunksCreated := report.chunksCreated + outcome.written,
                            chunksWithoutEmbedding := report.chunksWithoutEmbedding + outcome.withoutEmbedding })
  | .error e =>
    if e.isFatal then .error e
    else .ok (ix, { report with filesSkipped := report.filesSkipped + 1, errors := report.errors ++ [e.message] })

/-- Take the file tasks of a pass in the order they finish. The first fatal failure ends the
pass there; the tasks still running are dropped, and the rows the finished ones wrote stay. -/
def runFiles (rt : Runtime) (repository : String) (generation : Int) :
    Indexer σ → IndexReport → List SourceFile → Indexer σ × Except IndexError IndexReport
  | ix, report, [] => (ix, .ok report)
  | ix, report, file :: rest =>
    match ix.finishFile rt repository generation report file with
    | .ok (ix', report') => runFiles rt repository generation ix' report' rest
    | .error e => (ix, .error e)

/-- The report a pass opens with once the fetched tree is walked: the walk's counts, and why
each skipped file was skipped. -/
def openReport (repository gitRef : String) (generation : Int) (commit : String) (scan : FileScan) :
    IndexReport :=
  { repository, gitRef, commit, generation,
    filesScanned := scan.files.length + scan.skipped.length, filesIndexed := 0,
    filesSkipped := scan.skipped.length, chunksCreated := 0, chunksWithoutEmbedding := 0,
    errors := scan.skipped.map IndexError.message }

/-- Commit a pass's generation at the fetched commit; the report counts the rows committed. -/
def commitPass (ix : Indexer σ) (repository : String) (generation : Int) (commit : String)
    (report : IndexReport) : Indexer σ × IndexReport :=
  let (store, total) := ix.store.commitSnapshot repository generation commit
  ({ ix with store }, { report with chunksCreated := total })

/-- Record that a pass failed, dropping its generation. When the store fails this too, the
failure is only logged. -/
def failPass (ix : Indexer σ) (rt : Runtime) (repository : String) (generation : Int) (e : IndexError) :
    Indexer σ :=
  match rt.storeFault .markFailed with
  | some _ => ix
  | none => { ix with store := ix.store.markFailed repository generation e.message }

def writeSnapshot (ix : Indexer σ) (rt : Runtime) (repository gitRef : String) (generation : Int) :
    Indexer σ × Except IndexError IndexReport :=
  match ix.callSource repository gitRef (SourceProvider.fetchDelay ix.source)
      (fun s => SourceProvider.fetchTree s repository gitRef) with
  | (ix, .error e) => (ix, .error e)
  | (ix, .ok checkout) =>
    match rt.taskFault .scan with
    | some reason => (ix, .error (.task reason))
    | none =>
      let scan := ix.filter.scan checkout.tree checkout.versioned
      match runFiles rt repository generation ix (openReport repository gitRef generation checkout.commit scan)
          (rt.finish scan.files) with
      | (ix, .error e) => (ix, .error e)
      | (ix, .ok report) =>
        match rt.storeFault .commit with
        | some msg => (ix, .error (.storage msg))
        | none =>
          let (ix, report) := ix.commitPass repository generation checkout.commit report
          (ix, .ok report)

/-- One index pass; a failed pass is recorded and its generation dropped. -/
def runPass (ix : Indexer σ) (rt : Runtime) (repository gitRef : String) :
    Indexer σ × Except IndexError IndexReport :=
  match rt.storeFault .beginPass with
  | some msg => (ix, .error (.storage msg))
  | none =>
    let (store, generation) := ix.store.beginPass repository
    match { ix with store }.writeSnapshot rt repository gitRef generation with
    | (ix, .ok report) => (ix, .ok report)
    | (ix, .error e) => (ix.failPass rt repository generation e, .error e)

/-- Index a repository at a ref into a fresh snapshot, in a runtime. -/
def indexIn (ix : Indexer σ) (rt : Runtime) (repository gitRef : String) :
    Indexer σ × Except IndexError IndexReport :=
  ix.runPass rt repository gitRef

/-- Index a repository at a ref into a fresh snapshot. -/
def index (ix : Indexer σ) (repository gitRef : String) : Indexer σ × Except IndexError IndexReport :=
  ix.indexIn .serial repository gitRef

/-- Index only when the repository needs it, in a runtime. -/
def ensureIndexedIn (ix : Indexer σ) (rt : Runtime) (repository gitRef : String) :
    Indexer σ × Except IndexError (Option IndexReport) :=
  match rt.storeFault .readRecord with
  | some msg => (ix, .error (.storage msg))
  | none =>
    match ix.needsUpdate repository gitRef with
    | (ix, false) => (ix, .ok none)
    | (ix, true) =>
      match ix.runPass rt repository gitRef with
      | (ix, .ok r) => (ix, .ok (some r))
      | (ix, .error e) => (ix, .error e)

def ensureIndexed (ix : Indexer σ) (repository gitRef : String) :
    Indexer σ × Except IndexError (Option IndexReport) :=
  ix.ensureIndexedIn .serial repository gitRef

/-- The record of a repository, or a placeholder for one never seen. -/
def state (ix : Indexer σ) (repository : String) : RepositoryRecord :=
  (ix.store.record? repository).getD (unknownRecord repository)

def stats (ix : Indexer σ) (repository : String) : Except IndexError IndexStats :=
  match ix.store.stats? repository with
  | some s => .ok s
  | none => .error (.repositoryNotIndexed repository)

end Indexer

end RepoSearch.Index
