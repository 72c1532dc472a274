import RepoSearch.Chunk.Basic
import RepoSearch.Store.Extensions
import RepoSearch.Store.Hits
import RepoSearch.Text.Blank
import RepoSearch.Text.Slice
/-! The chunk store: a record per repository and the stored chunks. Every index pass writes
its chunks under a fresh generation; readers see only the repository's current generation,
which a commit flips. Each stored chunk has a row id drawn from a sequence that only
grows, so ids are never reused, and may carry a vector of the store's width. A chunk's
symbols are kept with it in insertion order, which is the order their own ids give. -/
namespace RepoSearch.Store

open RepoSearch.Text

/-- Where a repository's index stands. -/
inductive IndexState where
  | notIndexed
  | indexing
  | indexed
  | failed
  deriving DecidableEq, Repr, Inhabited

namespace IndexState

def name : IndexState → String
  | notIndexed => "not_indexed"
  | indexing => "indexing"
  | indexed => "indexed"
  | failed => "failed"

def ofName? (s : String) : Option IndexState :=
  [notIndexed, indexing, indexed, failed].find? (fun k => k.name == s)

end IndexState

/-- What the store records about a repository. -/
structure RepositoryRecord where
  name : String
  lastCommit : Option String := none
  /-- When the current snapshot was committed, as the number of commits made before it. -/
  indexedAt : Option Nat := none
  totalChunks : Nat := 0
  /-- The generation readers see; 0 until a pass commits. -/
  currentGeneration : Int := 0
  state : IndexState := .notIndexed
  lastError : Option String := none
  deriving Repr, Inhabited

def RepositoryRecord.hasSnapshot (r : RepositoryRecord) : Bool := r.currentGeneration > 0

/-- A chunk as stored, with its row id, owner, generation and vector. -/
structure StoredChunk where
  rowid : Int
  repository : String
  generation : Int
  chunk : Chunk
  embedding : Option (List Float32)
  deriving Inhabited

def StoredChunk.hasEmbedding (r : StoredChunk) : Bool := r.embedding.isSome

/-- The whole store. -/
structure ChunkStore where
  /-- Width of vectors, as the store was opened with. -/
  dimensions : Nat
  /-- Width the vector table was created with; stored vectors must have it. -/
  vectorWidth : Nat
  /-- Repository records in creation order. -/
  repositories : List RepositoryRecord := []
  /-- Stored chunks in ascending row id order. -/
  rows : List StoredChunk := []
  /-- The last row id handed out. -/
  lastRowid : Int := 0
  /-- Commits made so far, the clock of commit times. -/
  commits : Nat := 0
  /-- The extensions the database was opened with. -/
  sql : SqlExtensions := .sqlite
  deriving Inhabited

/-- Counts of a snapshot's chunks by kind or language, ascending by key. -/
structure IndexStats where
  repository : String
  totalChunks : Nat
  totalSymbols : Nat
  chunksWithEmbedding : Nat
  lastIndexed : Option Nat
  lastCommit : Option String
  byKind : List (String × Nat)
  byLanguage : List (String × Nat)

/-- ASCII lowercasing, the only folding the store's text comparisons do. -/
def asciiLower (s : String) : String := s.map Char.toLower

/-- Add one to the count of a key, keeping keys ascending. -/
def tally (key : String) : List (String × Nat) → List (String × Nat)
  | [] => [(key, 1)]
  | (k, n) :: rest =>
    if key == k then (k, n + 1) :: rest
    else if key < k then (key, 1) :: (k, n) :: rest
    else (k, n) :: tally key rest

namespace ChunkStore

/-- An empty store whose vectors are `dimensions` wide. -/
def empty (dimensions : Nat) : ChunkStore := { dimensions, vectorWidth := dimensions }

/-- The same store opened again with another width: the vector table keeps its own. -/
def reopen (s : ChunkStore) (dimensions : Nat) : ChunkStore := { s with dimensions }

def record? (s : ChunkStore) (name : String) : Option RepositoryRecord :=
  s.repositories.find? (fun r => r.name == name)

def listRepositories (s : ChunkStore) : List RepositoryRecord :=
  s.repositories.mergeSort (fun a b => !(b.name < a.name))

/-- The generation readers should use, if a pass has committed. -/
def currentGeneration? (s : ChunkStore) (name : String) : Option Int :=
  match s.record? name with
  | some r => if r.currentGeneration > 0 then some r.currentGeneration else none
  | none => none

/-- The chunks of one generation of a repository, in row id order. -/
def snapshot (s : ChunkStore) (repository : String) (generation : Int) : List StoredChunk :=
  s.rows.filter (fun r => r.repository == repository && r.generation == generation)

def row? (s : ChunkStore) (rowid : Int) : Option StoredChunk :=
  s.rows.find? (fun r => r.rowid == rowid)

/-- The stored chunks among the given row ids, in row id order, each once. -/
def loadChunks (s : ChunkStore) (rowids : List Int) : List StoredChunk :=
  s.rows.filter (fun r => rowids.contains r.rowid)

/-- Row ids of a snapshot's chunks from the given files. -/
def chunksForFiles (s : ChunkStore) (repository : String) (generation : Int) (paths : List String) :
    List Int :=
  ((s.snapshot repository generation).filter (fun r => paths.contains r.chunk.filePath)).map
    StoredChunk.rowid

/-- Row ids of a snapshot's chunks whose content holds one of the phrases, ignoring ASCII
case; phrases are trimmed and empty ones dropped. -/
def chunksContaining (s : ChunkStore) (repository : String) (generation : Int) (phrases : List String) :
    List Int :=
  let wanted := (phrases.map (fun p => asciiLower (trimBlank p))).filter (fun p => !p.isEmpty)
  if wanted.isEmpty then []
  else
    ((s.snapshot repository generation).filter (fun r =>
      let content := asciiLower r.chunk.content
      wanted.any (fun p => containsText content p))).map StoredChunk.rowid

def chunkIds (s : ChunkStore) (repository : String) (generation : Int) : List String :=
  (s.snapshot repository generation).map (fun r => r.chunk.id)

def termFrequencies? (s : ChunkStore) (rowid : Int) : Option Lexicon.TermCounts :=
  (s.row? rowid).map (fun r => r.chunk.termFreqs)

def symbolCount (s : ChunkStore) (rowid : Int) : Nat :=
  match s.row? rowid with
  | some r => r.chunk.symbols.length
  | none => 0

def vector? (s : ChunkStore) (rowid : Int) : Option (List Float32) :=
  (s.row? rowid).bind StoredChunk.embedding

def stats? (s : ChunkStore) (name : String) : Option IndexStats :=
  match s.record? name with
  | none => none
  | some r =>
    if !r.hasSnapshot then none
    else
      let snap := s.snapshot name r.currentGeneration
      some { repository := r.name, totalChunks := snap.length,
             totalSymbols := snap.foldl (fun n c => n + c.chunk.symbols.length) 0,
             chunksWithEmbedding := (snap.filter StoredChunk.hasEmbedding).length,
             lastIndexed := r.indexedAt, lastCommit := r.lastCommit,
             byKind := snap.foldl (fun acc c => tally c.chunk.kind.name acc) [],
             byLanguage := snap.foldl (fun acc c => tally c.chunk.language acc) [] }

end ChunkStore

end RepoSearch.Store
