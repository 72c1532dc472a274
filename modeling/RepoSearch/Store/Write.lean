import RepoSearch.Store.Basic
/-! Writing to the store. Each write either succeeds with the new store or fails with the
database's message and leaves the store as it was, the way a rolled-back transaction does.

An insert draws a row id for every chunk it tries, including one skipped because its id is
already stored in that generation, so ids are never reused. Chunks need the repository's
record, and a vector must have the store's width. Starting a pass creates the record if
needed and drops the chunks of every generation but the current one; committing flips the
current generation and drops all others; failing a pass drops only its own generation. -/
namespace RepoSearch.Store

/-- A chunk to insert and its vector, if any. -/
structure EmbeddedChunk where
  chunk : Chunk
  embedding : Option (List Float32)

/-- The message for a vector that a vector table `width` wide cannot hold, if it cannot. -/
def widthProblem (width : Nat) (v : List Float32) : Option String :=
  if v.isEmpty then
    some "Inserted vector for the \"embedding\" column is invalid: zero-length vectors are not supported."
  else if v.length != width then
    some ("Dimension mismatch for inserted vector for the \"embedding\" column. Expected " ++
      toString width ++ " dimensions but received " ++ toString v.length ++ ".")
  else none

namespace ChunkStore

/-- Drop the chunks of a repository whose generation passes the test. -/
def purge (s : ChunkStore) (name : String) (drop : Int → Bool) : ChunkStore :=
  { s with rows := s.rows.filter (fun r => !(r.repository == name && drop r.generation)) }

/-- Apply a change to a repository's record, if it has one. -/
def updateRecord (s : ChunkStore) (name : String) (f : RepositoryRecord → RepositoryRecord) : ChunkStore :=
  { s with repositories := s.repositories.map (fun r => if r.name == name then f r else r) }

/-- The message for a vector that does not fit the store, if it does not. -/
def vectorProblem (s : ChunkStore) (v : List Float32) : Option String :=
  widthProblem s.vectorWidth v

/-- Insert one chunk under a row id drawn from the sequence, unless its id is already stored
in the generation; gives the store and whether the chunk was written. -/
def insertOne (s : ChunkStore) (repository : String) (generation : Int) (e : EmbeddedChunk) :
    Except String (ChunkStore × Bool) :=
  let rowid := s.lastRowid + 1
  let s := { s with lastRowid := rowid }
  if (s.snapshot repository generation).any (fun r => r.chunk.id == e.chunk.id) then .ok (s, false)
  else if (s.record? repository).isNone then .error "FOREIGN KEY constraint failed"
  else
    match e.embedding.bind s.vectorProblem with
    | some msg => .error msg
    | none =>
      .ok ({ s with rows := s.rows ++ [{ rowid, repository, generation, chunk := e.chunk,
                                         embedding := e.embedding }] }, true)

def insertAll (repository : String) (generation : Int) :
    ChunkStore → Nat → List EmbeddedChunk → Except String (ChunkStore × Nat)
  | s, n, [] => .ok (s, n)
  | s, n, e :: rest =>
    match s.insertOne repository generation e with
    | .error msg => .error msg
    | .ok (s', wrote) => insertAll repository generation s' (if wrote then n + 1 else n) rest

/-- Write one file's chunks under a generation; all or nothing. Gives the number written. -/
def insertFileChunks (s : ChunkStore) (repository : String) (generation : Int)
    (chunks : List EmbeddedChunk) : Except String (ChunkStore × Nat) :=
  insertAll repository generation s 0 chunks

/-- Start an index pass: create the record if needed, mark it indexing, and drop chunks of
abandoned passes. Gives the generation the pass writes under. -/
def beginPass (s : ChunkStore) (name : String) : ChunkStore × Int :=
  let s := if (s.record? name).isSome then s
    else { s with repositories := s.repositories ++ [{ name }] }
  let s := s.updateRecord name (fun r => { r with state := .indexing, lastError := none })
  let current := ((s.record? name).map RepositoryRecord.currentGeneration).getD 0
  (s.purge name (fun g => g != current), current + 1)

/-- Commit a pass: make its generation current, record the commit, the time and the number
of chunks, and drop every other generation. Gives the number of chunks. -/
def commitSnapshot (s : ChunkStore) (name : String) (generation : Int) (commit : String) : ChunkStore × Nat :=
  let total := (s.snapshot name generation).length
  let stamp := s.commits
  let s := { s with commits := s.commits + 1 }
  let s := s.updateRecord name (fun r =>
    { r with currentGeneration := generation, lastCommit := some commit, indexedAt := some stamp,
             totalChunks := total, state := .indexed, lastError := none })
  (s.purge name (fun g => g != generation), total)

/-- Abandon a pass: record the error and drop what the pass wrote. -/
def markFailed (s : ChunkStore) (name : String) (generation : Int) (error : String) : ChunkStore :=
  let s := s.updateRecord name (fun r => { r with state := .failed, lastError := some error })
  s.purge name (fun g => g == generation)

end ChunkStore

end RepoSearch.Store
