import RepoSearch.Store.Write
import RepoSearch.Store.Lexical
import RepoSearch.Store.Nearest
import RepoSearch.Chunk.Json
import RepoSearch.Json.Read
import RepoSearch.Json.Typed
import RepoSearch.Json.Write
/-! The store as its tables hold it. The chunk table has a row per stored chunk, keyed by row
id; the full-text table and the vector table have rows keyed by the same ids; the symbol table
has rows with ids of their own, each naming its chunk row. A chunk row holds the chunk as the
database keeps it: the kind by name, numbers as signed 64-bit integers and the term counts as
text, written and read back by a codec. Reading a row back parses the kind, decodes the counts,
casts the numbers back and gathers the chunk's symbols from the symbol table.

Every write is one transaction: its statements act on the tables one after another, and when
one fails the database is as it was before the transaction. The full-text and vector tables take
no part in the foreign keys, so a purge deletes their rows by the ids it selects before it
deletes the chunk rows, whose symbol rows go with them. -/
namespace RepoSearch.Store

open RepoSearch.Lexicon RepoSearch.Text RepoSearch.Number

/-- How term counts are written to their text column and read back. -/
structure TermsCodec where
  encode : TermCounts → String
  decode : String → Except String TermCounts

def wordRange : Nat := 18446744073709551616

/-- A count stored in a signed 64-bit column: its low 64 bits read in two's complement. -/
def toI64 (n : Nat) : Int :=
  if 2 * (n % wordRange) < wordRange then ((n % wordRange : Nat) : Int)
  else ((n % wordRange : Nat) : Int) - wordRange

/-- A signed 64-bit value read back as a count: its bits read unsigned. -/
def toUsize (x : Int) : Nat := (x % wordRange).toNat

/-- A row of the chunk table. -/
structure ChunkRow where
  rowid : Int
  repository : String
  generation : Int
  chunkId : String
  filePath : String
  content : String
  kind : String
  language : String
  startLine : Int
  endLine : Int
  tokenCount : Int
  termFreqs : String
  hasEmbedding : Bool
  deriving Repr, DecidableEq

/-- A row of the symbol table. -/
structure SymbolRecord where
  id : Int
  chunkRowid : Int
  name : String
  kind : String
  startLine : Int
  startColumn : Int
  endLine : Int
  endColumn : Int
  context : String
  deriving Repr, DecidableEq

/-- A chunk read back from the store: its row id, the chunk with its symbols, and whether it
has a vector. -/
structure LoadedChunk where
  rowid : Int
  chunk : Chunk
  hasEmbedding : Bool

/-- The tables of the store. -/
structure Database where
  /-- Width of vectors, as the store was opened with. -/
  dimensions : Nat
  /-- Width the vector table was created with. -/
  vectorWidth : Nat
  repositories : List RepositoryRecord := []
  chunks : List ChunkRow := []
  /-- The full-text table: a row id and the content it indexes. -/
  fullText : List (Int × String) := []
  /-- The vector table: a row id and its vector. -/
  vectors : List (Int × List Float32) := []
  symbols : List SymbolRecord := []
  /-- The last chunk row id handed out. -/
  lastRowid : Int := 0
  /-- The last symbol row id handed out. -/
  lastSymbolId : Int := 0
  /-- Commits made so far, the clock of commit times. -/
  commits : Nat := 0
  /-- The extensions the database was opened with. -/
  sql : SqlExtensions := .sqlite

def EmbeddedChunk.toRow (codec : TermsCodec) (rowid : Int) (repository : String) (generation : Int)
    (e : EmbeddedChunk) : ChunkRow :=
  { rowid, repository, generation, chunkId := e.chunk.id, filePath := e.chunk.filePath,
    content := e.chunk.content, kind := e.chunk.kind.name, language := e.chunk.language,
    startLine := toI64 e.chunk.startLine, endLine := toI64 e.chunk.endLine,
    tokenCount := toI64 e.chunk.tokenCount, termFreqs := codec.encode e.chunk.termFreqs,
    hasEmbedding := e.embedding.isSome }

def SymbolRecord.ofSymbol (id chunkRowid : Int) (sym : Symbol) : SymbolRecord :=
  { id, chunkRowid, name := sym.name, kind := sym.kind.name, startLine := toI64 sym.startLine,
    startColumn := toI64 sym.startColumn, endLine := toI64 sym.endLine,
    endColumn := toI64 sym.endColumn, context := sym.context }

/-- The symbol rows of a chunk row's symbols, with ids drawn in order from `first`. -/
def symbolRecords (first chunkRowid : Int) : List Symbol → List SymbolRecord
  | [] => []
  | sym :: rest => SymbolRecord.ofSymbol first chunkRowid sym :: symbolRecords (first + 1) chunkRowid rest

/-- The message of a text column whose value cannot be read back. -/
def conversionError (column : Nat) (reason : String) : String :=
  "Conversion error from type Text at index: " ++ toString column ++ ", " ++ reason

/-- A symbol row read back, with the chunk row it names. -/
def SymbolRecord.decode (rec : SymbolRecord) : Except String (Int × Symbol) :=
  match SymbolKind.ofName? rec.kind with
  | none => .error (conversionError 2 ("unknown symbol kind: " ++ rec.kind))
  | some kind =>
    .ok (rec.chunkRowid,
      { name := rec.name, kind, startLine := toUsize rec.startLine,
        startColumn := toUsize rec.startColumn, endLine := toUsize rec.endLine,
        endColumn := toUsize rec.endColumn, context := rec.context })

def TermsCodec.read (codec : TermsCodec) (column : Nat) (text : String) : Except String TermCounts :=
  match codec.decode text with
  | .ok counts => .ok counts
  | .error e => .error (conversionError column e)

/-- A chunk row read back, its chunk without symbols. -/
def ChunkRow.decode (codec : TermsCodec) (row : ChunkRow) : Except String LoadedChunk :=
  match ChunkKind.ofName? row.kind with
  | none => .error (conversionError 4 ("unknown chunk kind: " ++ row.kind))
  | some kind =>
    match codec.read 8 row.termFreqs with
    | .error e => .error e
    | .ok termFreqs =>
      .ok { rowid := row.rowid, hasEmbedding := row.hasEmbedding,
            chunk := { id := row.chunkId, filePath := row.filePath, content := row.content, kind,
                       language := row.language, startLine := toUsize row.startLine,
                       endLine := toUsize row.endLine, symbols := [], termFreqs } }

/-- Add a symbol to its chunk row's list in a map from chunk row ids to symbols. -/
def pushSymbol (rowid : Int) (sym : Symbol) : List (Int × List Symbol) → List (Int × List Symbol)
  | [] => [(rowid, [sym])]
  | (r, syms) :: rest =>
    if r == rowid then (r, syms ++ [sym]) :: rest else (r, syms) :: pushSymbol rowid sym rest

def gathered (groups : List (Int × List Symbol)) (rowid : Int) : List Symbol :=
  ((groups.find? (·.1 == rowid)).map Prod.snd).getD []

/-- Score full-text candidates, each a row id, its term counts and its length, by BM25 over the
corpus figures given: a candidate holding none of the terms is dropped, the rest come by score
descending and then row id, cut to the limit. -/
def rankPostings (terms : List String) (limit : Nat) (nDocs avgLen : Float)
    (postings : List (Int × TermCounts × Float)) : List LexicalHit :=
  let df (t : String) : Float :=
    Float.ofNat ((postings.filter (fun p => p.2.1.mentions t)).length * terms.count t)
  let hits := postings.filterMap (fun (rowid, counts, length) =>
    let (score, matched) := terms.foldl (fun (acc : Float × List String) t =>
      if counts.mentions t then
        (acc.1 + bm25Term (Float.ofNat (counts.count t)) (df t) nDocs length avgLen, acc.2 ++ [t])
      else acc) (0, [])
    if matched.isEmpty then none else some { rowid, score, matchedTerms := matched })
  (hits.mergeSort lexicalBefore).take limit

/-- Rank stored vectors by their similarity to the query, one less the cosine distance the
vector index gives: a stored vector of another width is an error, a distance that is NaN matches nothing, and hits strictly above `minSimilarity` come by
similarity descending and then row id, cut to the limit. -/
def rankVectors (distance : List Float32 → List Float32 → Float32) (stored : List (Int × List Float32))
    (query : List Float32) (minSimilarity : Float32)
    (limit : Nat) : Except String (List VectorHit) :=
  match stored.find? (fun e => e.2.length != query.length) with
  | some (_, v) =>
    .error ("Vector dimension mistmatch. First vector has " ++ toString v.length ++
      " dimensions, while the second has " ++ toString query.length ++ " dimensions.")
  | none =>
    let scored := stored.filterMap (fun (rowid, v) =>
      let d := distance v query
      if d.isNaN then none
      else
        let similarity := 1 - d.toFloat
        if similarity > minSimilarity.toFloat then some (rowid, similarity) else none)
    .ok (((scored.mergeSort similarityBefore).take limit).map (fun (rowid, sim) =>
      { rowid, similarity := (clampTo (-1) 1 sim).toFloat32 }))

/-- Whether a symbol row matches lowercased terms or wanted kinds, compared on its columns. -/
def SymbolRecord.wanted (patterns : List String) (kinds : List SymbolKind) (rec : SymbolRecord) : Bool :=
  patterns.any (fun p => containsText (asciiLower rec.name) p || containsText (asciiLower rec.context) p) ||
    kinds.any (fun k => k.name == rec.kind)

namespace Database

/-- An empty database whose vectors are `dimensions` wide. -/
def empty (dimensions : Nat) : Database := { dimensions, vectorWidth := dimensions }

/-- The same database opened again with another width: the vector table keeps its own. -/
def reopen (db : Database) (dimensions : Nat) : Database := { db with dimensions }

/-- A transaction: the database its statements wrote when they all succeed, the database as it
was when one fails. -/
def transact {α : Type} (db : Database) (writes : Except String (Database × α)) :
    Database × Except String α :=
  match writes with
  | .ok (db', a) => (db', .ok a)
  | .error msg => (db, .error msg)

/-! ### Records -/

def record? (db : Database) (name : String) : Option RepositoryRecord :=
  db.repositories.find? (fun r => r.name == name)

def listRepositories (db : Database) : List RepositoryRecord :=
  db.repositories.mergeSort (fun a b => !(b.name < a.name))

def currentGeneration? (db : Database) (name : String) : Option Int :=
  match db.record? name with
  | some r => if r.currentGeneration > 0 then some r.currentGeneration else none
  | none => none

def updateRecord (db : Database) (name : String) (f : RepositoryRecord → RepositoryRecord) : Database :=
  { db with repositories := db.repositories.map (fun r => if r.name == name then f r else r) }

/-! ### Writes -/

/-- Whether a chunk row of the generation has the chunk id. -/
def holdsChunkId (db : Database) (repository : String) (generation : Int) (id : String) : Bool :=
  db.chunks.any (fun row => row.repository == repository && row.generation == generation && row.chunkId == id)

/-- Add a full-text row; its row id must be free. -/
def insertFullText (db : Database) (rowid : Int) (content : String) : Except String Database :=
  if db.fullText.any (·.1 == rowid) then .error "UNIQUE constraint failed: chunks_fts_content.id"
  else .ok { db with fullText := db.fullText ++ [(rowid, content)] }

/-- Add a vector row; the vector must have the table's width and the row id must be free. -/
def insertVector (db : Database) (rowid : Int) (v : List Float32) : Except String Database :=
  match widthProblem db.vectorWidth v with
  | some msg => .error msg
  | none =>
    if db.vectors.any (·.1 == rowid) then .error "UNIQUE constraint failed on vec_chunks primary key"
    else .ok { db with vectors := db.vectors ++ [(rowid, v)] }

/-- Add a chunk row's symbols, one row each, with ids drawn in order. -/
def insertSymbols (db : Database) (rowid : Int) (syms : List Symbol) : Database :=
  { db with symbols := db.symbols ++ symbolRecords (db.lastSymbolId + 1) rowid syms,
            lastSymbolId := db.lastSymbolId + syms.length }

/-- Write one chunk: its row under a row id drawn from the sequence, ignored when the generation
holds its id; then, for a row written, its full-text row, its vector row if it has a vector,
and its symbol rows. Gives the database and whether the row was written. -/
def insertOne (db : Database) (codec : TermsCodec) (repository : String) (generation : Int)
    (e : EmbeddedChunk) : Except String (Database × Bool) :=
  let rowid := db.lastRowid + 1
  let db := { db with lastRowid := rowid }
  if db.holdsChunkId repository generation e.chunk.id then .ok (db, false)
  else if (db.record? repository).isNone then .error "FOREIGN KEY constraint failed"
  else
    let db := { db with chunks := db.chunks ++ [e.toRow codec rowid repository generation] }
    match db.insertFullText rowid e.chunk.content with
    | .error msg => .error msg
    | .ok db =>
      match e.embedding with
      | none => .ok (db.insertSymbols rowid e.chunk.symbols, true)
      | some v =>
        match db.insertVector rowid v with
        | .error msg => .error msg
        | .ok db => .ok (db.insertSymbols rowid e.chunk.symbols, true)

/-- Write chunks in order, counting the rows written. -/
def insertAll (codec : TermsCodec) (repository : String) (generation : Int) :
    Database → Nat → List EmbeddedChunk → Except String (Database × Nat)
  | db, n, [] => .ok (db, n)
  | db, n, e :: rest =>
    match db.insertOne codec repository generation e with
    | .error msg => .error msg
    | .ok (db', wrote) => insertAll codec repository generation db' (if wrote then n + 1 else n) rest

/-- Write one file's chunks under a generation in one transaction; gives the rows written. -/
def insertFileChunks (db : Database) (codec : TermsCodec) (repository : String) (generation : Int)
    (chunks : List EmbeddedChunk) : Database × Except String Nat :=
  db.transact (insertAll codec repository generation db 0 chunks)

/-- Delete a repository's chunk rows whose generation `drop` selects. The vector rows and the
full-text rows of the selected row ids go first, then the chunk rows, and with them, through the
foreign key, the symbol rows that name them. -/
def purgeChunks (db : Database) (repository : String) (drop : Int → Bool) : Database :=
  let selected (row : ChunkRow) : Bool := row.repository == repository && drop row.generation
  let ids := (db.chunks.filter selected).map (·.rowid)
  let db := { db with vectors := db.vectors.filter (fun v => !ids.contains v.1) }
  let db := { db with fullText := db.fullText.filter (fun f => !ids.contains f.1) }
  { db with chunks := db.chunks.filter (fun row => !selected row),
            symbols := db.symbols.filter (fun rec => !ids.contains rec.chunkRowid) }

/-- Start an index pass: create the record if needed, mark it indexing, and delete the chunk
rows of every generation but the current one. Gives the generation the pass writes under. -/
def beginPass (db : Database) (name : String) : Database × Int :=
  let db := if (db.record? name).isSome then db
    else { db with repositories := db.repositories ++ [{ name }] }
  let db := db.updateRecord name (fun r => { r with state := .indexing, lastError := none })
  let current := ((db.record? name).map RepositoryRecord.currentGeneration).getD 0
  (db.purgeChunks name (fun g => g != current), current + 1)

/-- Commit a pass: count its generation's chunk rows, make it current with the commit, the time
and the count, and delete the chunk rows of every other generation. Gives the count. -/
def commitSnapshot (db : Database) (name : String) (generation : Int) (commit : String) : Database × Nat :=
  let total := (db.chunks.filter (fun row => row.repository == name && row.generation == generation)).length
  let stamp := db.commits
  let db := { db with commits := db.commits + 1 }
  let db := db.updateRecord name (fun r =>
    { r with currentGeneration := generation, lastCommit := some commit, indexedAt := some stamp,
             totalChunks := total, state := .indexed, lastError := none })
  (db.purgeChunks name (fun g => g != generation), total)

/-- Abandon a pass: record the error and delete the chunk rows of its generation. -/
def markFailed (db : Database) (name : String) (generation : Int) (error : String) : Database :=
  let db := db.updateRecord name (fun r => { r with state := .failed, lastError := some error })
  db.purgeChunks name (fun g => g == generation)

/-! ### Reads -/

/-- The chunk rows of one generation of a repository, in table order. -/
def snapshotRows (db : Database) (repository : String) (generation : Int) : List ChunkRow :=
  db.chunks.filter (fun row => row.repository == repository && row.generation == generation)

/-- The chunk rows among the given row ids, read back with their symbols, in table order; ids
without a row are passed over. -/
def loadChunks (db : Database) (codec : TermsCodec) (rowids : List Int) : Except String (List LoadedChunk) :=
  if rowids.isEmpty then .ok []
  else do
    let loaded ← (db.chunks.filter (fun row => rowids.contains row.rowid)).mapM (ChunkRow.decode codec)
    let found ← (db.symbols.filter (fun rec => rowids.contains rec.chunkRowid)).mapM SymbolRecord.decode
    let groups := found.foldl (fun acc p => pushSymbol p.1 p.2 acc) []
    pure (loaded.map fun c => { c with chunk := { c.chunk with symbols := gathered groups c.rowid } })

/-- Row ids of a snapshot's chunk rows from the given files. -/
def chunksForFiles (db : Database) (repository : String) (generation : Int) (paths : List String) :
    List Int :=
  if paths.isEmpty then []
  else ((db.snapshotRows repository generation).filter (fun row => paths.contains row.filePath)).map
    (·.rowid)

/-- Row ids of a snapshot's chunk rows whose content holds one of the phrases, ignoring ASCII
case; phrases are trimmed and empty ones dropped. -/
def chunksContaining (db : Database) (repository : String) (generation : Int) (phrases : List String) :
    List Int :=
  let wanted := (phrases.map (fun p => asciiLower (trimBlank p))).filter (fun p => !p.isEmpty)
  if wanted.isEmpty then []
  else
    ((db.snapshotRows repository generation).filter (fun row =>
      wanted.any (fun p => containsText (asciiLower row.content) p))).map (·.rowid)

def chunkIds (db : Database) (repository : String) (generation : Int) : List String :=
  (db.snapshotRows repository generation).map (·.chunkId)

def chunkRow? (db : Database) (rowid : Int) : Option ChunkRow :=
  db.chunks.find? (·.rowid == rowid)

def termFrequencies? (db : Database) (codec : TermsCodec) (rowid : Int) :
    Except String (Option TermCounts) :=
  match db.chunkRow? rowid with
  | none => .ok none
  | some row => (codec.read 0 row.termFreqs).map some

def symbolCount (db : Database) (rowid : Int) : Nat :=
  (db.symbols.filter (·.chunkRowid == rowid)).length

def vector? (db : Database) (rowid : Int) : Option (List Float32) :=
  (db.vectors.find? (·.1 == rowid)).map Prod.snd

def stats? (db : Database) (name : String) : Option IndexStats :=
  match db.record? name with
  | none => none
  | some r =>
    if !r.hasSnapshot then none
    else
      let snap := db.snapshotRows name r.currentGeneration
      let ids := snap.map (·.rowid)
      some { repository := r.name, totalChunks := snap.length,
             totalSymbols := (db.symbols.filter (fun rec => ids.contains rec.chunkRowid)).length,
             chunksWithEmbedding := (snap.filter (·.hasEmbedding)).length,
             lastIndexed := r.indexedAt, lastCommit := r.lastCommit,
             byKind := snap.foldl (fun acc row => tally row.kind acc) [],
             byLanguage := snap.foldl (fun acc row => tally row.language acc) [] }

/-- The `limit` best BM25 hits of a snapshot for the terms. The full-text table proposes the
rows whose content holds a term as a phrase; they are joined with their chunk rows of the
snapshot, whose term counts are read back, and scored over the snapshot's size and mean token
count. -/
def searchLexical (db : Database) (codec : TermsCodec) (repository : String) (generation : Int)
    (terms : List String) (limit : Nat) : Except String (List LexicalHit) :=
  let snap := db.snapshotRows repository generation
  if terms.isEmpty || limit == 0 || snap.isEmpty then .ok []
  else
    let nDocs := Float.ofNat snap.length
    let avgLen := Float.ofInt (snap.foldl (fun n row => n + row.tokenCount) 0) / nDocs
    let matching := db.fullText.filter (fun f => terms.any (db.sql.phraseMatch f.2))
    let joined := snap.flatMap (fun row => (matching.filter (·.1 == row.rowid)).map (fun _ => row))
    (joined.mapM fun (row : ChunkRow) => do
      pure (row.rowid, ← codec.read 1 row.termFreqs, Float.ofInt row.tokenCount)).map
      (rankPostings terms limit nDocs avgLen)

/-- The `limit` chunk rows of a snapshot whose vectors are most similar to the query, above
`minSimilarity`: the vector rows joined with their chunk rows of the snapshot that have a
vector. A query of the wrong width or all zeros finds nothing. -/
def searchVectors (db : Database) (repository : String) (generation : Int) (query : List Float32)
    (minSimilarity : Float32) (limit : Nat) : Except String (List VectorHit) :=
  if limit == 0 || query.length != db.dimensions || query.all (fun v => v == 0) then .ok []
  else
    let stored := db.vectors.flatMap (fun v =>
      (db.chunks.filter (fun row => row.rowid == v.1 && row.repository == repository &&
        row.generation == generation && row.hasEmbedding)).map (fun _ => v))
    rankVectors db.sql.cosineDistance stored query minSimilarity limit

/-- The symbol rows of a snapshot that match the terms or kinds, read back in table order. -/
def findSymbols (db : Database) (repository : String) (generation : Int) (terms : List String)
    (kinds : List SymbolKind) : Except String (List SymbolRow) :=
  if terms.isEmpty && kinds.isEmpty then .ok []
  else
    let patterns := terms.map lowerFull
    let picked := db.symbols.filter (fun rec =>
      (db.snapshotRows repository generation).any (·.rowid == rec.chunkRowid) &&
        rec.wanted patterns kinds)
    picked.mapM (fun rec => (rec.decode).map (fun p => ⟨p.1, p.2⟩))

end Database

/-! ### The JSON codec -/

def readCount (j : Json) : Except String Nat := do
  let n ← Json.readNat "u32" j
  if n < 4294967296 then pure n
  else throw ("invalid value: integer " ++ toString n ++ ", expected u32")

/-- Set a term's count in counts kept ascending by term. -/
def setCount (term : String) (n : Nat) : TermCounts → TermCounts
  | [] => [(term, n)]
  | (t, m) :: rest =>
    if term = t then (t, n) :: rest
    else if term < t then (term, n) :: (t, m) :: rest
    else (t, m) :: setCount term n rest

/-- Term counts as a JSON object from term to count; read back, the last count of a term counts. -/
def TermsCodec.json : TermsCodec where
  encode counts := Json.compact (termCountsJson counts)
  decode text := do
    match ← Json.parse text with
    | .obj members => members.foldlM (fun acc m => do pure (setCount m.1 (← readCount m.2) acc)) []
    | j => Json.invalidType j "a map"

end RepoSearch.Store
