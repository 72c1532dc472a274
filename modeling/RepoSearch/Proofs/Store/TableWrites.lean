import RepoSearch.Store.Database
import RepoSearch.Proofs.Store.Atomicity
/-! What the writes do to the store's tables. A write of one file's chunks draws a row id for
every chunk it tries and writes the chunks that win their ids, the first of each id that the
generation does not hold yet (`admitted`); each written row comes with its full-text row, its
vector row when it has a vector and one symbol row per symbol, numbered on from the last symbol
id (`Wrote`). A failed write leaves every table as it was. A purge deletes the vector rows and
full-text rows of the chunk rows it selects, then those rows and the symbol rows naming them.

Main statement: `file_write_all_or_nothing`. -/
namespace RepoSearch.Store

/-- The chunks of a batch a write stores, each with the row id it draws when the generation
holds the ids `held` and the next row id is `next`: every chunk tried draws an id, and a chunk is
stored when its id is neither held nor taken by an earlier chunk of the batch. -/
def admitted : List String → Int → List EmbeddedChunk → List (Int × EmbeddedChunk)
  | _, _, [] => []
  | held, next, e :: rest =>
    if held.contains e.chunk.id then admitted held (next + 1) rest
    else (next, e) :: admitted (held ++ [e.chunk.id]) (next + 1) rest

/-- The number of symbols of written chunk rows. -/
def symbolTotal (rows : List (Int × EmbeddedChunk)) : Nat :=
  (rows.map fun p => p.2.chunk.symbols.length).sum

/-- The symbol rows of written chunk rows, in order, with ids drawn from `first` on. -/
def symbolRowsOf : Int → List (Int × EmbeddedChunk) → List SymbolRecord
  | _, [] => []
  | first, (r, e) :: rest =>
    symbolRecords first r e.chunk.symbols ++ symbolRowsOf (first + e.chunk.symbols.length) rest

section Admitted

variable {held : List String} {next : Int} {es : List EmbeddedChunk}

theorem admitted_entries (held : List String) (next : Int) (es : List EmbeddedChunk) :
    (admitted held next es).map Prod.snd = freshChunks held es := by
  induction es generalizing held next with
  | nil => rfl
  | cons e rest ih =>
    rw [admitted, freshChunks]
    split <;> simp [ih]

theorem admitted_rowid {p : Int × EmbeddedChunk} (mem : p ∈ admitted held next es) :
    next ≤ p.1 ∧ p.1 < next + es.length := by
  induction es generalizing held next with
  | nil => cases mem
  | cons e rest ih =>
    rw [admitted] at mem
    split at mem
    · have := ih mem
      simp only [List.length_cons] at this ⊢
      omega
    · rcases List.mem_cons.mp mem with rfl | later
      · simp only [List.length_cons]
        omega
      · have := ih later
        simp only [List.length_cons] at this ⊢
        omega

theorem admitted_ascending : (admitted held next es).Pairwise (fun a b => a.1 < b.1) := by
  induction es generalizing held next with
  | nil => exact List.Pairwise.nil
  | cons e rest ih =>
    rw [admitted]
    split
    · exact ih
    · exact List.pairwise_cons.mpr ⟨fun p mem => by have := admitted_rowid mem; omega, ih⟩

end Admitted

theorem symbolRowsOf_append (first : Int) (A B : List (Int × EmbeddedChunk)) :
    symbolRowsOf first (A ++ B) = symbolRowsOf first A ++ symbolRowsOf (first + symbolTotal A) B := by
  induction A generalizing first with
  | nil => simp [symbolRowsOf, symbolTotal]
  | cons p rest ih =>
    obtain ⟨r, e⟩ := p
    simp only [List.cons_append, symbolRowsOf, ih, List.append_assoc, symbolTotal, List.map_cons,
      List.sum_cons]
    congr 3
    omega

namespace Database

/-! ### Writes, statement by statement -/

/-- `db'` is `db` with the chunk rows `A` written: each with its full-text row, its vector row
when it has a vector and its symbol rows, numbered on from the last symbol id. -/
structure Wrote (codec : TermsCodec) (repository : String) (generation : Int) (db db' : Database)
    (A : List (Int × EmbeddedChunk)) : Prop where
  chunks : db'.chunks = db.chunks ++ A.map fun p => p.2.toRow codec p.1 repository generation
  fullText : db'.fullText = db.fullText ++ A.map fun p => (p.1, p.2.chunk.content)
  vectors : db'.vectors = db.vectors ++ A.filterMap fun p => p.2.embedding.map (p.1, ·)
  symbols : db'.symbols = db.symbols ++ symbolRowsOf (db.lastSymbolId + 1) A
  lastSymbolId : db'.lastSymbolId = db.lastSymbolId + symbolTotal A
  repositories : db'.repositories = db.repositories
  commits : db'.commits = db.commits
  dimensions : db'.dimensions = db.dimensions
  vectorWidth : db'.vectorWidth = db.vectorWidth

variable {db db' db'' : Database} {codec : TermsCodec} {repository : String} {generation : Int}

namespace Wrote

theorem refl : Wrote codec repository generation db db [] :=
  ⟨by simp, by simp, by simp, by simp [symbolRowsOf], by simp [symbolTotal], rfl, rfl, rfl, rfl⟩

theorem drawn (r : Int) : Wrote codec repository generation db { db with lastRowid := r } [] :=
  ⟨by simp, by simp, by simp, by simp [symbolRowsOf], by simp [symbolTotal], rfl, rfl, rfl, rfl⟩

theorem trans {A B : List (Int × EmbeddedChunk)} (first : Wrote codec repository generation db db' A)
    (second : Wrote codec repository generation db' db'' B) :
    Wrote codec repository generation db db'' (A ++ B) where
  chunks := by rw [second.chunks, first.chunks, List.map_append, List.append_assoc]
  fullText := by rw [second.fullText, first.fullText, List.map_append, List.append_assoc]
  vectors := by rw [second.vectors, first.vectors, List.filterMap_append, List.append_assoc]
  symbols := by
    rw [second.symbols, first.symbols, first.lastSymbolId, symbolRowsOf_append, List.append_assoc]
    congr 3
    omega
  lastSymbolId := by
    rw [second.lastSymbolId, first.lastSymbolId, symbolTotal, symbolTotal, symbolTotal,
      List.map_append, List.sum_append]
    omega
  repositories := second.repositories.trans first.repositories
  commits := second.commits.trans first.commits
  dimensions := second.dimensions.trans first.dimensions
  vectorWidth := second.vectorWidth.trans first.vectorWidth

end Wrote

theorem holdsChunkId_eq (id : String) :
    db.holdsChunkId repository generation id = (db.chunkIds repository generation).contains id := by
  simp only [holdsChunkId, chunkIds, snapshotRows, List.contains_eq_any_beq, List.any_map,
    List.any_filter]
  congr 1
  funext row
  cases row.repository == repository <;> cases row.generation == generation <;>
    simp [BEq.comm]

theorem chunkIds_wrote {A : List (Int × EmbeddedChunk)} (wrote : Wrote codec repository generation db db' A) :
    db'.chunkIds repository generation = db.chunkIds repository generation ++ A.map (·.2.chunk.id) := by
  simp [chunkIds, snapshotRows, wrote.chunks, List.filter_append, List.filter_map,
    EmbeddedChunk.toRow, Function.comp_def]

theorem insertFullText_ok {r : Int} {content : String} (h : db.insertFullText r content = .ok db') :
    db' = { db with fullText := db.fullText ++ [(r, content)] } := by
  unfold insertFullText at h
  split at h
  · cases h
  · cases h
    rfl

theorem insertVector_ok {r : Int} {v : List Float32} (h : db.insertVector r v = .ok db') :
    db' = { db with vectors := db.vectors ++ [(r, v)] } := by
  unfold insertVector at h
  split at h
  · cases h
  · split at h
    · cases h
    · cases h
      rfl

/-- One chunk: its row id is drawn, and the chunk is written when the generation does not hold
its id. -/
theorem insertOne_ok {e : EmbeddedChunk} {wrote : Bool}
    (h : db.insertOne codec repository generation e = .ok (db', wrote)) :
    wrote = !db.holdsChunkId repository generation e.chunk.id ∧
    db'.lastRowid = db.lastRowid + 1 ∧
    Wrote codec repository generation db db' (if wrote then [(db.lastRowid + 1, e)] else []) := by
  unfold insertOne at h
  dsimp only at h
  split at h
  · next held =>
    cases h
    have holds : db.holdsChunkId repository generation e.chunk.id = true := held
    exact ⟨by simp [holds], rfl, Wrote.drawn _⟩
  · next fresh =>
    have unheld : db.holdsChunkId repository generation e.chunk.id = false := Bool.eq_false_iff.mpr fresh
    split at h
    · cases h
    · split at h
      · cases h
      · next dbText text =>
        obtain rfl := insertFullText_ok text
        split at h
        · next none =>
          cases h
          refine ⟨by simp [unheld], rfl, ?_⟩
          constructor <;> simp [insertSymbols, symbolRowsOf, symbolTotal, none]
        · next v some =>
          split at h
          · cases h
          · next dbVector vectored =>
            cases h
            obtain rfl := insertVector_ok vectored
            refine ⟨by simp [unheld], rfl, ?_⟩
            constructor <;> simp [insertSymbols, symbolRowsOf, symbolTotal, some]

/-- A batch that succeeds writes the chunks `admitted` keeps, with their projections, and draws a
row id for every chunk it tries. -/
theorem insertAll_ok {n n' : Nat} {es : List EmbeddedChunk}
    (h : insertAll codec repository generation db n es = .ok (db', n')) :
    Wrote codec repository generation db db'
        (admitted (db.chunkIds repository generation) (db.lastRowid + 1) es) ∧
      db'.lastRowid = db.lastRowid + es.length ∧
      n' = n + (admitted (db.chunkIds repository generation) (db.lastRowid + 1) es).length := by
  induction es generalizing db n with
  | nil =>
    simp only [insertAll, Except.ok.injEq, Prod.mk.injEq] at h
    obtain ⟨rfl, rfl⟩ := h
    exact ⟨Wrote.refl, by simp, by simp [admitted]⟩
  | cons e rest ih =>
    simp only [insertAll] at h
    split at h
    · cases h
    · next db₁ wrote first =>
      obtain ⟨fresh, drawn, one⟩ := insertOne_ok first
      obtain ⟨later, last, count⟩ := ih h
      have held : db₁.chunkIds repository generation =
          db.chunkIds repository generation ++ if wrote then [e.chunk.id] else [] := by
        rw [chunkIds_wrote one]
        cases wrote <;> simp
      rw [held, drawn] at later count
      rw [holdsChunkId_eq] at fresh
      refine ⟨?_, by rw [last, drawn, List.length_cons]; omega, ?_⟩
      · have joined := one.trans later
        rw [admitted]
        cases wrote <;> simp_all
      · rw [count, admitted]
        cases wrote
        · simp_all
        · simp_all
          omega

/-! ### Deletes -/

/-- The row ids of the chunk rows a purge selects. -/
def purgedIds (db : Database) (repository : String) (drop : Int → Bool) : List Int :=
  (db.chunks.filter fun row => row.repository == repository && drop row.generation).map (·.rowid)

variable {drop : Int → Bool}

@[simp] theorem purgeChunks_chunks :
    (db.purgeChunks repository drop).chunks =
      db.chunks.filter fun row => !(row.repository == repository && drop row.generation) := rfl

@[simp] theorem purgeChunks_fullText :
    (db.purgeChunks repository drop).fullText =
      db.fullText.filter fun f => !(db.purgedIds repository drop).contains f.1 := rfl

@[simp] theorem purgeChunks_vectors :
    (db.purgeChunks repository drop).vectors =
      db.vectors.filter fun v => !(db.purgedIds repository drop).contains v.1 := rfl

@[simp] theorem purgeChunks_symbols :
    (db.purgeChunks repository drop).symbols =
      db.symbols.filter fun rec => !(db.purgedIds repository drop).contains rec.chunkRowid := rfl

@[simp] theorem purgeChunks_lastRowid : (db.purgeChunks repository drop).lastRowid = db.lastRowid := rfl

@[simp] theorem purgeChunks_lastSymbolId :
    (db.purgeChunks repository drop).lastSymbolId = db.lastSymbolId := rfl

@[simp] theorem purgeChunks_repositories :
    (db.purgeChunks repository drop).repositories = db.repositories := rfl

@[simp] theorem purgeChunks_dimensions : (db.purgeChunks repository drop).dimensions = db.dimensions := rfl

@[simp] theorem purgeChunks_vectorWidth :
    (db.purgeChunks repository drop).vectorWidth = db.vectorWidth := rfl

@[simp] theorem purgeChunks_commits : (db.purgeChunks repository drop).commits = db.commits := rfl

@[simp] theorem updateRecord_tables (f : RepositoryRecord → RepositoryRecord) :
    (db.updateRecord repository f).chunks = db.chunks ∧ (db.updateRecord repository f).fullText = db.fullText ∧
      (db.updateRecord repository f).vectors = db.vectors ∧ (db.updateRecord repository f).symbols = db.symbols ∧
      (db.updateRecord repository f).lastRowid = db.lastRowid ∧
      (db.updateRecord repository f).lastSymbolId = db.lastSymbolId :=
  ⟨rfl, rfl, rfl, rfl, rfl, rfl⟩

/-- Starting a pass, committing one and failing one each purge; every other table change they
make is to the records. -/
theorem beginPass_eq (name : String) : ∃ db₁ : Database, ∃ drop : Int → Bool,
    (db.beginPass name).1 = db₁.purgeChunks name drop ∧ db₁.chunks = db.chunks ∧
      db₁.fullText = db.fullText ∧ db₁.vectors = db.vectors ∧ db₁.symbols = db.symbols ∧
      db₁.lastRowid = db.lastRowid ∧ db₁.lastSymbolId = db.lastSymbolId := by
  dsimp only [beginPass]
  split <;> exact ⟨_, _, rfl, rfl, rfl, rfl, rfl, rfl, rfl⟩

theorem commitSnapshot_eq (name : String) (g : Int) (commit : String) : ∃ db₁ : Database,
    (db.commitSnapshot name g commit).1 = db₁.purgeChunks name (fun g' => g' != g) ∧
      db₁.chunks = db.chunks ∧ db₁.fullText = db.fullText ∧ db₁.vectors = db.vectors ∧
      db₁.symbols = db.symbols ∧ db₁.lastRowid = db.lastRowid ∧ db₁.lastSymbolId = db.lastSymbolId :=
  ⟨_, rfl, rfl, rfl, rfl, rfl, rfl, rfl⟩

theorem markFailed_eq (name : String) (g : Int) (error : String) : ∃ db₁ : Database,
    db.markFailed name g error = db₁.purgeChunks name (fun g' => g' == g) ∧
      db₁.chunks = db.chunks ∧ db₁.fullText = db.fullText ∧ db₁.vectors = db.vectors ∧
      db₁.symbols = db.symbols ∧ db₁.lastRowid = db.lastRowid ∧ db₁.lastSymbolId = db.lastSymbolId :=
  ⟨_, rfl, rfl, rfl, rfl, rfl, rfl, rfl⟩

/-! ### Pass operations -/

/-- The database after a pass operation; a write that fails leaves it as it was. -/
def perform (db : Database) (codec : TermsCodec) : PassOp → Database
  | .begin r => (db.beginPass r).1
  | .insert r g cs => (db.insertFileChunks codec r g cs).1
  | .commit r g c => (db.commitSnapshot r g c).1
  | .fail r g e => db.markFailed r g e

/-- The database after pass operations in order. -/
def run (db : Database) (codec : TermsCodec) (ops : List PassOp) : Database :=
  ops.foldl (fun db op => db.perform codec op) db

@[simp] theorem run_nil (codec : TermsCodec) : db.run codec [] = db := rfl

@[simp] theorem run_cons (codec : TermsCodec) (op : PassOp) (ops : List PassOp) :
    db.run codec (op :: ops) = (db.perform codec op).run codec ops := rfl

end Database

/-- Writing a file's chunks is one transaction, all or nothing. When it fails, every table is as
it was. When it succeeds, it has written the chunks that win their ids, the first of each id
that the generation does not hold yet, in batch order and under row ids drawn after every
earlier one: each as one chunk row, one full-text row, a vector row exactly when it has a vector,
and one symbol row per symbol in order, numbered on from the last symbol id; it has drawn a row
id for every chunk of the batch, and it counts the chunks written. -/
theorem file_write_all_or_nothing (db : Database) (codec : TermsCodec) (repository : String)
    (generation : Int) (batch : List EmbeddedChunk) :
    let written := admitted (db.chunkIds repository generation) (db.lastRowid + 1) batch
    let result := db.insertFileChunks codec repository generation batch
    (∀ msg, result.2 = .error msg → result.1 = db) ∧
    ∀ w, result.2 = .ok w →
      written.map Prod.snd = firstWriters (db.chunkIds repository generation) batch ∧
      (∀ p ∈ written, db.lastRowid < p.1) ∧
      Database.Wrote codec repository generation db result.1 written ∧
      result.1.lastRowid = db.lastRowid + batch.length ∧ w = written.length := by
  intro written result
  refine ⟨fun msg failed => ?_, fun w wrote => ?_⟩
  · simp only [result, Database.insertFileChunks, Database.transact] at failed ⊢
    split at failed
    · cases failed
    · rfl
  · simp only [result, Database.insertFileChunks, Database.transact] at wrote ⊢
    split at wrote
    · next db' n h =>
      cases wrote
      obtain ⟨tables, last, count⟩ := Database.insertAll_ok h
      refine ⟨by rw [admitted_entries, freshChunks_eq_firstWriters], fun p mem => ?_, tables, last,
        by simpa [written] using count⟩
      have := admitted_rowid mem
      omega
    · cases wrote

end RepoSearch.Store
