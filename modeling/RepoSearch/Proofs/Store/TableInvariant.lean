import RepoSearch.Proofs.Store.TableWrites
import Mathlib.Data.List.Nodup
/-! The store's tables agree with each other along every run of pass operations, each write
succeeding or failing (`Database.Consistent`): the full-text table has a row for each chunk row
and the vector table one for each chunk row with a vector, in the same order; every symbol row
names a chunk row; no two chunk rows share repository, generation and chunk id; and row ids, of
chunk rows and of symbol rows, increase along their tables, none past the last one drawn.

A write keeps this because it appends rows under ids drawn after every earlier one, each with
its projections. A purge keeps it because it deletes the full-text and vector rows of exactly the
chunk rows it deletes: it selects them by row id, and row ids tell chunk rows apart. Since the
last row id drawn never goes back and every row an operation adds has an id past it, a row id
whose row is gone is never handed out again.

Main statement: `tables_stay_consistent`. -/
namespace RepoSearch.Store

/-- Where a chunk row sits: its repository, generation and chunk id. -/
def ChunkRow.slot (row : ChunkRow) : String × Int × String :=
  (row.repository, row.generation, row.chunkId)

theorem filter_keys {α β : Type} {xs : List α} {ys : List β} {kx : α → Int} {ky : β → Int}
    (same : xs.map kx = ys.map ky) (keep : Int → Bool) :
    (xs.filter fun x => keep (kx x)).map kx = (ys.filter fun y => keep (ky y)).map ky := by
  induction xs generalizing ys with
  | nil => cases ys <;> simp_all
  | cons x xs ih =>
    cases ys with
    | nil => simp at same
    | cons y ys =>
      simp only [List.map_cons, List.cons.injEq] at same
      obtain ⟨head, tail⟩ := same
      simp only [List.filter_cons, head]
      split <;> simp [ih tail, head]

/-- Among rows with distinct keys, a row's key is among the keys of the rows a test selects
exactly when the row passes the test. -/
theorem contains_selected {α : Type} {rows : List α} {key : α → Int} (distinct : (rows.map key).Nodup)
    {row : α} (mem : row ∈ rows) (p : α → Bool) :
    ((rows.filter p).map key).contains (key row) = p row := by
  cases passes : p row
  · rw [Bool.eq_false_iff]
    intro found
    obtain ⟨other, picked, same⟩ := List.mem_map.mp (List.contains_iff_mem.mp found)
    have chosen := (List.mem_filter.mp picked)
    rw [List.inj_on_of_nodup_map distinct chosen.1 mem same, passes] at chosen
    exact Bool.false_ne_true chosen.2
  · exact List.contains_iff_mem.mpr (List.mem_map_of_mem (List.mem_filter.mpr ⟨mem, passes⟩))

section Written

variable {codec : TermsCodec} {repository : String} {generation : Int}

theorem vector_ids (A : List (Int × EmbeddedChunk)) :
    (A.filterMap fun p => p.2.embedding.map (p.1, ·)).map Prod.fst =
      ((A.map fun p => p.2.toRow codec p.1 repository generation).filter (·.hasEmbedding)).map
        (·.rowid) := by
  induction A with
  | nil => rfl
  | cons p rest ih =>
    cases held : p.2.embedding <;> simp [held, ih, EmbeddedChunk.toRow]

theorem mem_symbolRecords {first r : Int} {syms : List Symbol} {rec : SymbolRecord}
    (mem : rec ∈ symbolRecords first r syms) :
    rec.chunkRowid = r ∧ first ≤ rec.id ∧ rec.id < first + syms.length := by
  induction syms generalizing first with
  | nil => cases mem
  | cons sym rest ih =>
    rcases List.mem_cons.mp mem with rfl | later
    · simp [SymbolRecord.ofSymbol]
    · obtain ⟨named, above, below⟩ := ih later
      simp only [List.length_cons]
      exact ⟨named, by omega, by omega⟩

theorem symbolRecords_ascending (first r : Int) (syms : List Symbol) :
    ((symbolRecords first r syms).map (·.id)).Pairwise (· < ·) := by
  induction syms generalizing first with
  | nil => exact List.Pairwise.nil
  | cons sym rest ih =>
    refine List.pairwise_cons.mpr ⟨fun i mem => ?_, ih (first + 1)⟩
    obtain ⟨rec, later, rfl⟩ := List.mem_map.mp mem
    have := (mem_symbolRecords later).2.1
    simp only [SymbolRecord.ofSymbol]
    omega

theorem mem_symbolRowsOf {first : Int} {A : List (Int × EmbeddedChunk)} {rec : SymbolRecord}
    (mem : rec ∈ symbolRowsOf first A) :
    (∃ p ∈ A, rec.chunkRowid = p.1) ∧ first ≤ rec.id ∧ rec.id < first + symbolTotal A := by
  induction A generalizing first with
  | nil => cases mem
  | cons p rest ih =>
    obtain ⟨r, e⟩ := p
    simp only [symbolRowsOf, List.mem_append] at mem
    simp only [symbolTotal, List.map_cons, List.sum_cons] at ih ⊢
    rcases mem with here | later
    · obtain ⟨named, above, below⟩ := mem_symbolRecords here
      exact ⟨⟨(r, e), List.mem_cons_self, named⟩, above, by omega⟩
    · obtain ⟨⟨p, held, named⟩, above, below⟩ := ih later
      exact ⟨⟨p, List.mem_cons_of_mem _ held, named⟩, by omega, by omega⟩

theorem symbolRowsOf_ascending (first : Int) (A : List (Int × EmbeddedChunk)) :
    ((symbolRowsOf first A).map (·.id)).Pairwise (· < ·) := by
  induction A generalizing first with
  | nil => exact List.Pairwise.nil
  | cons p rest ih =>
    obtain ⟨r, e⟩ := p
    simp only [symbolRowsOf, List.map_append]
    refine List.pairwise_append.mpr ⟨symbolRecords_ascending first r _, ih _, ?_⟩
    intro i here j later
    obtain ⟨rec, mine, rfl⟩ := List.mem_map.mp here
    obtain ⟨rec', theirs, rfl⟩ := List.mem_map.mp later
    have below := (mem_symbolRecords mine).2.2
    have above := (mem_symbolRowsOf theirs).2.1
    omega

end Written

namespace Database

/-- The tables agree with each other. -/
structure Consistent (db : Database) : Prop where
  /-- Chunk row ids increase along the table, none past the last one drawn. -/
  ascending : (db.chunks.map (·.rowid)).Pairwise (· < ·)
  drawn : ∀ row ∈ db.chunks, row.rowid ≤ db.lastRowid
  /-- The full-text table has a row for each chunk row, in the same order. -/
  fullText : db.fullText.map Prod.fst = db.chunks.map (·.rowid)
  /-- The vector table has a row for each chunk row with a vector, in the same order. -/
  vectors : db.vectors.map Prod.fst = (db.chunks.filter (·.hasEmbedding)).map (·.rowid)
  symbols : ∀ rec ∈ db.symbols, rec.chunkRowid ∈ db.chunks.map (·.rowid)
  slots : (db.chunks.map ChunkRow.slot).Nodup
  symbolsAscending : (db.symbols.map (·.id)).Pairwise (· < ·)
  symbolsDrawn : ∀ rec ∈ db.symbols, rec.id ≤ db.lastSymbolId

namespace Consistent

variable {db db' : Database} {codec : TermsCodec}

theorem empty (dims : Nat) : Consistent (Database.empty dims) :=
  ⟨List.Pairwise.nil, nofun, rfl, rfl, nofun, List.nodup_nil, List.Pairwise.nil, nofun⟩

theorem distinct (c : Consistent db) : (db.chunks.map (·.rowid)).Nodup :=
  c.ascending.imp Int.ne_of_lt

theorem of_tables (c : Consistent db) (chunks : db'.chunks = db.chunks) (fullText : db'.fullText = db.fullText)
    (vectors : db'.vectors = db.vectors) (symbols : db'.symbols = db.symbols)
    (lastRowid : db'.lastRowid = db.lastRowid) (lastSymbolId : db'.lastSymbolId = db.lastSymbolId) :
    Consistent db' := by
  obtain ⟨ascending, drawn, text, vecs, named, slots, symbolsAscending, symbolsDrawn⟩ := c
  rw [← chunks, ← fullText, ← vectors, ← symbols, ← lastRowid, ← lastSymbolId] at *
  exact ⟨ascending, drawn, text, vecs, named, slots, symbolsAscending, symbolsDrawn⟩

/-- A purge deletes the full-text and vector rows of exactly the chunk rows it deletes, and the
symbol rows naming them. -/
theorem purge (c : Consistent db) (repository : String) (drop : Int → Bool) :
    Consistent (db.purgeChunks repository drop) := by
  let selected (row : ChunkRow) : Bool := row.repository == repository && drop row.generation
  let keep (k : Int) : Bool := !(db.purgedIds repository drop).contains k
  have kept : ∀ row ∈ db.chunks, keep row.rowid = !selected row :=
    fun row mem => by simp only [keep, selected, purgedIds, contains_selected c.distinct mem]
  have chunksKept : db.chunks.filter (fun row => keep row.rowid) = db.chunks.filter (fun row => !selected row) :=
    List.filter_congr kept
  constructor
  · exact c.ascending.sublist (List.filter_sublist.map _)
  · exact fun row mem => c.drawn row (List.mem_of_mem_filter mem)
  · rw [purgeChunks_fullText, purgeChunks_chunks]
    exact (filter_keys c.fullText keep).trans (congrArg _ chunksKept)
  · rw [purgeChunks_vectors, purgeChunks_chunks]
    refine (filter_keys c.vectors keep).trans (congrArg _ ?_)
    rw [List.filter_filter, List.filter_filter]
    refine List.filter_congr fun row mem => ?_
    rw [kept row mem, Bool.and_comm]
  · intro rec mem
    obtain ⟨held, unpurged⟩ := List.mem_filter.mp mem
    obtain ⟨row, stored, same⟩ := List.mem_map.mp (c.symbols rec held)
    refine List.mem_map.mpr ⟨row, List.mem_filter.mpr ⟨stored, ?_⟩, same⟩
    rw [← kept row stored, same]
    exact unpurged
  · exact c.slots.sublist (List.filter_sublist.map _)
  · exact c.symbolsAscending.sublist (List.filter_sublist.map _)
  · exact fun rec mem => c.symbolsDrawn rec (List.mem_of_mem_filter mem)

/-- A write that succeeds appends its rows under fresh ids, each with its projections, and its
chunk rows in slots no row held. -/
theorem insertAll (c : Consistent db) {repository : String} {generation : Int} {n n' : Nat}
    {es : List EmbeddedChunk} (h : insertAll codec repository generation db n es = .ok (db', n')) :
    Consistent db' := by
  obtain ⟨wrote, last, -⟩ := insertAll_ok h
  set held := db.chunkIds repository generation
  set A := admitted held (db.lastRowid + 1) es
  have rowids : (A.map fun p => p.2.toRow codec p.1 repository generation).map (·.rowid) = A.map Prod.fst := by
    simp [EmbeddedChunk.toRow, Function.comp_def]
  have fresh : ∀ p ∈ A, db.lastRowid < p.1 ∧ p.1 ≤ db.lastRowid + es.length := fun p mem => by
    have := admitted_rowid mem
    omega
  obtain ⟨distinct, unheld⟩ := freshChunks_ids held es
  rw [← admitted_entries held (db.lastRowid + 1) es, List.map_map] at distinct
  rw [← admitted_entries held (db.lastRowid + 1) es] at unheld
  constructor
  · rw [wrote.chunks, List.map_append, rowids]
    refine List.pairwise_append.mpr ⟨c.ascending, List.pairwise_map.mpr admitted_ascending, ?_⟩
    intro a old b new
    obtain ⟨row, stored, rfl⟩ := List.mem_map.mp old
    obtain ⟨p, mine, rfl⟩ := List.mem_map.mp new
    have := c.drawn row stored
    have := fresh p mine
    omega
  · intro row mem
    rw [wrote.chunks] at mem
    rw [last]
    rcases List.mem_append.mp mem with old | new
    · have := c.drawn row old
      omega
    · obtain ⟨p, mine, rfl⟩ := List.mem_map.mp new
      have := fresh p mine
      simp only [EmbeddedChunk.toRow]
      omega
  · rw [wrote.fullText, wrote.chunks, List.map_append, List.map_append, c.fullText, rowids]
    simp [Function.comp_def]
  · rw [wrote.vectors, wrote.chunks, List.map_append, List.filter_append, List.map_append, c.vectors,
      vector_ids]
  · intro rec mem
    rw [wrote.symbols] at mem
    rw [wrote.chunks, List.map_append, rowids]
    rcases List.mem_append.mp mem with old | new
    · exact List.mem_append_left _ (c.symbols rec old)
    · obtain ⟨⟨p, mine, named⟩, -⟩ := mem_symbolRowsOf new
      exact List.mem_append_right _ (named ▸ List.mem_map_of_mem mine)
  · rw [wrote.chunks, List.map_append, List.nodup_append]
    refine ⟨c.slots, ?_, ?_⟩
    · refine List.Nodup.of_map (fun slot => slot.2.2) ?_
      simpa [ChunkRow.slot, EmbeddedChunk.toRow, Function.comp_def] using distinct
    · intro a old b new same
      obtain ⟨row, stored, rfl⟩ := List.mem_map.mp old
      obtain ⟨written, mine, rfl⟩ := List.mem_map.mp new
      obtain ⟨p, admittedP, rfl⟩ := List.mem_map.mp mine
      simp only [ChunkRow.slot, EmbeddedChunk.toRow, Prod.mk.injEq] at same
      obtain ⟨sameRepo, sameGen, sameId⟩ := same
      have listed : row.chunkId ∈ held := by
        simp only [held, chunkIds, snapshotRows, List.mem_map, List.mem_filter]
        exact ⟨row, ⟨stored, by simp [sameRepo, sameGen]⟩, rfl⟩
      exact unheld p.2 (List.mem_map_of_mem admittedP) (sameId ▸ listed)
  · rw [wrote.symbols, List.map_append]
    refine List.pairwise_append.mpr ⟨c.symbolsAscending, symbolRowsOf_ascending _ _, ?_⟩
    intro i old j new
    obtain ⟨rec, stored, rfl⟩ := List.mem_map.mp old
    obtain ⟨rec', mine, rfl⟩ := List.mem_map.mp new
    have := c.symbolsDrawn rec stored
    have := (mem_symbolRowsOf mine).2.1
    omega
  · intro rec mem
    rw [wrote.symbols] at mem
    rw [wrote.lastSymbolId]
    rcases List.mem_append.mp mem with old | new
    · have := c.symbolsDrawn rec old
      omega
    · have := (mem_symbolRowsOf new).2.2
      omega

theorem perform (c : Consistent db) (op : PassOp) : Consistent (db.perform codec op) := by
  cases op with
  | begin name =>
    obtain ⟨db₁, drop, eq, chunks, text, vectors, symbols, last, lastSymbol⟩ := db.beginPass_eq name
    rw [Database.perform, eq]
    exact (c.of_tables chunks text vectors symbols last lastSymbol).purge name drop
  | insert name g es =>
    simp only [Database.perform, insertFileChunks, transact]
    split
    · next db' n h => exact c.insertAll h
    · exact c
  | commit name g commit =>
    obtain ⟨db₁, eq, chunks, text, vectors, symbols, last, lastSymbol⟩ := db.commitSnapshot_eq name g commit
    rw [Database.perform, eq]
    exact (c.of_tables chunks text vectors symbols last lastSymbol).purge name _
  | fail name g error =>
    obtain ⟨db₁, eq, chunks, text, vectors, symbols, last, lastSymbol⟩ := db.markFailed_eq name g error
    rw [Database.perform, eq]
    exact (c.of_tables chunks text vectors symbols last lastSymbol).purge name _

theorem run (c : Consistent db) (ops : List PassOp) : Consistent (db.run codec ops) := by
  induction ops generalizing db with
  | nil => exact c
  | cons op rest ih => exact ih (c.perform op)

end Consistent

/-! ### Row ids are not reused -/

variable {db : Database} {codec : TermsCodec}

theorem chunks_perform (op : PassOp) :
    (∀ row ∈ (db.perform codec op).chunks, row ∈ db.chunks ∨ db.lastRowid < row.rowid) ∧
      db.lastRowid ≤ (db.perform codec op).lastRowid := by
  cases op with
  | begin name =>
    obtain ⟨db₁, drop, eq, chunks, -, -, -, last, -⟩ := db.beginPass_eq name
    rw [Database.perform, eq]
    exact ⟨fun row mem => .inl (chunks ▸ List.mem_of_mem_filter mem), by simp [last]⟩
  | insert name g es =>
    simp only [Database.perform, insertFileChunks, transact]
    split
    · next db' n h =>
      obtain ⟨wrote, last, -⟩ := insertAll_ok h
      dsimp only
      refine ⟨fun row mem => ?_, by omega⟩
      rw [wrote.chunks] at mem
      rcases List.mem_append.mp mem with old | new
      · exact .inl old
      · obtain ⟨p, mine, rfl⟩ := List.mem_map.mp new
        have := admitted_rowid mine
        exact .inr (by simp only [EmbeddedChunk.toRow]; omega)
    · exact ⟨fun row mem => .inl mem, Int.le_refl _⟩
  | commit name g commit =>
    obtain ⟨db₁, eq, chunks, -, -, -, last, -⟩ := db.commitSnapshot_eq name g commit
    rw [Database.perform, eq]
    exact ⟨fun row mem => .inl (chunks ▸ List.mem_of_mem_filter mem), by simp [last]⟩
  | fail name g error =>
    obtain ⟨db₁, eq, chunks, -, -, -, last, -⟩ := db.markFailed_eq name g error
    rw [Database.perform, eq]
    exact ⟨fun row mem => .inl (chunks ▸ List.mem_of_mem_filter mem), by simp [last]⟩

theorem chunks_run (ops : List PassOp) :
    (∀ row ∈ (db.run codec ops).chunks, row ∈ db.chunks ∨ db.lastRowid < row.rowid) ∧
      db.lastRowid ≤ (db.run codec ops).lastRowid := by
  induction ops generalizing db with
  | nil => exact ⟨fun row mem => .inl mem, Int.le_refl _⟩
  | cons op rest ih =>
    obtain ⟨kept, grown⟩ := @chunks_perform db codec op
    obtain ⟨kept', grown'⟩ := @ih (db.perform codec op)
    refine ⟨fun row mem => ?_, Int.le_trans grown grown'⟩
    rcases kept' row mem with old | fresh
    · exact kept row old
    · exact .inr (Int.lt_of_le_of_lt grown fresh)

theorem rowid_not_reused (c : Consistent db) {row : ChunkRow} (stored : row ∈ db.chunks)
    (more later : List PassOp) (gone : row.rowid ∉ (db.run codec more).chunks.map (·.rowid)) :
    row.rowid ∉ ((db.run codec more).run codec later).chunks.map (·.rowid) := by
  intro back
  obtain ⟨x, held, same⟩ := List.mem_map.mp back
  rcases (chunks_run later).1 x held with old | fresh
  · exact gone (same ▸ List.mem_map_of_mem old)
  · -- the row's id was drawn before the runs, so it is not past the ids they drew
    have drawn := c.drawn row stored
    have grown := (@chunks_run db codec more).2
    omega

end Database

/-- Along every run of pass operations from an empty store, whatever their order and arguments
and whether each write succeeds or fails: the full-text table's row ids are exactly the chunk row
ids, the vector table's row ids exactly those of the chunk rows with a vector, every symbol row
names a chunk row, no two chunk rows share repository, generation and chunk id, and a row id
whose row a later run deleted is never handed out again. -/
theorem tables_stay_consistent (codec : TermsCodec) (dims : Nat) (ops : List PassOp) :
    let db := (Database.empty dims).run codec ops
    db.fullText.map Prod.fst = db.chunks.map (·.rowid) ∧
      db.vectors.map Prod.fst = (db.chunks.filter (·.hasEmbedding)).map (·.rowid) ∧
      (∀ rec ∈ db.symbols, rec.chunkRowid ∈ db.chunks.map (·.rowid)) ∧
      (db.chunks.map ChunkRow.slot).Nodup ∧
      ∀ row ∈ db.chunks, ∀ more later : List PassOp,
        row.rowid ∉ (db.run codec more).chunks.map (·.rowid) →
          row.rowid ∉ ((db.run codec more).run codec later).chunks.map (·.rowid) := by
  intro db
  have c : db.Consistent := (Database.Consistent.empty dims).run ops
  exact ⟨c.fullText, c.vectors, c.symbols, c.slots,
    fun _ stored more later gone => Database.rowid_not_reused c stored more later gone⟩

end RepoSearch.Store
