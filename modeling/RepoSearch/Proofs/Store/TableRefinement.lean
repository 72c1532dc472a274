import RepoSearch.Proofs.Store.TableInvariant
import Mathlib.Data.List.Basic
/-! The tables hold the chunk store. Each stored chunk of the store is a chunk row of the
database, in the same order, with a full-text row, a vector row when it has a vector and a symbol
row per symbol (`Holds`). Every pass operation on the tables does what the same operation does on
the store: an insert that fails on one fails on the other with the same message, and otherwise
the results correspond again (`Holds.perform`). So the tables a run builds hold the store the
same run builds (`tables_hold_store`), and what the store's theory says of chunks, generations
and records holds of the tables.

Reading chunks back gives what the store holds when every stored chunk survives its row: its
numbers fit 64 bits and the codec reads its term counts back (`Chunk.RoundTrips`). Then a chunk
an insert writes loads back whole, with its symbols in order (`written_chunk_loads_back`).

Main statements: `tables_hold_store`, `written_chunk_loads_back`. -/
namespace RepoSearch

theorem ChunkKind.ofName?_name (k : ChunkKind) : ChunkKind.ofName? k.name = some k := by
  cases k <;> rfl

theorem SymbolKind.ofName?_name (k : SymbolKind) : SymbolKind.ofName? k.name = some k := by
  cases k <;> rfl

/-- A symbol's positions fit 64 bits. -/
def Symbol.Fits (sym : Symbol) : Prop :=
  sym.startLine < Store.wordRange ∧ sym.startColumn < Store.wordRange ∧
    sym.endLine < Store.wordRange ∧ sym.endColumn < Store.wordRange

/-- A chunk survives being written to its rows and read back: its numbers fit 64 bits and the
codec reads its term counts back. -/
structure Chunk.RoundTrips (codec : Store.TermsCodec) (c : Chunk) : Prop where
  startLine : c.startLine < Store.wordRange
  endLine : c.endLine < Store.wordRange
  symbols : ∀ sym ∈ c.symbols, sym.Fits
  termFreqs : codec.decode (codec.encode c.termFreqs) = .ok c.termFreqs

namespace Store

/-- Whether every chunk an operation writes survives its rows. -/
def PassOp.RoundTrips (codec : TermsCodec) : PassOp → Prop
  | .insert _ _ cs => ∀ e ∈ cs, e.chunk.RoundTrips codec
  | _ => True

theorem toUsize_toI64 {n : Nat} (fits : n < wordRange) : toUsize (toI64 n) = n := by
  unfold toUsize toI64 wordRange at *
  split <;> omega

theorem SymbolRecord.decode_ofSymbol {sym : Symbol} (fits : sym.Fits) (id r : Int) :
    (SymbolRecord.ofSymbol id r sym).decode = .ok (r, sym) := by
  obtain ⟨startLine, startColumn, endLine, endColumn⟩ := fits
  simp [SymbolRecord.decode, SymbolRecord.ofSymbol, SymbolKind.ofName?_name, toUsize_toI64, startLine,
    startColumn, endLine, endColumn]

theorem ChunkRow.decode_toRow {codec : TermsCodec} {e : EmbeddedChunk} (trips : e.chunk.RoundTrips codec)
    (r : Int) (repository : String) (generation : Int) :
    (e.toRow codec r repository generation).decode codec =
      .ok ⟨r, { e.chunk with symbols := [] }, e.embedding.isSome⟩ := by
  simp [ChunkRow.decode, EmbeddedChunk.toRow, ChunkKind.ofName?_name, TermsCodec.read, trips.termFreqs,
    toUsize_toI64 trips.startLine, toUsize_toI64 trips.endLine]

theorem mapM_eq_ok {α β ε : Type} {xs : List α} {f : α → Except ε β} {k : α → β}
    (each : ∀ x ∈ xs, f x = .ok (k x)) : xs.mapM f = .ok (xs.map k) := by
  induction xs with
  | nil => rfl
  | cons x rest ih =>
    simp only [List.mapM_cons, each x List.mem_cons_self,
      ih fun y mem => each y (List.mem_cons_of_mem _ mem), List.map_cons]
    rfl

theorem gathered_pushSymbol (groups : List (Int × List Symbol)) (r r' : Int) (sym : Symbol) :
    gathered (pushSymbol r' sym groups) r = if r' == r then gathered groups r ++ [sym] else gathered groups r := by
  induction groups with
  | nil => by_cases same : r' = r <;> simp [pushSymbol, gathered, same]
  | cons g rest ih =>
    obtain ⟨x, syms⟩ := g
    by_cases here : x = r'
    · subst here
      by_cases mine : x = r <;> simp [pushSymbol, gathered, mine]
    · by_cases mine : x = r
      · subst mine
        simp [pushSymbol, gathered, here, Ne.symm here]
      · simp_all [pushSymbol, gathered]

theorem gathered_foldl (found : List (Int × Symbol)) (groups : List (Int × List Symbol)) (r : Int) :
    gathered (found.foldl (fun acc p => pushSymbol p.1 p.2 acc) groups) r =
      gathered groups r ++ (found.filter (·.1 == r)).map Prod.snd := by
  induction found generalizing groups with
  | nil => simp
  | cons p rest ih =>
    rw [List.foldl_cons, ih, gathered_pushSymbol, List.filter_cons]
    by_cases same : p.1 == r <;> simp [same]

/-- The chunk row a stored chunk is kept in. -/
def StoredChunk.row (codec : TermsCodec) (r : StoredChunk) : ChunkRow :=
  r.entry.toRow codec r.rowid r.repository r.generation

/-- A symbol row with its id left out. -/
def SymbolRecord.unnumbered (rec : SymbolRecord) : SymbolRecord := { rec with id := 0 }

/-- A stored chunk as reading it back gives it. -/
def StoredChunk.loaded (r : StoredChunk) : LoadedChunk := ⟨r.rowid, r.chunk, r.hasEmbedding⟩

/-- The database holds the chunk store, whose row ids are in order: the same records, row ids and
clock, a chunk row for each stored chunk in order, a full-text row for each, a vector row for
each that has a vector, and, leaving their own ids aside, one symbol row for each symbol of each,
in order. -/
structure Holds (codec : TermsCodec) (db : Database) (s : ChunkStore) : Prop where
  ordered : RowidsOrdered s
  dimensions : db.dimensions = s.dimensions
  vectorWidth : db.vectorWidth = s.vectorWidth
  repositories : db.repositories = s.repositories
  lastRowid : db.lastRowid = s.lastRowid
  commits : db.commits = s.commits
  chunks : db.chunks = s.rows.map (StoredChunk.row codec)
  fullText : db.fullText = s.rows.map fun r => (r.rowid, r.chunk.content)
  vectors : db.vectors = s.rows.filterMap fun r => r.embedding.map (r.rowid, ·)
  symbols : db.symbols.map SymbolRecord.unnumbered =
    s.rows.flatMap fun r => r.chunk.symbols.map (SymbolRecord.ofSymbol 0 r.rowid)

theorem symbolRecords_unnumbered (first r : Int) (syms : List Symbol) :
    (symbolRecords first r syms).map SymbolRecord.unnumbered = syms.map (SymbolRecord.ofSymbol 0 r) := by
  induction syms generalizing first with
  | nil => rfl
  | cons sym rest ih => simp [symbolRecords, ih, SymbolRecord.unnumbered, SymbolRecord.ofSymbol]

theorem filter_flatMap_keyed {α β : Type} (rows : List α) (key : α → Int) (G : α → List β)
    (k : β → Int) (keyed : ∀ r, ∀ x ∈ G r, k x = key r) (q : Int → Bool) :
    (rows.flatMap G).filter (fun x => q (k x)) = (rows.filter fun r => q (key r)).flatMap G := by
  induction rows with
  | nil => rfl
  | cons r rest ih =>
    rw [List.flatMap_cons, List.filter_append, ih, List.filter_cons]
    cases kept : q (key r)
    · have gone : (G r).filter (fun x => q (k x)) = [] :=
        List.filter_eq_nil_iff.mpr fun x mem => by rw [keyed r x mem, kept]; exact Bool.false_ne_true
      simp [gone]
    · have all : (G r).filter (fun x => q (k x)) = G r :=
        List.filter_eq_self.mpr fun x mem => by rw [keyed r x mem, kept]
      simp [all]

theorem filter_key_eq_singleton {α : Type} {rows : List α} {key : α → Int} {row : α}
    (distinct : (rows.map key).Nodup) (mem : row ∈ rows) : rows.filter (fun x => key x == key row) = [row] := by
  induction rows with
  | nil => cases mem
  | cons x rest ih =>
    rw [List.map_cons, List.nodup_cons] at distinct
    rcases List.mem_cons.mp mem with rfl | later
    · have none : rest.filter (fun x => key x == key row) = [] :=
        List.filter_eq_nil_iff.mpr fun y inRest same =>
          distinct.1 (List.mem_map.mpr ⟨y, inRest, by simpa using same⟩)
      simp [none]
    · have other : key x ≠ key row := fun same => distinct.1 (same ▸ List.mem_map_of_mem later)
      simp [other, ih distinct.2 later]

theorem admitted_mem {held : List String} {next : Int} {es : List EmbeddedChunk} {p : Int × EmbeddedChunk}
    (mem : p ∈ admitted held next es) : p.2 ∈ es := by
  induction es generalizing held next with
  | nil => cases mem
  | cons e rest ih =>
    rw [admitted] at mem
    split at mem
    · exact List.mem_cons_of_mem _ (ih mem)
    · rcases List.mem_cons.mp mem with rfl | later
      · exact List.mem_cons_self
      · exact List.mem_cons_of_mem _ (ih later)

/-- The stored chunk an admitted chunk becomes. -/
def admittedRow (repository : String) (generation : Int) (p : Int × EmbeddedChunk) : StoredChunk :=
  ⟨p.1, repository, generation, p.2.chunk, p.2.embedding⟩

theorem ChunkStore.insertAll_rows {s s' : ChunkStore} {name : String} {g : Int} {n n' : Nat}
    {es : List EmbeddedChunk} (h : ChunkStore.insertAll name g s n es = .ok (s', n')) :
    s'.rows = s.rows ++ (admitted ((s.snapshot name g).map (·.chunk.id)) (s.lastRowid + 1) es).map
      (admittedRow name g) := by
  induction es generalizing s n with
  | nil =>
    simp only [ChunkStore.insertAll, Except.ok.injEq, Prod.mk.injEq] at h
    obtain ⟨rfl, rfl⟩ := h
    simp [admitted]
  | cons e rest ih =>
    simp only [ChunkStore.insertAll] at h
    split at h
    · cases h
    · next s₁ wrote first =>
      obtain ⟨written, rfl⟩ := ChunkStore.insertOne_ok first
      rw [ih h, admitted]
      cases held : ((s.snapshot name g).map (·.chunk.id)).contains e.chunk.id
      · obtain rfl : wrote = true := by rw [written, held]; rfl
        simp [ChunkStore.snapshot, List.filter_append, admittedRow]
      · obtain rfl : wrote = false := by rw [written, held]; rfl
        simp [ChunkStore.snapshot]

/-- Every chunk the store holds survives its rows. -/
def ChunkStore.RoundTrips (codec : TermsCodec) (s : ChunkStore) : Prop :=
  ∀ r ∈ s.rows, r.chunk.RoundTrips codec

theorem ChunkStore.RoundTrips.sublist {codec : TermsCodec} {s t : ChunkStore} (trips : s.RoundTrips codec)
    (kept : List.Sublist t.rows s.rows) : t.RoundTrips codec :=
  fun r mem => trips r (kept.subset mem)

theorem ChunkStore.RoundTrips.perform {codec : TermsCodec} {s : ChunkStore} (trips : s.RoundTrips codec)
    {op : PassOp} (opTrips : op.RoundTrips codec) : (s.perform op).RoundTrips codec := by
  cases op with
  | begin name => exact trips.sublist ChunkStore.rows_beginPass_sublist
  | insert name g es =>
    cases inserted : s.insertFileChunks name g es with
    | error msg =>
      rw [ChunkStore.perform_insert_error inserted]
      exact trips
    | ok result =>
      obtain ⟨s', n⟩ := result
      rw [ChunkStore.perform_insert_ok inserted]
      intro r mem
      rw [ChunkStore.insertAll_rows inserted] at mem
      rcases List.mem_append.mp mem with old | new
      · exact trips r old
      · obtain ⟨p, chosen, rfl⟩ := List.mem_map.mp new
        exact opTrips p.2 (admitted_mem chosen)
  | commit name g c => exact trips.sublist (ChunkStore.rows_commitSnapshot_sublist g c)
  | fail name g e => exact trips.sublist (ChunkStore.rows_markFailed_sublist g e)

theorem ChunkStore.RoundTrips.run {codec : TermsCodec} {s : ChunkStore} (trips : s.RoundTrips codec)
    {ops : List PassOp} (opsTrip : ∀ op ∈ ops, op.RoundTrips codec) :
    (ops.foldl ChunkStore.perform s).RoundTrips codec := by
  induction ops generalizing s with
  | nil => exact trips
  | cons op rest ih =>
    exact ih (trips.perform (opsTrip op List.mem_cons_self)) fun o mem => opsTrip o (List.mem_cons_of_mem _ mem)

namespace Database

variable {db : Database} {codec : TermsCodec} {repository : String} {generation : Int}

/-- The tables after a chunk row is written under the next row id with its full-text row, its
vector row if it has a vector, and its symbol rows. -/
def appendRow (db : Database) (codec : TermsCodec) (repository : String) (generation : Int)
    (e : EmbeddedChunk) : Database :=
  let rowid := db.lastRowid + 1
  ({ db with lastRowid := rowid, chunks := db.chunks ++ [e.toRow codec rowid repository generation],
             fullText := db.fullText ++ [(rowid, e.chunk.content)],
             vectors := db.vectors ++ (e.embedding.map (rowid, ·)).toList }).insertSymbols
    rowid e.chunk.symbols

@[simp] theorem holdsChunkId_drawn (r : Int) :
    ({ db with lastRowid := r } : Database).holdsChunkId = db.holdsChunkId := rfl

@[simp] theorem record?_drawn (r : Int) : ({ db with lastRowid := r } : Database).record? = db.record? := rfl

theorem insertOne_of_fresh {e : EmbeddedChunk}
    (freshText : ∀ f ∈ db.fullText, f.1 ≠ db.lastRowid + 1)
    (freshVector : ∀ v ∈ db.vectors, v.1 ≠ db.lastRowid + 1) :
    db.insertOne codec repository generation e =
      if db.holdsChunkId repository generation e.chunk.id then
        .ok ({ db with lastRowid := db.lastRowid + 1 }, false)
      else if (db.record? repository).isNone then .error "FOREIGN KEY constraint failed"
      else
        match e.embedding.bind (widthProblem db.vectorWidth) with
        | some msg => .error msg
        | none => .ok (db.appendRow codec repository generation e, true) := by
  have textFree : (db.fullText.any fun f => f.1 == db.lastRowid + 1) = false :=
    List.any_eq_false.mpr fun f mem same => freshText f mem (by simpa using same)
  have vectorFree : (db.vectors.any fun v => v.1 == db.lastRowid + 1) = false :=
    List.any_eq_false.mpr fun v mem same => freshVector v mem (by simpa using same)
  unfold insertOne
  simp only [holdsChunkId_drawn, record?_drawn]
  by_cases held : db.holdsChunkId repository generation e.chunk.id = true
  · simp only [held, if_true]
  · by_cases missing : (db.record? repository).isNone = true
    · simp only [held, missing, if_true]
    · simp only [held, missing, if_false, insertFullText, textFree, Bool.false_eq_true]
      cases vector : e.embedding with
      | none => simp [appendRow, vector]
      | some v =>
        simp only [Option.bind_some, insertVector]
        cases widthProblem db.vectorWidth v with
        | some msg => rfl
        | none => simp [vectorFree, appendRow, vector]

end Database

namespace Holds

variable {codec : TermsCodec} {db : Database} {s : ChunkStore}

theorem empty (codec : TermsCodec) (dims : Nat) : Holds codec (Database.empty dims) (ChunkStore.empty dims) :=
  ⟨RowidsOrdered.empty dims, rfl, rfl, rfl, rfl, rfl, rfl, rfl, rfl, rfl⟩

theorem record? (h : Holds codec db s) (name : String) : db.record? name = s.record? name := by
  simp [Database.record?, ChunkStore.record?, h.repositories]

theorem withRecords (h : Holds codec db s) (rs : List RepositoryRecord) :
    Holds codec { db with repositories := rs } { s with repositories := rs } :=
  ⟨⟨h.ordered.increasing, h.ordered.bounded⟩, h.dimensions, h.vectorWidth, rfl, h.lastRowid, h.commits,
    h.chunks, h.fullText, h.vectors, h.symbols⟩

theorem withCommits (h : Holds codec db s) (n : Nat) :
    Holds codec { db with commits := n } { s with commits := n } :=
  ⟨⟨h.ordered.increasing, h.ordered.bounded⟩, h.dimensions, h.vectorWidth, h.repositories, h.lastRowid, rfl,
    h.chunks, h.fullText, h.vectors, h.symbols⟩

theorem updateRecord (h : Holds codec db s) (name : String) (f : RepositoryRecord → RepositoryRecord) :
    Holds codec (db.updateRecord name f) (s.updateRecord name f) := by
  unfold Database.updateRecord ChunkStore.updateRecord
  rw [h.repositories]
  exact h.withRecords _

theorem purge (h : Holds codec db s) (name : String) (drop : Int → Bool) :
    Holds codec (db.purgeChunks name drop) (s.purge name drop) := by
  let selected (r : StoredChunk) : Bool := r.repository == name && drop r.generation
  let keep (k : Int) : Bool := !(db.purgedIds name drop).contains k
  have ids : db.purgedIds name drop = (s.rows.filter selected).map (·.rowid) := by
    simp [Database.purgedIds, h.chunks, List.filter_map, Function.comp_def, StoredChunk.row,
      EmbeddedChunk.toRow, selected]
  have kept : s.rows.filter (fun r => keep r.rowid) = s.rows.filter (fun r => !selected r) :=
    List.filter_congr fun r mem => by simp only [keep, ids, contains_selected h.ordered.nodup mem]
  constructor
  · exact h.ordered.sublist (ChunkStore.rows_purge_sublist drop) rfl
  · exact h.dimensions
  · exact h.vectorWidth
  · exact h.repositories
  · exact h.lastRowid
  · exact h.commits
  · simp [h.chunks, ChunkStore.purge, List.filter_map, Function.comp_def, StoredChunk.row,
      EmbeddedChunk.toRow]
  · rw [Database.purgeChunks_fullText, h.fullText, ChunkStore.purge, List.map_eq_flatMap,
      List.map_eq_flatMap, ← kept]
    exact filter_flatMap_keyed _ StoredChunk.rowid _ Prod.fst (fun r x mem => by simp_all) keep
  · rw [Database.purgeChunks_vectors, h.vectors, ChunkStore.purge, List.filterMap_eq_flatMap_toList,
      List.filterMap_eq_flatMap_toList, ← kept]
    refine filter_flatMap_keyed _ StoredChunk.rowid _ Prod.fst (fun r x mem => ?_) keep
    cases held : r.embedding <;> simp_all
  · have unnumbered : (db.symbols.filter fun rec => keep rec.chunkRowid).map SymbolRecord.unnumbered =
        (db.symbols.map SymbolRecord.unnumbered).filter fun rec => keep rec.chunkRowid := by
      rw [List.filter_map]
      rfl
    rw [Database.purgeChunks_symbols, ChunkStore.purge]
    refine unnumbered.trans ?_
    rw [h.symbols, ← kept]
    refine filter_flatMap_keyed _ StoredChunk.rowid _ SymbolRecord.chunkRowid (fun r x mem => ?_) keep
    obtain ⟨sym, -, rfl⟩ := List.mem_map.mp mem
    rfl

theorem beginPass (h : Holds codec db s) (name : String) :
    Holds codec (db.beginPass name).1 (s.beginPass name).1 ∧ (db.beginPass name).2 = (s.beginPass name).2 := by
  have created : Holds codec
      (if (db.record? name).isSome then db else { db with repositories := db.repositories ++ [{ name }] })
      (if (s.record? name).isSome then s else { s with repositories := s.repositories ++ [{ name }] }) := by
    rw [h.record? name]
    split
    · exact h
    · rw [h.repositories]
      exact h.withRecords _
  have marked := created.updateRecord name (fun r => { r with state := .indexing, lastError := none })
  simp only [Database.beginPass, ChunkStore.beginPass]
  rw [marked.record? name]
  exact ⟨marked.purge name _, rfl⟩

theorem commitSnapshot (h : Holds codec db s) (name : String) (g : Int) (commit : String) :
    Holds codec (db.commitSnapshot name g commit).1 (s.commitSnapshot name g commit).1 ∧
      (db.commitSnapshot name g commit).2 = (s.commitSnapshot name g commit).2 := by
  have total : (db.chunks.filter fun row => row.repository == name && row.generation == g).length =
      (s.snapshot name g).length := by
    simp [h.chunks, ChunkStore.snapshot, List.filter_map, Function.comp_def, StoredChunk.row,
      EmbeddedChunk.toRow]
  simp only [Database.commitSnapshot, ChunkStore.commitSnapshot]
  rw [total, h.commits]
  exact ⟨((h.withCommits _).updateRecord name _).purge name _, rfl⟩

theorem drawn (h : Holds codec db s) :
    Holds codec { db with lastRowid := db.lastRowid + 1 } { s with lastRowid := s.lastRowid + 1 } :=
  ⟨⟨h.ordered.increasing, fun r mem => Int.le_trans (h.ordered.bounded r mem) (Int.le_add_one (Int.le_refl _))⟩,
    h.dimensions, h.vectorWidth, h.repositories, by simp [h.lastRowid], h.commits, h.chunks, h.fullText,
    h.vectors, h.symbols⟩

theorem fullText_fresh (h : Holds codec db s) : ∀ f ∈ db.fullText, f.1 ≠ db.lastRowid + 1 := by
  intro f mem
  rw [h.fullText] at mem
  obtain ⟨r, stored, rfl⟩ := List.mem_map.mp mem
  have := h.ordered.bounded r stored
  rw [h.lastRowid]
  exact Int.ne_of_lt (Int.lt_add_one_iff.mpr this)

theorem vectors_fresh (h : Holds codec db s) : ∀ v ∈ db.vectors, v.1 ≠ db.lastRowid + 1 := by
  intro v mem
  rw [h.vectors] at mem
  obtain ⟨r, stored, made⟩ := List.mem_filterMap.mp mem
  obtain ⟨x, -, rfl⟩ := Option.map_eq_some_iff.mp made
  have := h.ordered.bounded r stored
  rw [h.lastRowid]
  exact Int.ne_of_lt (Int.lt_add_one_iff.mpr this)

theorem holdsChunkId (h : Holds codec db s) (repository : String) (generation : Int) (id : String) :
    db.holdsChunkId repository generation id =
      (s.snapshot repository generation).any (fun r => r.chunk.id == id) := by
  simp [Database.holdsChunkId, h.chunks, ChunkStore.snapshot, List.any_filter, Function.comp_def,
    StoredChunk.row, StoredChunk.entry, EmbeddedChunk.toRow, Bool.and_assoc]

theorem appendRow (h : Holds codec db s) (repository : String) (generation : Int) (e : EmbeddedChunk) :
    Holds codec (db.appendRow codec repository generation e)
      { s with lastRowid := s.lastRowid + 1,
               rows := s.rows ++ [⟨s.lastRowid + 1, repository, generation, e.chunk, e.embedding⟩] } := by
  have last := h.lastRowid
  constructor
  · constructor
    · refine List.pairwise_append.mpr ⟨h.ordered.increasing, List.pairwise_singleton _ _, ?_⟩
      intro a old b new
      rw [List.mem_singleton] at new
      subst new
      exact Int.lt_add_one_iff.mpr (h.ordered.bounded a old)
    · intro r mem
      rcases List.mem_append.mp mem with old | new
      · exact Int.le_trans (h.ordered.bounded r old) (Int.le_add_one (Int.le_refl _))
      · rw [List.mem_singleton] at new
        subst new
        exact Int.le_refl _
  all_goals simp [Database.appendRow, Database.insertSymbols, h.dimensions, h.vectorWidth,
    h.repositories, h.commits, h.chunks, h.fullText, h.vectors, List.filterMap_append, h.symbols,
    symbolRecords_unnumbered, StoredChunk.row, StoredChunk.entry, last]
  cases e.embedding <;> rfl

/-- Writing one chunk on the tables does what it does on the store: the same outcome, and
corresponding results. -/
theorem insertOne (h : Holds codec db s) (repository : String) (generation : Int) (e : EmbeddedChunk) :
    (∀ s' wrote, s.insertOne repository generation e = .ok (s', wrote) →
      ∃ db', db.insertOne codec repository generation e = .ok (db', wrote) ∧ Holds codec db' s') ∧
    ∀ msg, s.insertOne repository generation e = .error msg →
      db.insertOne codec repository generation e = .error msg := by
  rw [Database.insertOne_of_fresh h.fullText_fresh h.vectors_fresh, h.holdsChunkId, h.record?]
  unfold ChunkStore.insertOne ChunkStore.vectorProblem
  simp only [ChunkStore.snapshot_drawRowid]
  by_cases held : (s.snapshot repository generation).any (fun r => r.chunk.id == e.chunk.id) = true
  · simp only [held, if_true]
    refine ⟨fun s' wrote hs => ?_, fun msg hs => by cases hs⟩
    cases hs
    exact ⟨_, rfl, h.drawn⟩
  · have found : ({ s with lastRowid := s.lastRowid + 1 } : ChunkStore).record? repository =
        s.record? repository := rfl
    by_cases missing : (s.record? repository).isNone = true
    · simp only [held, missing, found, if_true, Bool.false_eq_true, if_false]
      exact ⟨fun s' wrote hs => (by cases hs), fun msg hs => by simpa using hs⟩
    · simp only [held, missing, found, Bool.false_eq_true, if_false]
      cases vector : e.embedding with
      | none =>
        simp only [Option.bind_none]
        refine ⟨fun s' wrote hs => ?_, fun msg hs => by cases hs⟩
        cases hs
        exact ⟨_, rfl, vector ▸ h.appendRow repository generation e⟩
      | some v =>
        simp only [Option.bind_some, h.vectorWidth]
        cases widthProblem s.vectorWidth v with
        | some msg => exact ⟨fun s' wrote hs => (by cases hs), fun m hs => by simpa using hs⟩
        | none =>
          refine ⟨fun s' wrote hs => ?_, fun msg hs => by cases hs⟩
          cases hs
          exact ⟨_, rfl, vector ▸ h.appendRow repository generation e⟩

theorem insertAll (h : Holds codec db s) (repository : String) (generation : Int) (n : Nat)
    (es : List EmbeddedChunk) :
    (∀ s' n', ChunkStore.insertAll repository generation s n es = .ok (s', n') →
      ∃ db', Database.insertAll codec repository generation db n es = .ok (db', n') ∧ Holds codec db' s') ∧
    ∀ msg, ChunkStore.insertAll repository generation s n es = .error msg →
      Database.insertAll codec repository generation db n es = .error msg := by
  induction es generalizing db s n with
  | nil =>
    refine ⟨fun s' n' hs => ?_, fun msg hs => by cases hs⟩
    simp only [ChunkStore.insertAll, Except.ok.injEq, Prod.mk.injEq] at hs
    obtain ⟨rfl, rfl⟩ := hs
    exact ⟨db, rfl, h⟩
  | cons e rest ih =>
    obtain ⟨oneOk, oneError⟩ := h.insertOne repository generation e
    cases first : s.insertOne repository generation e with
    | error msg =>
      refine ⟨fun s' n' hs => ?_, fun m hs => ?_⟩
      · simp [ChunkStore.insertAll, first] at hs
      · simp only [ChunkStore.insertAll, first] at hs
        simp only [Database.insertAll, oneError msg first]
        simpa using hs
    | ok result =>
      obtain ⟨s₁, wrote⟩ := result
      obtain ⟨db₁, dbFirst, h₁⟩ := oneOk s₁ wrote first
      obtain ⟨restOk, restError⟩ := ih h₁ (if wrote then n + 1 else n)
      refine ⟨fun s' n' hs => ?_, fun m hs => ?_⟩
      · simp only [ChunkStore.insertAll, first] at hs
        obtain ⟨db', dbRest, h'⟩ := restOk s' n' hs
        exact ⟨db', by simp only [Database.insertAll, dbFirst]; exact dbRest, h'⟩
      · simp only [ChunkStore.insertAll, first] at hs
        simp only [Database.insertAll, dbFirst]
        exact restError m hs

/-- Writing a file's chunks on the tables has the outcome it has on the store, with the same
count or the same message, and the results correspond. -/
theorem insertFileChunks (h : Holds codec db s) (repository : String) (generation : Int)
    (es : List EmbeddedChunk) :
    (db.insertFileChunks codec repository generation es).2 =
        (s.insertFileChunks repository generation es).map Prod.snd ∧
      Holds codec (db.insertFileChunks codec repository generation es).1
        (s.perform (.insert repository generation es)) := by
  obtain ⟨wrote, failed⟩ := h.insertAll repository generation 0 es
  cases hs : s.insertFileChunks repository generation es with
  | ok result =>
    obtain ⟨s', n⟩ := result
    obtain ⟨db', dbWrote, h'⟩ := wrote s' n hs
    simp only [Database.insertFileChunks, dbWrote, Database.transact, ChunkStore.perform_insert_ok hs]
    exact ⟨rfl, h'⟩
  | error msg =>
    simp only [Database.insertFileChunks, failed msg hs, Database.transact,
      ChunkStore.perform_insert_error hs]
    exact ⟨rfl, h⟩

theorem chunkIds (h : Holds codec db s) (repository : String) (generation : Int) :
    db.chunkIds repository generation = (s.snapshot repository generation).map (·.chunk.id) := by
  simp [Database.chunkIds, Database.snapshotRows, h.chunks, ChunkStore.snapshot, List.filter_map,
    Function.comp_def, StoredChunk.row, StoredChunk.entry, EmbeddedChunk.toRow]

theorem loadedRows (h : Holds codec db s) (trips : s.RoundTrips codec) (ids : List Int) :
    (db.chunks.filter fun row => ids.contains row.rowid).mapM (ChunkRow.decode codec) =
      .ok ((s.loadChunks ids).map fun r => ⟨r.rowid, { r.chunk with symbols := [] }, r.hasEmbedding⟩) := by
  have rows : db.chunks.filter (fun row => ids.contains row.rowid) = (s.loadChunks ids).map (StoredChunk.row codec) := by
    rw [h.chunks, List.filter_map]
    rfl
  rw [rows, List.mapM_map]
  exact mapM_eq_ok fun r chosen => ChunkRow.decode_toRow (trips r (List.mem_of_mem_filter chosen)) _ _ _

theorem loadedSymbols (h : Holds codec db s) (trips : s.RoundTrips codec) (ids : List Int) :
    (db.symbols.filter fun rec => ids.contains rec.chunkRowid).mapM SymbolRecord.decode =
      .ok ((s.loadChunks ids).flatMap fun r => r.chunk.symbols.map (r.rowid, ·)) := by
  -- the symbol ids are the only thing the store does not say, and reading ignores them
  have unnumbered : (db.symbols.filter fun rec => ids.contains rec.chunkRowid).mapM SymbolRecord.decode =
      ((db.symbols.map SymbolRecord.unnumbered).filter fun rec => ids.contains rec.chunkRowid).mapM
        SymbolRecord.decode := by
    have commute : (db.symbols.map SymbolRecord.unnumbered).filter (fun rec => ids.contains rec.chunkRowid) =
        (db.symbols.filter fun rec => ids.contains rec.chunkRowid).map SymbolRecord.unnumbered := by
      rw [List.filter_map]
      rfl
    rw [commute, List.mapM_map]
    rfl
  have projected : (db.symbols.map SymbolRecord.unnumbered).filter (fun rec => ids.contains rec.chunkRowid) =
      ((s.loadChunks ids).flatMap fun r => r.chunk.symbols.map (r.rowid, ·)).map
        fun p => SymbolRecord.ofSymbol 0 p.1 p.2 := by
    rw [h.symbols, filter_flatMap_keyed _ StoredChunk.rowid _ SymbolRecord.chunkRowid ?_, List.map_flatMap]
    · simp [ChunkStore.loadChunks, Function.comp_def]
    · intro r x mem
      obtain ⟨sym, -, rfl⟩ := List.mem_map.mp mem
      rfl
  rw [unnumbered, projected, List.mapM_map]
  refine (mapM_eq_ok (k := id) fun p mem => ?_).trans (by rw [List.map_id])
  obtain ⟨r, chosen, inChunk⟩ := List.mem_flatMap.mp mem
  obtain ⟨sym, owned, rfl⟩ := List.mem_map.mp inChunk
  exact SymbolRecord.decode_ofSymbol ((trips r (List.mem_of_mem_filter chosen)).symbols sym owned) 0 r.rowid

/-- Reading chunks back from the tables gives the chunks the store holds under those row ids,
whole, when each survives its rows. -/
theorem loadChunks (h : Holds codec db s) (trips : s.RoundTrips codec) (ids : List Int) :
    db.loadChunks codec ids = .ok ((s.loadChunks ids).map StoredChunk.loaded) := by
  by_cases none : ids.isEmpty = true
  · simp [Database.loadChunks, List.isEmpty_iff.mp none, ChunkStore.loadChunks]
  · have distinct : ((s.loadChunks ids).map StoredChunk.rowid).Nodup :=
      h.ordered.nodup.sublist (List.filter_sublist.map _)
    simp only [Database.loadChunks, none, Bool.false_eq_true, ↓reduceIte, h.loadedRows trips,
      h.loadedSymbols trips, bind, Except.bind, pure, Except.pure, List.map_map]
    congr 1
    refine List.map_congr_left fun r mem => ?_
    -- each chunk gets back exactly its own symbols: row ids are distinct among the loaded chunks
    have picked : ((s.loadChunks ids).flatMap fun r => r.chunk.symbols.map (r.rowid, ·)).filter
        (·.1 == r.rowid) = ((s.loadChunks ids).filter (·.rowid == r.rowid)).flatMap
          fun r => r.chunk.symbols.map (r.rowid, ·) := by
      refine filter_flatMap_keyed _ StoredChunk.rowid _ Prod.fst (fun r x mem => ?_) (· == r.rowid)
      obtain ⟨sym, -, rfl⟩ := List.mem_map.mp mem
      rfl
    have regrouped : gathered (((s.loadChunks ids).flatMap fun r => r.chunk.symbols.map (r.rowid, ·)).foldl
        (fun acc p => pushSymbol p.1 p.2 acc) []) r.rowid = r.chunk.symbols := by
      rw [gathered_foldl, picked, filter_key_eq_singleton distinct mem]
      simp [gathered, Function.comp_def]
    simp [StoredChunk.loaded, regrouped]

theorem markFailed (h : Holds codec db s) (name : String) (g : Int) (error : String) :
    Holds codec (db.markFailed name g error) (s.markFailed name g error) := by
  simp only [Database.markFailed, ChunkStore.markFailed]
  exact (h.updateRecord name _).purge name _

theorem perform (h : Holds codec db s) (op : PassOp) : Holds codec (db.perform codec op) (s.perform op) := by
  cases op with
  | begin name => exact (h.beginPass name).1
  | insert name g es => exact (h.insertFileChunks name g es).2
  | commit name g commit => exact (h.commitSnapshot name g commit).1
  | fail name g error => exact h.markFailed name g error

theorem run (h : Holds codec db s) (ops : List PassOp) :
    Holds codec (db.run codec ops) (ops.foldl ChunkStore.perform s) := by
  induction ops generalizing db s with
  | nil => exact h
  | cons op rest ih => exact ih (h.perform op)

end Holds

theorem tables_hold_store (codec : TermsCodec) (dims : Nat) (ops : List PassOp) :
    Holds codec ((Database.empty dims).run codec ops) (ops.foldl ChunkStore.perform (ChunkStore.empty dims)) :=
  (Holds.empty codec dims).run ops

/-- A chunk that a file write stores as a new row reads back whole: reading any row ids that
include its row id succeeds and gives the chunk, its symbols in order, and whether it has a
vector, among the rows of those ids that exist, in ascending row id order. Every chunk written so
far must survive its rows. -/
theorem written_chunk_loads_back (codec : TermsCodec) (dims : Nat) (ops : List PassOp)
    (survive : ∀ op ∈ ops, op.RoundTrips codec) (repository : String) (generation : Int)
    (batch : List EmbeddedChunk) (batchSurvives : ∀ e ∈ batch, e.chunk.RoundTrips codec)
    (w : Nat) (r : Int) (e : EmbeddedChunk) (ids : List Int) :
    let db := (Database.empty dims).run codec ops
    let written := db.insertFileChunks codec repository generation batch
    written.2 = .ok w →
    (r, e) ∈ admitted (db.chunkIds repository generation) (db.lastRowid + 1) batch →
    r ∈ ids →
    ∃ out, written.1.loadChunks codec ids = .ok out ∧
      ⟨r, e.chunk, e.embedding.isSome⟩ ∈ out ∧
      out.map (·.rowid) = (written.1.chunks.map (·.rowid)).filter ids.contains ∧
      (out.map (·.rowid)).Pairwise (· < ·) := by
  intro db written ok chosen wanted
  let s := ops.foldl ChunkStore.perform (ChunkStore.empty dims)
  have h : Holds codec db s := tables_hold_store codec dims ops
  obtain ⟨outcome, h'⟩ := h.insertFileChunks repository generation batch
  cases stored : s.insertFileChunks repository generation batch with
  | error msg =>
    have failed : written.2 = .error msg := by rw [outcome, stored]; rfl
    rw [ok] at failed
    cases failed
  | ok result =>
    obtain ⟨s', n⟩ := result
    rw [ChunkStore.perform_insert_ok stored] at h'
    have trips : s'.RoundTrips codec := by
      have before : s.RoundTrips codec := ChunkStore.RoundTrips.run (fun r mem => by cases mem) survive
      have after : (s.perform (.insert repository generation batch)).RoundTrips codec :=
        before.perform batchSurvives
      rwa [ChunkStore.perform_insert_ok stored] at after
    have row : admittedRow repository generation (r, e) ∈ s'.rows := by
      rw [ChunkStore.insertAll_rows stored]
      rw [h.chunkIds, h.lastRowid] at chosen
      exact List.mem_append_right _ (List.mem_map_of_mem chosen)
    refine ⟨_, h'.loadChunks trips ids, ?_, ?_, ?_⟩
    · exact List.mem_map.mpr ⟨_, List.mem_filter.mpr ⟨row, by simpa [admittedRow] using wanted⟩, rfl⟩
    · rw [h'.chunks, List.map_map, List.map_map, List.filter_map]
      rfl
    · rw [List.map_map]
      exact List.pairwise_map.mpr (h'.ordered.increasing.sublist List.filter_sublist)

/-- A chunk with one symbol, written on a first pass, reads back whole. -/
theorem first_chunk_loads_back :
    let chunk : Chunk := ⟨"a.py:1-2", "a.py", "def f():\n  pass", .symbol, "python", 1, 2,
      [⟨"f", .function, 1, 4, 2, 8, "def f():"⟩], []⟩
    let db := (Database.empty 2).run TermsCodec.json [.begin "r"]
    let written := db.insertFileChunks TermsCodec.json "r" 1 [⟨chunk, none⟩]
    ∃ out, written.1.loadChunks TermsCodec.json [1, 5] = .ok out ∧
      ⟨1, chunk, false⟩ ∈ out ∧
      out.map (·.rowid) = (written.1.chunks.map (·.rowid)).filter [1, 5].contains ∧
      (out.map (·.rowid)).Pairwise (· < ·) := by
  intro chunk db written
  have counts : TermsCodec.json.decode (TermsCodec.json.encode []) = .ok [] := by
    have text : TermsCodec.json.encode [] = "\x7b\x7d" := rfl
    rw [text]
    simp [TermsCodec.json, Json.parse, Json.readValue, Json.skipSpace, Json.isSpace]
    rfl
  have trips : chunk.RoundTrips TermsCodec.json :=
    ⟨by decide, by decide,
      fun sym mem => by simp only [chunk, List.mem_singleton] at mem; subst mem; unfold Symbol.Fits; decide, counts⟩
  have began : ∀ op ∈ [PassOp.begin "r"], op.RoundTrips TermsCodec.json := by
    intro op mem
    rw [List.mem_singleton.mp mem]
    trivial
  have batchTrips : ∀ e ∈ [(⟨chunk, none⟩ : EmbeddedChunk)], e.chunk.RoundTrips TermsCodec.json := by
    intro e mem
    rw [List.mem_singleton.mp mem]
    exact trips
  have stored : admitted (db.chunkIds "r" 1) (db.lastRowid + 1) [⟨chunk, none⟩] = [(1, ⟨chunk, none⟩)] := rfl
  exact written_chunk_loads_back TermsCodec.json 2 [.begin "r"] began "r" 1 [⟨chunk, none⟩] batchTrips 1 1
    ⟨chunk, none⟩ [1, 5] rfl (stored ▸ List.mem_singleton_self _) (by decide)

end Store

end RepoSearch
