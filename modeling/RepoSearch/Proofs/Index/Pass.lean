import RepoSearch.Index.Indexer
import RepoSearch.Proofs.Chunking.Ids
import RepoSearch.Proofs.Store.Passes
import Mathlib
/-! What an index pass does to the store, in every runtime. The task of a file stores the chunks
of the file as the walk read it, each with the vector the embedder made in time, or nothing when
the file cannot be read or is not UTF-8 text (`Indexer.entriesIn`). Taking the tasks in the order
they finish performs their inserts one after the other: a pass writes into its own generation
only (`WritesOnly`), whether it goes on or a fatal failure ends it, and a pass that commits has
written there the chunks of its files in the order the tasks finished, each whose id an earlier
chunk took left out. -/
namespace RepoSearch.Store

/-- The store `after` differs from `before` at most in generation `g` of `repo`: the same width
and records, and every other generation holding what it held. -/
structure WritesOnly (repo : String) (g : Int) (before after : ChunkStore) : Prop where
  dimensions : after.dimensions = before.dimensions
  records : ∀ name, after.record? name = before.record? name
  others : ∀ name g', (name ≠ repo ∨ g' ≠ g) → after.snapshot name g' = before.snapshot name g'

namespace WritesOnly

variable {repo : String} {g : Int} {s₁ s₂ s₃ : ChunkStore}

theorem refl (s : ChunkStore) : WritesOnly repo g s s := ⟨rfl, fun _ => rfl, fun _ _ _ => rfl⟩

theorem trans (first : WritesOnly repo g s₁ s₂) (second : WritesOnly repo g s₂ s₃) :
    WritesOnly repo g s₁ s₃ :=
  ⟨second.dimensions.trans first.dimensions, fun name => (second.records name).trans (first.records name),
    fun name g' other => (second.others name g' other).trans (first.others name g' other)⟩

theorem insert (s : ChunkStore) (es : List EmbeddedChunk) :
    WritesOnly repo g s (s.perform (.insert repo g es)) := by
  refine ⟨?_, fun _ => ChunkStore.insert_frame.1, fun _ g' other => ChunkStore.insert_frame.2 g' other⟩
  cases inserted : s.insertFileChunks repo g es with
  | error msg => rw [ChunkStore.perform_insert_error inserted]
  | ok result =>
    obtain ⟨s', n⟩ := result
    rw [ChunkStore.perform_insert_ok inserted]
    exact (ChunkStore.insertAll_frame inserted).1

end WritesOnly

end RepoSearch.Store

namespace RepoSearch.Index

open RepoSearch.Chunking RepoSearch.Embedding RepoSearch.Files RepoSearch.Source RepoSearch.Store
open RepoSearch.Text

/-- Why the task of an eligible file skips it: the file cannot be read, or is not UTF-8 text. -/
def unreadable? (rt : Runtime) (file : SourceFile) : Option IndexError :=
  match rt.readFault file.relative with
  | some reason => some (.fileUnreadable file.relative reason)
  | none =>
    match decodeUtf8 file.bytes with
    | .ok _ => none
    | .error e => some (.fileUnreadable file.relative e.message)

/-- Whether the file tasks finish in walk order, as with one worker on a single-threaded runtime. -/
def Runtime.InWalkOrder (rt : Runtime) : Prop := ∀ files, rt.finish files = files

@[simp] theorem Runtime.serial_storeFault (call : StoreCall) : Runtime.serial.storeFault call = none := rfl

@[simp] theorem Runtime.serial_taskFault (task : TaskPoint) : Runtime.serial.taskFault task = none := rfl

@[simp] theorem Runtime.serial_finish (files : List SourceFile) : Runtime.serial.finish files = files := rfl

theorem Runtime.serial_inWalkOrder : Runtime.serial.InWalkOrder := Runtime.serial_finish

namespace Indexer

variable {σ : Type} {ix ix' : Indexer σ} {rt : Runtime} {repo gitRef : String} {g : Int}

/-! ### The chunks of a file -/

/-- The chunks a file gives, each with the vector the embedder makes for it in time; a file that
is not UTF-8 gives none. -/
def fileEntries (ix : Indexer σ) (file : SourceFile) : List EmbeddedChunk :=
  match decodeUtf8 file.bytes with
  | .ok text =>
    (chunkFile (chunkingTunables ix.config.indexing) file.relative (Language.detect file.relative)
      text).map (fun c => ({ chunk := c, embedding := ix.chunkVector c } : EmbeddedChunk))
  | .error _ => []

/-- The chunks the task of a file stores: those of the file, unless it cannot be read. -/
def entriesIn (ix : Indexer σ) (rt : Runtime) (file : SourceFile) : List EmbeddedChunk :=
  match rt.readFault file.relative with
  | some _ => []
  | none => ix.fileEntries file

theorem entriesIn_serial : ix.entriesIn .serial = ix.fileEntries := rfl

/-- A chunk is stored with a vector exactly when the embedder gave, in time, a usable one as
wide as the store's. -/
theorem chunkVector_isSome_iff (c : Chunk) :
    (ix.chunkVector c).isSome ↔
      ∃ v, ix.embedder.embedWithin ix.config.embedTimeoutMs
          (truncateAtChar c.embeddingText ix.config.maxEmbedChars) = .ok v ∧
        v.length = ix.store.dimensions ∧ isUsable v = true := by
  simp only [chunkVector]
  split
  · next v made =>
    constructor
    · intro fits
      split at fits
      · next usable =>
        simp only [Bool.and_eq_true, beq_iff_eq] at usable
        exact ⟨v, made, usable⟩
      · cases fits
    · rintro ⟨v', same, wide, usable⟩
      rw [made] at same
      cases same
      simp [wide, usable]
  · next err failed =>
    simp only [Option.isSome_none, Bool.false_eq_true, false_iff, not_exists, not_and]
    intro v made
    rw [failed] at made
    cases made

theorem entriesIn_ofFile (file : SourceFile) : ∀ e ∈ ix.entriesIn rt file, e.chunk.OfFile file.relative := by
  intro e mem
  simp only [entriesIn, fileEntries] at mem
  split at mem
  · cases mem
  · split at mem
    · obtain ⟨c, cut, rfl⟩ := List.mem_map.mp mem
      exact chunkFile_ofFile _ _ _ _ c cut
    · cases mem

theorem entriesIn_ids_nodup (file : SourceFile) : ((ix.entriesIn rt file).map (·.chunk.id)).Nodup := by
  simp only [entriesIn, fileEntries]
  split
  · exact List.nodup_nil
  · split
    · simpa [List.map_map, Function.comp_def] using chunkFile_ids_nodup _ _ _ _
    · exact List.nodup_nil

theorem entriesIn_flatMap_ids_nodup (files : List SourceFile) (distinct : (files.map (·.relative)).Nodup) :
    ((files.flatMap (ix.entriesIn rt)).map (·.chunk.id)).Nodup := by
  induction files with
  | nil => exact List.nodup_nil
  | cons file rest ih =>
    rw [List.map_cons, List.nodup_cons] at distinct
    rw [List.flatMap_cons, List.map_append, List.nodup_append]
    refine ⟨entriesIn_ids_nodup file, ih distinct.2, ?_⟩
    intro a mine b later
    obtain ⟨e, own, rfl⟩ := List.mem_map.mp mine
    obtain ⟨e', other, rfl⟩ := List.mem_map.mp later
    obtain ⟨file', listed, taken⟩ := List.mem_flatMap.mp other
    have apart : file.relative ≠ file'.relative := fun same =>
      distinct.1 (same ▸ List.mem_map_of_mem listed)
    exact (entriesIn_ofFile file e own).id_ne (entriesIn_ofFile file' e' taken) apart

theorem fileEntries_congr (config : ix'.config = ix.config) (embedder : ix'.embedder = ix.embedder)
    (dims : ix'.store.dimensions = ix.store.dimensions) : ix'.fileEntries = ix.fileEntries := by
  funext file
  simp [fileEntries, chunkVector, config, embedder, dims]

theorem entriesIn_store {s : ChunkStore} (same : s.dimensions = ix.store.dimensions) :
    ({ ix with store := s } : Indexer σ).entriesIn rt = ix.entriesIn rt := by
  have entries : ({ ix with store := s } : Indexer σ).fileEntries = ix.fileEntries :=
    fileEntries_congr rfl rfl same
  funext file
  simp only [entriesIn, entries]


/-! ### The file tasks -/

/-- A file task that succeeds: nothing failed, the file is UTF-8 text, and its chunks, each with
its vector, went into one insert that wrote `outcome.written` rows, `outcome.withoutEmbedding` of
the chunks lacking a vector. A file without chunks writes nothing and changes nothing. -/
theorem indexFile_eq_ok {file : SourceFile} {ix₁ : Indexer σ} {outcome : FileOutcome}
    (h : ix.indexFile rt repo g file = .ok (ix₁, outcome)) :
    unreadable? rt file = none ∧ ix₁ = { ix with store := ix₁.store } ∧
      ix.store.insertFileChunks repo g (ix.entriesIn rt file) = .ok (ix₁.store, outcome.written) ∧
      outcome.withoutEmbedding = ((ix.entriesIn rt file).filter (·.embedding.isNone)).length := by
  simp only [indexFile] at h
  split at h
  · cases h
  · split at h
    · cases h
    · next unread =>
      split at h
      · cases h
      · next text decoded =>
        have readable : unreadable? rt file = none := by simp [unreadable?, unread, decoded]
        have entries : ix.entriesIn rt file =
            (chunkFile (chunkingTunables ix.config.indexing) file.relative
              (Language.detect file.relative) text).map
              (fun c => ({ chunk := c, embedding := ix.chunkVector c } : EmbeddedChunk)) := by
          simp [entriesIn, unread, fileEntries, decoded]
        split at h
        · next empty =>
          cases h
          have none : ix.entriesIn rt file = [] := by
            rw [entries, List.map_eq_nil_iff]
            exact List.isEmpty_iff.mp empty
          exact ⟨readable, rfl, by rw [none]; rfl, by rw [none]; rfl⟩
        · split at h
          · cases h
          · split at h
            · cases h
            · next store written inserted =>
              cases h
              exact ⟨readable, rfl, by rw [entries]; exact inserted, by rw [entries]⟩

/-- A file task fails without ending the pass only when the file cannot be read or is not UTF-8
text; the failure says so under the file's path, and the task stores nothing. -/
theorem indexFile_eq_error {file : SourceFile} {e : IndexError}
    (h : ix.indexFile rt repo g file = .error e) (minor : e.isFatal = false) :
    unreadable? rt file = some e ∧ ix.entriesIn rt file = [] := by
  simp only [indexFile] at h
  split at h
  · cases h
    simp [IndexError.isFatal] at minor
  · split at h
    · next reason unread =>
      cases h
      exact ⟨by simp [unreadable?, unread], by simp [entriesIn, unread]⟩
    · next unread =>
      split at h
      · next err decoded =>
        cases h
        exact ⟨by simp [unreadable?, unread, decoded], by simp [entriesIn, unread, fileEntries, decoded]⟩
      · split at h
        · cases h
        · split at h
          · cases h
            simp [IndexError.isFatal] at minor
          · split at h
            · cases h
              simp [IndexError.isFatal] at minor
            · cases h

/-- Taking a file task into a pass performs the insert of the chunks the task stores, and that
insert succeeds. -/
theorem finishFile_inserted {file : SourceFile} {report report' : IndexReport}
    (h : ix.finishFile rt repo g report file = .ok (ix', report')) :
    ix' = { ix with store := ix'.store } ∧
      ∃ n, ix.store.insertFileChunks repo g (ix.entriesIn rt file) = .ok (ix'.store, n) := by
  simp only [finishFile] at h
  split at h
  · next ix₁ outcome written =>
    cases h
    obtain ⟨-, same, inserted, -⟩ := indexFile_eq_ok written
    exact ⟨same, _, inserted⟩
  · next e failed =>
    split at h
    · cases h
    · next minor =>
      cases h
      rw [(indexFile_eq_error failed (Bool.eq_false_iff.mpr minor)).2]
      exact ⟨rfl, 0, rfl⟩

theorem finishFile_store {file : SourceFile} {report report' : IndexReport}
    (h : ix.finishFile rt repo g report file = .ok (ix', report')) :
    ix' = { ix with store := ix.store.perform (.insert repo g (ix.entriesIn rt file)) } := by
  obtain ⟨same, n, inserted⟩ := finishFile_inserted h
  rw [ChunkStore.perform_insert_ok inserted]
  exact same

theorem runFiles_frame (rt : Runtime) (repo : String) (g : Int) (ix : Indexer σ) (report : IndexReport)
    (files : List SourceFile) :
    (runFiles rt repo g ix report files).1 = { ix with store := (runFiles rt repo g ix report files).1.store } ∧
      WritesOnly repo g ix.store (runFiles rt repo g ix report files).1.store := by
  induction files generalizing ix report with
  | nil => exact ⟨rfl, .refl _⟩
  | cons file rest ih =>
    simp only [runFiles]
    split
    · next ix₁ report₁ finished =>
      obtain rfl := finishFile_store finished
      obtain ⟨same, writes⟩ := ih _ report₁
      exact ⟨same, (WritesOnly.insert _ _).trans writes⟩
    · exact ⟨rfl, .refl _⟩

theorem runFiles_eq {files : List SourceFile} {report : IndexReport} {result : Except IndexError IndexReport}
    (h : runFiles rt repo g ix report files = (ix', result)) :
    ix' = { ix with store := ix'.store } ∧ WritesOnly repo g ix.store ix'.store := by
  have frame := runFiles_frame rt repo g ix report files
  rw [h] at frame
  exact frame

theorem runFiles_ok {files : List SourceFile} {report report' : IndexReport}
    (h : runFiles rt repo g ix report files = (ix', .ok report')) :
    (ix'.store.snapshot repo g).map StoredChunk.entry =
      (ix.store.snapshot repo g).map StoredChunk.entry ++
        freshChunks ((ix.store.snapshot repo g).map (·.chunk.id)) (files.flatMap (ix.entriesIn rt)) := by
  induction files generalizing ix report with
  | nil =>
    cases h
    simp [freshChunks]
  | cons file rest ih =>
    simp only [runFiles] at h
    split at h
    · next ix₁ report₁ finished =>
      obtain ⟨same, n, inserted⟩ := finishFile_inserted finished
      have rows₁ := ChunkStore.insertAll_snapshot inserted
      have entries : ix₁.entriesIn rt = ix.entriesIn rt := by
        rw [same]
        exact entriesIn_store (ChunkStore.insertAll_frame inserted).1
      -- the rest is checked against the ids held before and those this file wrote
      have held : (ix₁.store.snapshot repo g).map (·.chunk.id) =
          (ix.store.snapshot repo g).map (·.chunk.id) ++
            (freshChunks ((ix.store.snapshot repo g).map (·.chunk.id)) (ix.entriesIn rt file)).map
              (·.chunk.id) := by
        have ids := congrArg (List.map (·.chunk.id)) rows₁
        simpa [List.map_map, Function.comp_def, StoredChunk.entry] using ids
      rw [ih h, rows₁, entries, held, List.flatMap_cons, freshChunks_append, List.append_assoc]
    · cases h

/-! ### Asking the provider -/

variable [SourceProvider σ]

theorem callSource_fst {α : Type} (delay : Nat) (call : σ → σ × Except SourceError α) :
    (ix.callSource repo gitRef delay call).1 =
      { ix with source := SourceProvider.wait (call ix.source).1 (min delay ix.config.fetchTimeoutMs) } := by
  simp only [callSource]
  split
  · rfl
  · split <;> rfl

theorem eq_of_callSource {α : Type} {delay : Nat} {call : σ → σ × Except SourceError α}
    {ix₁ : Indexer σ} {result : Except IndexError α} (h : ix.callSource repo gitRef delay call = (ix₁, result)) :
    ix₁ = { ix with source := SourceProvider.wait (call ix.source).1 (min delay ix.config.fetchTimeoutMs) } :=
  (congrArg Prod.fst h).symm.trans (callSource_fst delay call)

theorem store_of_callSource {α : Type} {delay : Nat} {call : σ → σ × Except SourceError α}
    {ix₁ : Indexer σ} {result : Except IndexError α}
    (h : ix.callSource repo gitRef delay call = (ix₁, result)) : ix₁.store = ix.store := by
  rw [eq_of_callSource h]

theorem callSource_ok {α : Type} {delay : Nat} {call : σ → σ × Except SourceError α}
    {ix₁ : Indexer σ} {v : α} (h : ix.callSource repo gitRef delay call = (ix₁, .ok v)) :
    ix₁ = { ix with source := SourceProvider.wait (call ix.source).1 (min delay ix.config.fetchTimeoutMs) } ∧
      (call ix.source).2 = .ok v := by
  refine ⟨eq_of_callSource h, ?_⟩
  simp only [callSource] at h
  split at h
  · cases h
  · split at h
    · next v' answered =>
      cases h
      exact answered
    · cases h

theorem callSource_deadline {α : Type} {delay : Nat} {call : σ → σ × Except SourceError α}
    {ix₁ : Indexer σ} {v : α} (h : ix.callSource repo gitRef delay call = (ix₁, .ok v)) :
    delay < ix.config.fetchTimeoutMs := by
  simp only [callSource] at h
  split at h
  · cases h
  · omega

theorem needsUpdate_store : (ix.needsUpdate repo gitRef).1.store = ix.store := by
  simp only [needsUpdate]
  split
  · rfl
  · simp only [movedFrom]
    split <;> next asked => exact store_of_callSource asked

/-! ### The snapshot -/


/-- A snapshot that commits took its files' tasks in the order they finished, starting from the
report the walk opens, and committed the generation; its report counts the rows committed. -/
theorem writeSnapshot_eq_ok {checkout : Checkout} {report : IndexReport}
    (fetched : (SourceProvider.fetchTree ix.source repo gitRef).2 = .ok checkout)
    (h : (ix.writeSnapshot rt repo gitRef g).2 = .ok report) :
    ∃ (source : σ) (ix₂ : Indexer σ) (report₂ : IndexReport),
      runFiles rt repo g { ix with source }
          (openReport repo gitRef g checkout.commit (ix.filter.scan checkout.tree checkout.versioned))
          (rt.finish (ix.filter.scan checkout.tree checkout.versioned).files) = (ix₂, .ok report₂) ∧
        (ix.writeSnapshot rt repo gitRef g).1.store = (ix₂.store.commitSnapshot repo g checkout.commit).1 ∧
        report = { report₂ with chunksCreated := (ix₂.store.snapshot repo g).length } := by
  rcases called : ix.callSource repo gitRef (SourceProvider.fetchDelay ix.source)
      (fun s => SourceProvider.fetchTree s repo gitRef) with ⟨ix₁, _ | checkout'⟩
  · simp only [writeSnapshot, called] at h
    cases h
  · obtain ⟨rfl, answered⟩ := callSource_ok called
    rw [fetched] at answered
    cases answered
    simp only [writeSnapshot, called] at h ⊢
    split at h
    · cases h
    · split at h
      · cases h
      · next ix₂ report₂ written =>
        split at h
        · cases h
        · cases h
          exact ⟨_, ix₂, report₂, written, rfl, rfl⟩

/-- A snapshot that commits writes the tree's files into the generation in the order their tasks
finished, then commits it. -/
theorem writeSnapshot_ok {checkout : Checkout} {report : IndexReport}
    (fetched : (SourceProvider.fetchTree ix.source repo gitRef).2 = .ok checkout)
    (h : (ix.writeSnapshot rt repo gitRef g).2 = .ok report) :
    ∃ written : ChunkStore,
      (ix.writeSnapshot rt repo gitRef g).1.store = (written.commitSnapshot repo g checkout.commit).1 ∧
      (∀ name, written.record? name = ix.store.record? name) ∧
      (written.snapshot repo g).map StoredChunk.entry =
        (ix.store.snapshot repo g).map StoredChunk.entry ++
          freshChunks ((ix.store.snapshot repo g).map (·.chunk.id))
            ((rt.finish (ix.filter.scan checkout.tree checkout.versioned).files).flatMap (ix.entriesIn rt)) := by
  obtain ⟨source, ix₂, report₂, written, stored, -⟩ := writeSnapshot_eq_ok fetched h
  have rows := runFiles_ok written
  exact ⟨ix₂.store, stored, (runFiles_eq written).2.records, rows⟩

theorem writeSnapshot_error {e : IndexError} (h : ix.writeSnapshot rt repo gitRef g = (ix', .error e)) :
    WritesOnly repo g ix.store ix'.store := by
  simp only [writeSnapshot] at h
  split at h
  · next fetched =>
    cases h
    rw [store_of_callSource fetched]
    exact .refl _
  · next ix₁ checkout fetched =>
    have kept := store_of_callSource fetched
    split at h
    · cases h
      rw [kept]
      exact .refl _
    · split at h
      · next ix₂ e' written =>
        cases h
        rw [← kept]
        exact (runFiles_eq written).2
      · next ix₂ report written =>
        split at h
        · cases h
          rw [← kept]
          exact (runFiles_eq written).2
        · cases h

theorem writeSnapshot_source :
    (ix.writeSnapshot rt repo gitRef g).1.source =
      (ix.callSource repo gitRef (SourceProvider.fetchDelay ix.source)
        (fun s => SourceProvider.fetchTree s repo gitRef)).1.source := by
  simp only [writeSnapshot]
  split
  · next ix₁ e fetched => rw [fetched]
  · next ix₁ checkout fetched =>
    rw [fetched]
    split
    · rfl
    · split
      · next ix₂ e written =>
        have same := congrArg Indexer.source (runFiles_eq written).1
        exact same
      · next ix₂ report written =>
        have same := congrArg Indexer.source (runFiles_eq written).1
        split
        · exact same
        · exact same

theorem writeSnapshot_config : (ix.writeSnapshot rt repo gitRef g).1.config = ix.config := by
  simp only [writeSnapshot]
  split
  · next ix₁ e fetched => rw [eq_of_callSource fetched]
  · next ix₁ checkout fetched =>
    have same : ix₁.config = ix.config := by rw [eq_of_callSource fetched]
    split
    · exact same
    · split
      · next ix₂ e written => exact (congrArg Indexer.config (runFiles_eq written).1).trans same
      · next ix₂ report written =>
        have ran := (congrArg Indexer.config (runFiles_eq written).1).trans same
        split
        · exact ran
        · exact ran

/-! ### The pass -/

/-- The indexer a pass starts from: the store with the pass begun. -/
abbrev begun (ix : Indexer σ) (repo : String) : Indexer σ :=
  { ix with store := (ix.store.beginPass repo).1 }

theorem runPass_of_ok {report : IndexReport} (h : (ix.runPass rt repo gitRef).2 = .ok report) :
    rt.storeFault .beginPass = none ∧
      ix.runPass rt repo gitRef = (ix.begun repo).writeSnapshot rt repo gitRef (ix.store.beginPass repo).2 := by
  simp only [runPass] at h ⊢
  split at h
  · cases h
  · next began =>
    rw [began]
    split at h
    · next ix₁ report₁ written => exact ⟨rfl, by rw [written]⟩
    · cases h

/-- A pass that fails either could not begin, and changed nothing, or began and failed in its
snapshot, and then records the failure. -/
theorem runPass_error {e : IndexError} (h : ix.runPass rt repo gitRef = (ix', .error e)) :
    (∃ msg, rt.storeFault .beginPass = some msg ∧ e = .storage msg ∧ ix' = ix) ∨
      (rt.storeFault .beginPass = none ∧ ∃ ix₂ : Indexer σ,
        (ix.begun repo).writeSnapshot rt repo gitRef (ix.store.beginPass repo).2 = (ix₂, .error e) ∧
          ix' = ix₂.failPass rt repo (ix.store.beginPass repo).2 e) := by
  simp only [runPass] at h
  split at h
  · next msg began =>
    cases h
    exact .inl ⟨msg, began, rfl, rfl⟩
  · next began =>
    split at h
    · cases h
    · next ix₂ e' written =>
      cases h
      exact .inr ⟨began, ix₂, written, rfl⟩

theorem runPass_ok_fetched {report : IndexReport} (h : (ix.runPass rt repo gitRef).2 = .ok report) :
    ∃ checkout, (SourceProvider.fetchTree ix.source repo gitRef).2 = .ok checkout ∧
      SourceProvider.fetchDelay ix.source < ix.config.fetchTimeoutMs := by
  obtain ⟨-, pass⟩ := runPass_of_ok h
  rw [pass] at h
  simp only [writeSnapshot] at h
  split at h
  · cases h
  · next ix₂ checkout fetched =>
    have deadline := callSource_deadline fetched
    exact ⟨checkout, (callSource_ok fetched).2, deadline⟩

/-- A pass that commits starts the next generation, writes the fetched tree's files into it in
the order their tasks finished, and commits it: the generation holds the chunks the tasks stored,
each whose id an earlier chunk took left out. -/
theorem runPass_ok {checkout : Checkout} {report : IndexReport}
    (fetched : (SourceProvider.fetchTree ix.source repo gitRef).2 = .ok checkout)
    (h : (ix.runPass rt repo gitRef).2 = .ok report) :
    ∃ written : ChunkStore,
      (ix.runPass rt repo gitRef).1.store =
        (written.commitSnapshot repo (ix.store.generation repo + 1) checkout.commit).1 ∧
      written.record? repo = some { ix.store.recordOf repo with state := .indexing, lastError := none } ∧
      (written.snapshot repo (ix.store.generation repo + 1)).map StoredChunk.entry =
        freshChunks []
          ((rt.finish (ix.filter.scan checkout.tree checkout.versioned).files).flatMap (ix.entriesIn rt)) := by
  obtain ⟨-, pass⟩ := runPass_of_ok h
  have next : (ix.store.beginPass repo).2 = ix.store.generation repo + 1 := ChunkStore.snd_beginPass
  -- the pass writes a generation that starting it has emptied
  have empty : (ix.begun repo).store.snapshot repo (ix.store.generation repo + 1) = [] := by
    have fresh : ix.store.generation repo + 1 ≠ ix.store.generation repo := by omega
    simp [ChunkStore.snapshot_beginPass, fresh]
  have entries : (ix.begun repo).entriesIn rt = ix.entriesIn rt := entriesIn_store ChunkStore.dimensions_beginPass
  rw [pass, next] at h ⊢
  have fetchedBegun : (SourceProvider.fetchTree (ix.begun repo).source repo gitRef).2 = .ok checkout :=
    fetched
  obtain ⟨written, stored, records, rows⟩ := writeSnapshot_ok fetchedBegun h
  refine ⟨written, stored, ?_, ?_⟩
  · simp [records repo, ChunkStore.record?_beginPass]
  · rw [rows, empty, entries]
    rfl

theorem runPass_source (began : rt.storeFault .beginPass = none) :
    (ix.runPass rt repo gitRef).1.source =
      SourceProvider.wait (SourceProvider.fetchTree ix.source repo gitRef).1
        (min (SourceProvider.fetchDelay ix.source) ix.config.fetchTimeoutMs) := by
  have snapshot : ((ix.begun repo).writeSnapshot rt repo gitRef (ix.store.beginPass repo).2).1.source =
      SourceProvider.wait (SourceProvider.fetchTree ix.source repo gitRef).1
        (min (SourceProvider.fetchDelay ix.source) ix.config.fetchTimeoutMs) := by
    rw [writeSnapshot_source, callSource_fst]
  simp only [runPass, began]
  split
  · next ix₁ report written => rw [← snapshot, written]
  · next ix₁ e written =>
    rw [← snapshot, written]
    simp only [failPass]
    split <;> rfl

theorem runPass_config : (ix.runPass rt repo gitRef).1.config = ix.config := by
  have snapshot : ((ix.begun repo).writeSnapshot rt repo gitRef (ix.store.beginPass repo).2).1.config =
      (ix.begun repo).config := writeSnapshot_config
  simp only [runPass]
  split
  · rfl
  · split
    · next ix₁ report written => rw [← snapshot, written]
    · next ix₁ e written =>
      rw [← snapshot, written]
      simp only [failPass]
      split <;> rfl

theorem ensureIndexed_of_needsUpdate {stale : Bool} (asked : ix.needsUpdate repo gitRef = (ix', stale)) :
    ix.ensureIndexed repo gitRef =
      if stale then Prod.map id (Except.map some) (ix'.runPass .serial repo gitRef) else (ix', .ok none) := by
  cases stale with
  | false => simp only [ensureIndexed, ensureIndexedIn, Runtime.serial_storeFault, asked, if_neg Bool.false_ne_true]
  | true =>
    rcases passed : ix'.runPass .serial repo gitRef with ⟨ix₁, e | report₁⟩ <;>
      simp only [ensureIndexed, ensureIndexedIn, Runtime.serial_storeFault, asked, passed, if_pos] <;> rfl

end Indexer

end RepoSearch.Index
