import RepoSearch.Proofs.Index.Freshness
/-! The report of an index pass that commits. The walk opens it: every eligible file and every
oversized one counts as scanned, and each oversized one as skipped, with its reason. Each eligible
file is then either indexed, adding the rows its insert wrote and the chunks it embedded without
a vector, or, when it is not UTF-8 text, skipped with its reason. Committing sets the count of
chunks created to the rows the generation holds. So the files scanned are those indexed and those
skipped, the errors are the reasons of the skipped files in walk order, one each, and the chunks
created are the committed rows, which the record and the statistics count too.

The chunks without a vector are counted before the insert, over every chunk of the walked files,
while the store keeps a chunk only when its id is new to the generation. When the walk reports
two files under one path their chunks share ids, and the report counts a missing vector for a
chunk the store left out. When the reported paths are distinct the count is that of the committed
rows without a vector, and the chunks created are the files' chunks added up.

Main statement: `pass_report_counts_agree`; `backslash_twin_counts_missing_vector_twice` is the
pass whose report counts more chunks without a vector than its snapshot holds. -/
namespace RepoSearch.Store.ChunkStore

theorem stats?_of_record? {s : ChunkStore} {repo : String} {r : RepositoryRecord}
    (found : s.record? repo = some r) (positive : 0 < r.currentGeneration) :
    ∃ stats, s.stats? repo = some stats ∧
      stats.totalChunks = (s.snapshot repo r.currentGeneration).length ∧
      stats.chunksWithEmbedding =
        ((s.snapshot repo r.currentGeneration).filter StoredChunk.hasEmbedding).length := by
  simp [stats?, found, RepositoryRecord.hasSnapshot, positive]

end RepoSearch.Store.ChunkStore

namespace RepoSearch.Index

open RepoSearch.Files RepoSearch.Source RepoSearch.Store RepoSearch.Text

theorem rows_without_embedding {rows : List StoredChunk} {entries : List EmbeddedChunk}
    (written : rows.map StoredChunk.entry = entries) :
    (rows.filter (!·.hasEmbedding)).length = (entries.filter (·.embedding.isNone)).length := by
  have lacks : ((·.embedding.isNone) ∘ StoredChunk.entry) = fun r : StoredChunk => !r.hasEmbedding := by
    funext r
    simp [StoredChunk.entry, StoredChunk.hasEmbedding]
  rw [← written, List.filter_map, List.length_map, lacks]

/-- The counters of the report of a pass over the walk `scan` whose file tasks finished in the
order `files`, storing the chunks `entries`, and whose generation holds the rows `rows` when
committed: the files scanned are those indexed and those skipped; the errors are the reasons of
the oversized files and then, in the order the tasks finished, of the files that could not be
read or are not UTF-8 text, one for each skipped file; the chunks created are the rows; and the
chunks without a vector are counted over the entries. -/
structure Counted (rt : Runtime) (scan : FileScan) (files : List SourceFile) (entries : List EmbeddedChunk)
    (rows : List StoredChunk) (report : IndexReport) : Prop where
  scanned : report.filesScanned = report.filesIndexed + report.filesSkipped
  reasons : report.errors = (scan.skipped ++ files.filterMap (unreadable? rt)).map IndexError.message
  one_each : report.errors.length = report.filesSkipped
  created : report.chunksCreated = rows.length
  without : report.chunksWithoutEmbedding = (entries.filter (·.embedding.isNone)).length

/-- What taking the file tasks of `files` into a pass adds to its report, where `entries` gives
the chunks each task stores: each file is indexed, with the chunks it embedded without a vector,
or skipped with its reason. -/
structure Tallied (entries : SourceFile → List EmbeddedChunk) (rt : Runtime) (files : List SourceFile)
    (report report' : IndexReport) : Prop where
  scanned : report'.filesScanned = report.filesScanned
  handled : report'.filesIndexed + report'.filesSkipped =
    report.filesIndexed + report.filesSkipped + files.length
  skipped : report'.filesSkipped = report.filesSkipped + (files.filterMap (unreadable? rt)).length
  errors : report'.errors = report.errors ++ (files.filterMap (unreadable? rt)).map IndexError.message
  without : report'.chunksWithoutEmbedding = report.chunksWithoutEmbedding +
    ((files.flatMap entries).filter (·.embedding.isNone)).length

namespace Tallied

variable {entries : SourceFile → List EmbeddedChunk} {rt : Runtime} {report₁ report₂ report₃ : IndexReport}

theorem nil (report : IndexReport) : Tallied entries rt [] report report :=
  ⟨rfl, rfl, rfl, by simp, by simp⟩

theorem cons {file : SourceFile} {files : List SourceFile}
    (first : Tallied entries rt [file] report₁ report₂) (rest : Tallied entries rt files report₂ report₃) :
    Tallied entries rt (file :: files) report₁ report₃ := by
  have split : file :: files = [file] ++ files := rfl
  refine ⟨rest.scanned.trans first.scanned, ?_, ?_, ?_, ?_⟩
  · have := first.handled
    have := rest.handled
    simp only [List.length_cons, List.length_nil] at *
    omega
  · rw [rest.skipped, first.skipped, split, List.filterMap_append, List.length_append]
    omega
  · rw [rest.errors, first.errors, split, List.filterMap_append, List.map_append, List.append_assoc]
  · rw [rest.without, first.without, split, List.flatMap_append, List.filter_append, List.length_append]
    omega

end Tallied

namespace Indexer

variable {σ : Type} {ix ix₁ ix' : Indexer σ} {rt : Runtime} {repo gitRef : String} {g : Int}

theorem finishFile_tallied {file : SourceFile} {report report₁ : IndexReport}
    (h : ix.finishFile rt repo g report file = .ok (ix₁, report₁)) :
    Tallied (ix.entriesIn rt) rt [file] report report₁ := by
  simp only [finishFile] at h
  split at h
  · next ix₂ outcome written =>
    cases h
    obtain ⟨readable, -, -, missing⟩ := indexFile_eq_ok written
    refine ⟨rfl, ?_, ?_, ?_, ?_⟩
    · simp only [List.length_singleton]
      omega
    · simp [readable]
    · simp [readable]
    · simp [missing]
  · next e failed =>
    split at h
    · cases h
    · next minor =>
      cases h
      obtain ⟨reason, none⟩ := indexFile_eq_error failed (Bool.eq_false_iff.mpr minor)
      refine ⟨rfl, ?_, ?_, ?_, ?_⟩
      · simp only [List.length_singleton]
        omega
      · simp [reason]
      · simp [reason]
      · simp [none]

theorem finishFile_entriesIn {file : SourceFile} {report report₁ : IndexReport}
    (h : ix.finishFile rt repo g report file = .ok (ix₁, report₁)) : ix₁.entriesIn rt = ix.entriesIn rt := by
  obtain ⟨same, n, inserted⟩ := finishFile_inserted h
  rw [same]
  exact entriesIn_store (ChunkStore.insertAll_frame inserted).1

theorem runFiles_tallied {files : List SourceFile} {report report' : IndexReport}
    (h : runFiles rt repo g ix report files = (ix', .ok report')) :
    Tallied (ix.entriesIn rt) rt files report report' := by
  induction files generalizing ix report with
  | nil =>
    cases h
    exact .nil _
  | cons file rest ih =>
    simp only [runFiles] at h
    split at h
    · next ix₁ report₁ finished =>
      have rest := ih h
      rw [finishFile_entriesIn finished] at rest
      exact (finishFile_tallied finished).cons rest
    · cases h

variable [SourceProvider σ]

theorem writeSnapshot_counted {checkout : Checkout} {report : IndexReport}
    (fetched : (SourceProvider.fetchTree ix.source repo gitRef).2 = .ok checkout)
    (h : (ix.writeSnapshot rt repo gitRef g).2 = .ok report) :
    Counted rt (ix.filter.scan checkout.tree checkout.versioned)
      (rt.finish (ix.filter.scan checkout.tree checkout.versioned).files)
      ((rt.finish (ix.filter.scan checkout.tree checkout.versioned).files).flatMap (ix.entriesIn rt))
      ((ix.writeSnapshot rt repo gitRef g).1.store.snapshot repo g) report := by
  obtain ⟨source, ix₂, report₂, written, stored, rfl⟩ := writeSnapshot_eq_ok fetched h
  obtain ⟨scanned, handled, skipped, errors, without⟩ := runFiles_tallied written
  simp only [openReport] at scanned handled skipped errors without
  have finished := (rt.finish_perm (ix.filter.scan checkout.tree checkout.versioned).files).length_eq
  refine ⟨?_, ?_, ?_, ?_, ?_⟩
  · simp only
    omega
  · simp only [errors, List.map_append]
  · simp only [errors, skipped, List.length_append, List.length_map]
  · simp [stored, ChunkStore.snapshot_commitSnapshot]
  · rw [Nat.zero_add] at without
    exact without

theorem runPass_counted {checkout : Checkout} {report : IndexReport}
    (fetched : (SourceProvider.fetchTree ix.source repo gitRef).2 = .ok checkout)
    (h : (ix.runPass rt repo gitRef).2 = .ok report) :
    Counted rt (ix.filter.scan checkout.tree checkout.versioned)
      (rt.finish (ix.filter.scan checkout.tree checkout.versioned).files)
      ((rt.finish (ix.filter.scan checkout.tree checkout.versioned).files).flatMap (ix.entriesIn rt))
      ((ix.runPass rt repo gitRef).1.store.snapshot repo (ix.store.generation repo + 1)) report := by
  obtain ⟨-, pass⟩ := runPass_of_ok h
  rw [ChunkStore.snd_beginPass] at pass
  have wrote : ((ix.begun repo).writeSnapshot rt repo gitRef (ix.store.generation repo + 1)).2 =
      .ok report := by
    rw [← pass]
    exact h
  have entries : (ix.begun repo).entriesIn rt = ix.entriesIn rt :=
    entriesIn_store ChunkStore.dimensions_beginPass
  have fetchedBegun : (SourceProvider.fetchTree (ix.begun repo).source repo gitRef).2 = .ok checkout :=
    fetched
  have counted := writeSnapshot_counted fetchedBegun wrote
  rw [entries, ← pass] at counted
  exact counted

end Indexer

/-- The counters of a pass in the runtime `rt` that commits, for the tree `checkout` it fetched,
agree with each other and with the store `after` it leaves: the files scanned are those indexed
and those skipped; the errors are the reasons of the oversized files and then, in the order the
file tasks finished, of the files that could not be read or are not UTF-8 text, one for each
skipped file, so in walk order when the tasks finish in walk order and in any order the same
reasons; the chunks created are the committed rows, which the record and the statistics count,
and the files' stored chunks added up; and the chunks without a vector are the committed rows
without one, as many as the statistics count less those with one. -/
structure ReportAgrees {σ : Type} (ix : Indexer σ) (rt : Runtime) (repo : String) (checkout : Checkout)
    (after : ChunkStore) (report : IndexReport) : Prop where
  files_scanned : report.filesScanned = report.filesIndexed + report.filesSkipped
  one_error_per_skip : report.errors.length = report.filesSkipped
  errors_in_finish_order : report.errors =
    ((ix.filter.scan checkout.tree checkout.versioned).skipped ++
      (rt.finish (ix.filter.scan checkout.tree checkout.versioned).files).filterMap (unreadable? rt)).map
      IndexError.message
  errors_in_walk_order : rt.InWalkOrder → report.errors =
    ((ix.filter.scan checkout.tree checkout.versioned).skipped ++
      (ix.filter.scan checkout.tree checkout.versioned).files.filterMap (unreadable? rt)).map
      IndexError.message
  errors_give_reasons : report.errors.Perm
    (((ix.filter.scan checkout.tree checkout.versioned).skipped ++
      (ix.filter.scan checkout.tree checkout.versioned).files.filterMap (unreadable? rt)).map
      IndexError.message)
  chunks_committed : report.chunksCreated = (after.snapshot repo (after.generation repo)).length
  chunks_recorded : report.chunksCreated = (after.recordOf repo).totalChunks
  chunks_of_files : report.chunksCreated =
    ((ix.filter.scan checkout.tree checkout.versioned).files.map fun f => (ix.entriesIn rt f).length).sum
  stats_agree : ∃ stats, after.stats? repo = some stats ∧ report.chunksCreated = stats.totalChunks ∧
    report.chunksWithoutEmbedding = stats.totalChunks - stats.chunksWithEmbedding
  without_embedding : report.chunksWithoutEmbedding =
    ((after.snapshot repo (after.generation repo)).filter (!·.hasEmbedding)).length

theorem pass_report_counts_agree {σ : Type} [SourceProvider σ] (ix : Indexer σ) (rt : Runtime)
    (repo gitRef : String) (checkout : Checkout) (report : IndexReport)
    (fetched : (SourceProvider.fetchTree ix.source repo gitRef).2 = .ok checkout)
    (distinct : ((ix.filter.scan checkout.tree checkout.versioned).files.map (·.relative)).Nodup)
    (settled : 0 ≤ ix.store.generation repo)
    (ok : (ix.indexIn rt repo gitRef).2 = .ok report) :
    ReportAgrees ix rt repo checkout (ix.indexIn rt repo gitRef).1.store report := by
  obtain ⟨scanned, reasons, one_each, created, without⟩ := Indexer.runPass_counted fetched ok
  obtain ⟨written, stored, record, rows⟩ := Indexer.runPass_ok fetched ok
  let g := ix.store.generation repo + 1
  let files := (ix.filter.scan checkout.tree checkout.versioned).files
  let entries := (rt.finish files).flatMap (ix.entriesIn rt)
  have committed : (ix.runPass rt repo gitRef).1.store = written.perform (.commit repo g checkout.commit) :=
    stored
  obtain ⟨r, found, moved, recorded⟩ : ∃ r : RepositoryRecord,
      (written.perform (.commit repo g checkout.commit)).record? repo = some r ∧
        r.currentGeneration = g ∧ r.totalChunks = (written.snapshot repo g).length := by
    simp [ChunkStore.perform, ChunkStore.record?_commitSnapshot, record]
  have current : (written.perform (.commit repo g checkout.commit)).generation repo = g := by
    rw [ChunkStore.generation_of_record? found, moved]
  have kept : (written.perform (.commit repo g checkout.commit)).snapshot repo g =
      written.snapshot repo g := by
    rw [ChunkStore.snapshot_perform_commit, if_neg (by simp)]
  -- distinct paths give distinct ids, in any order the tasks finish, so every stored chunk is a row
  have whole : (written.snapshot repo g).map StoredChunk.entry = entries := by
    rw [rows, ix.freshChunks_finished rt distinct]
  have count : (written.snapshot repo g).length = (files.flatMap (ix.entriesIn rt)).length := by
    have rowsCount := congrArg List.length whole
    rw [List.length_map] at rowsCount
    rw [rowsCount]
    exact ((rt.finish_perm files).flatMap_right (ix.entriesIn rt)).length_eq
  -- the reasons of the files, in the order their tasks finished, are those in walk order rearranged
  have rearranged : ((rt.finish files).filterMap (unreadable? rt)).Perm (files.filterMap (unreadable? rt)) :=
    (rt.finish_perm files).filterMap _
  obtain ⟨stats, listed, total, embedded⟩ :=
    ChunkStore.stats?_of_record? found (show 0 < r.currentGeneration by omega)
  have split := List.length_eq_length_filter_add StoredChunk.hasEmbedding (l := written.snapshot repo g)
  have missing := rows_without_embedding whole
  rw [committed, kept] at created
  show ReportAgrees ix rt repo checkout (ix.runPass rt repo gitRef).1.store report
  rw [committed]
  refine ⟨scanned, one_each, reasons, fun walk => ?_, ?_, ?_, ?_, ?_, ⟨stats, listed, ?_, ?_⟩, ?_⟩
  · rw [reasons]
    show List.map _ (_ ++ List.filterMap _ (rt.finish files)) = _
    rw [walk files]
  · rw [reasons]
    exact ((List.Perm.refl _).append rearranged).map _
  · rw [current, kept, created]
  · rw [ChunkStore.recordOf_of_record? found, recorded, created]
  · rw [created, count, List.length_flatMap]
  · rw [created, total, moved, kept]
  · rw [total, embedded, moved, kept, without, ← missing]
    omega
  · rw [current, kept, without, missing]

set_option maxRecDepth 20000 in
/-- Four files whose tasks finish in reverse walk order, one of them not UTF-8 and one the
runtime cannot read: the report counts two files indexed and two skipped, with their reasons in
the order the tasks finished, and agrees with the snapshot. -/
theorem reversed_tasks_report_agrees :
    let tree : FileTree := ⟨[("a", [120, 10]), ("b", [121, 10]), ("c", [255, 10]), ("d", [122, 10])]⟩
    let ix : Indexer MockSource :=
      { store := ChunkStore.empty 4,
        source := { repositories := [{ name := "acme/site", root := "r", commit := "c1", tree }] },
        embedder := .offline 4, config := {}, filter := { extensions := [], manifests := ["a", "b", "c", "d"], excludedDirs := [], maxFileBytes := 1024 } }
    let rt : Runtime := ⟨List.reverse, List.reverse_perm, fun _ => none,
      fun path => if path = "d" then some "Permission denied (os error 13)" else none, fun _ => none⟩
    ReportAgrees ix rt "acme/site" ⟨"r", "c1", tree, false⟩ (ix.indexIn rt "acme/site" "main").1.store
      ⟨"acme/site", "main", "c1", 1, 4, 2, 2, 2, 2,
        ["file unreadable: d: Permission denied (os error 13)",
          "file unreadable: c: invalid utf-8 sequence of 1 bytes from index 0"]⟩ :=
  pass_report_counts_agree _ _ "acme/site" "main" _ _ (by cbv) (by cbv; decide) (by decide) (by cbv)

set_option maxRecDepth 20000 in
/-- A file named `a\b` beside a directory `a` holding a file `b`, with `b` a manifest name and an
embedder that makes no vector: the walk reports both files as `a/b`, both chunks count as lacking
a vector, but the committed generation holds one row, and the statistics count one chunk, none
with a vector. -/
theorem backslash_twin_counts_missing_vector_twice :
    let tree : FileTree := ⟨[("a\\b", [120, 10]), ("a/b", [120, 10])]⟩
    let source : MockSource :=
      { repositories := [{ name := "acme/site", root := "r", commit := "c1", tree }] }
    let config : IndexerConfig := { indexing := { manifestFiles := ["b"] } }
    match Indexer.create .crates (ChunkStore.empty 4) source (.offline 4) config with
    | .ok ix =>
      (ix.index "acme/site" "main").2.map (fun r => (r.chunksCreated, r.chunksWithoutEmbedding)) =
          .ok (1, 2) ∧
        ((ix.index "acme/site" "main").1.store.stats? "acme/site").map
          (fun s => (s.totalChunks, s.chunksWithEmbedding)) = some (1, 0)
    | .error _ => False := by
  cbv

end RepoSearch.Index
