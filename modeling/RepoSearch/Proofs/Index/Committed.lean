import RepoSearch.Proofs.Index.Pass
import RepoSearch.Source.Mock
/-! What a pass that commits leaves of a repository. The tasks of the walked files write into the
new generation in the order they finish, and the store keeps a chunk only when the generation
does not hold its id yet. So the committed rows are the chunks of the files, in the order their
tasks finished, with every chunk whose id an earlier chunk took left out; the previous snapshot
is gone and the record names the fetched commit.

Chunk ids are made from the reported path, so two files the walk reports under one path (a
name holding a backslash beside the directory of that name) give chunks of one id, and the
chunks of whichever file finishes second are silently dropped while it counts as indexed. When
the reported paths are distinct, nothing is dropped: the rows are exactly the chunks of the
files, in whatever order the tasks finished, and in walk order when they finish in walk order.

Main statement: `index_commits_scanned_chunks`; `backslash_twin_keeps_one_chunk` is the pass
that loses a chunk. -/
namespace RepoSearch.Index

open RepoSearch.Chunking RepoSearch.Embedding RepoSearch.Files RepoSearch.Source RepoSearch.Store

/-- What a pass in the runtime `rt` that commits leaves of `repo` for the tree `checkout` it
fetched: the next generation holds exactly the chunks the tasks of the walked files stored, in
the order the tasks finished, so in walk order when they finish in walk order, and in any order
the same chunks, each with the vector the embedder gave for it, under an id made from its path,
lines and kind; no other row of `repo` is left, and the record names the commit and says the
repository is indexed. -/
structure CommittedSnapshot {σ : Type} (ix : Indexer σ) (rt : Runtime) (repo : String) (checkout : Checkout)
    (after : ChunkStore) : Prop where
  next_generation : after.generation repo = ix.store.generation repo + 1
  rows_in_finish_order : (after.snapshot repo (after.generation repo)).map StoredChunk.entry =
    (rt.finish (ix.filter.scan checkout.tree checkout.versioned).files).flatMap (ix.entriesIn rt)
  rows_in_walk_order : rt.InWalkOrder → (after.snapshot repo (after.generation repo)).map StoredChunk.entry =
    (ix.filter.scan checkout.tree checkout.versioned).files.flatMap (ix.entriesIn rt)
  rows_are_chunks : ((after.snapshot repo (after.generation repo)).map StoredChunk.entry).Perm
    ((ix.filter.scan checkout.tree checkout.versioned).files.flatMap (ix.entriesIn rt))
  ids_made : ∀ r ∈ after.snapshot repo (after.generation repo),
    r.chunk.id = Chunk.makeId r.chunk.filePath r.chunk.startLine r.chunk.endLine r.chunk.kind
  old_rows_dropped : ∀ r ∈ after.rows, r.repository = repo → r.generation = after.generation repo
  commit_recorded : (after.recordOf repo).lastCommit = some checkout.commit
  marked_indexed : (after.recordOf repo).state = .indexed
  no_error : (after.recordOf repo).lastError = none

/-- Over files with distinct paths, no chunk a task stores has an id an earlier task's chunk
took, in whatever order the tasks finish. -/
theorem Indexer.freshChunks_finished {σ : Type} (ix : Indexer σ) (rt : Runtime) {files : List SourceFile}
    (distinct : (files.map (·.relative)).Nodup) :
    freshChunks [] ((rt.finish files).flatMap (ix.entriesIn rt)) = (rt.finish files).flatMap (ix.entriesIn rt) :=
  freshChunks_of_new [] _ (Indexer.entriesIn_flatMap_ids_nodup _ (((rt.finish_perm files).map _).nodup_iff.mpr distinct))
    (fun _ _ none => by cases none)

theorem index_commits_scanned_chunks {σ : Type} [SourceProvider σ] (ix : Indexer σ) (rt : Runtime)
    (repo gitRef : String) (checkout : Checkout) (report : IndexReport)
    (fetched : (SourceProvider.fetchTree ix.source repo gitRef).2 = .ok checkout)
    (distinct : ((ix.filter.scan checkout.tree checkout.versioned).files.map (·.relative)).Nodup)
    (ok : (ix.indexIn rt repo gitRef).2 = .ok report) :
    CommittedSnapshot ix rt repo checkout (ix.indexIn rt repo gitRef).1.store := by
  obtain ⟨written, stored, record, rows⟩ := Indexer.runPass_ok fetched ok
  let g := ix.store.generation repo + 1
  let files := (ix.filter.scan checkout.tree checkout.versioned).files
  let finished := (rt.finish files).flatMap (ix.entriesIn rt)
  have committed : (ix.indexIn rt repo gitRef).1.store = written.perform (.commit repo g checkout.commit) :=
    stored
  have after := ChunkStore.recordOf_perform_commit (g := g) (c := checkout.commit) record
  have current : (written.perform (.commit repo g checkout.commit)).generation repo = g := by
    simp [ChunkStore.generation, after]
  have entries :
      ((written.perform (.commit repo g checkout.commit)).snapshot repo g).map StoredChunk.entry = finished := by
    rw [ChunkStore.snapshot_perform_commit, if_neg (by simp), rows, ix.freshChunks_finished rt distinct]
  rw [committed]
  refine ⟨current, ?_, fun walk => ?_, ?_, ?_, ?_, by simp [after], by simp [after], by simp [after]⟩
  · rw [current, entries]
  · rw [current, entries]
    show (rt.finish files).flatMap _ = _
    rw [walk files]
  · rw [current, entries]
    exact (rt.finish_perm files).flatMap_right _
  · intro r mem
    rw [current] at mem
    have listed : r.entry ∈ finished := entries ▸ List.mem_map_of_mem mem
    obtain ⟨file, -, taken⟩ := List.mem_flatMap.mp listed
    have made : r.chunk.OfFile file.relative := Indexer.entriesIn_ofFile file r.entry taken
    rw [made.id, made.file]
  · intro r mem mine
    rw [current]
    by_contra other
    have held := ChunkStore.mem_snapshot.mpr ⟨mem, mine, rfl⟩
    rw [ChunkStore.snapshot_perform_commit, if_pos other] at held
    cases held

set_option maxRecDepth 20000 in
/-- Four files whose tasks finish in reverse walk order, one of them not UTF-8 and one the
runtime cannot read: the pass commits the chunks of the other two, the later file's first. -/
theorem reversed_tasks_commit_both_chunks :
    let tree : FileTree := ⟨[("a", [120, 10]), ("b", [121, 10]), ("c", [255, 10]), ("d", [122, 10])]⟩
    let ix : Indexer MockSource :=
      { store := ChunkStore.empty 4,
        source := { repositories := [{ name := "acme/site", root := "r", commit := "c1", tree }] },
        embedder := .offline 4, config := {}, filter := { extensions := [], manifests := ["a", "b", "c", "d"], excludedDirs := [], maxFileBytes := 1024 } }
    let rt : Runtime := ⟨List.reverse, List.reverse_perm, fun _ => none,
      fun path => if path = "d" then some "Permission denied (os error 13)" else none, fun _ => none⟩
    CommittedSnapshot ix rt "acme/site" ⟨"r", "c1", tree, false⟩ (ix.indexIn rt "acme/site" "main").1.store :=
  index_commits_scanned_chunks _ _ "acme/site" "main" _
    ⟨"acme/site", "main", "c1", 1, 4, 2, 2, 2, 2,
      ["file unreadable: d: Permission denied (os error 13)",
        "file unreadable: c: invalid utf-8 sequence of 1 bytes from index 0"]⟩
    (by cbv) (by cbv; decide) (by cbv)

set_option maxRecDepth 20000 in
/-- A file named `a\b` beside a directory `a` holding a file `b`, with `b` a manifest name and
the indexer built as for any pass: the walk reports both files as `a/b`, each gives one chunk
and both count as indexed, but the committed generation holds one chunk. -/
theorem backslash_twin_keeps_one_chunk :
    let tree : FileTree := ⟨[("a\\b", [120, 10]), ("a/b", [120, 10])]⟩
    let source : MockSource :=
      { repositories := [{ name := "acme/site", root := "r", commit := "c1", tree }] }
    let config : IndexerConfig := { indexing := { manifestFiles := ["b"] } }
    match Indexer.create .crates (ChunkStore.empty 4) source (.offline 4) config with
    | .ok ix =>
      ((ix.filter.scan tree false).files.flatMap ix.fileEntries).length = 2 ∧
        (ix.index "acme/site" "main").2.map (fun r => (r.filesIndexed, r.chunksCreated)) =
          .ok (2, 1) ∧
        (ix.index "acme/site" "main").1.store.chunkIds "acme/site" 1 = ["a/b:1-1:block"]
    | .error _ => False := by
  cbv

end RepoSearch.Index
