import RepoSearch.Proofs.Store.Slots
import RepoSearch.Proofs.Chunking.Ids
/-! Which chunks of a write win their ids, and when a write fails. The write fails exactly when a
chunk it would store has no repository record to belong to or a vector the vector table cannot
hold, with the message of the first such chunk. The chunks that win are those whose id neither
the generation nor an earlier chunk of the batch holds (`firstWriters`).

Chunk ids name places, so a write whose chunks all lie at distinct places new to the generation
keeps every one of them.

Main statement: `chunk_ids_keep_places`. -/
namespace RepoSearch.Store

/-- The chunks of a batch that win their ids when the generation already holds the ids `held`:
each chunk whose id is held neither by the generation nor by an earlier chunk of the batch. -/
def firstWriters (held : List String) (batch : List EmbeddedChunk) : List EmbeddedChunk :=
  (batch.zipIdx.filter fun p =>
    !held.contains p.1.chunk.id && !((batch.take p.2).map (·.chunk.id)).contains p.1.chunk.id).map
    Prod.fst

theorem firstWriters_cons (held : List String) (e : EmbeddedChunk) (rest : List EmbeddedChunk) :
    firstWriters held (e :: rest) =
      if held.contains e.chunk.id then firstWriters held rest
      else e :: firstWriters (held ++ [e.chunk.id]) rest := by
  have later : rest.zipIdx 1 = rest.zipIdx.map fun p => (p.1, p.2 + 1) := by
    rw [List.zipIdx_succ]
  unfold firstWriters
  rw [List.zipIdx_cons, List.filter_cons, later, List.filter_map]
  by_cases taken : held.contains e.chunk.id
  · simp only [taken, Bool.not_true, Bool.false_and, Bool.false_eq_true, if_false, if_true, List.map_map]
    congr 1
    refine List.filter_congr fun p _ => ?_
    -- a later chunk with the held id is turned away by the held ids already
    have heldMem : e.chunk.id ∈ held := by simpa using taken
    by_cases same : p.1.chunk.id = e.chunk.id
    · simp [same, heldMem]
    · simp [List.take_succ_cons, same]
  · simp only [taken, Bool.not_false, List.take_zero, List.map_nil, List.elem_nil, Bool.not_false,
      Bool.and_self, if_true, List.map_cons, Bool.false_eq_true, if_false, List.map_map]
    congr 2
    refine List.filter_congr fun p _ => ?_
    simp only [Function.comp_apply, List.take_succ_cons, List.map_cons, List.contains_cons,
      List.contains_append, List.contains_nil, Bool.or_false, Bool.not_or]
    rw [Bool.and_assoc]

theorem freshChunks_eq_firstWriters (held : List String) (batch : List EmbeddedChunk) :
    freshChunks held batch = firstWriters held batch := by
  induction batch generalizing held with
  | nil => rfl
  | cons e rest ih =>
    rw [freshChunks, firstWriters_cons]
    split <;> simp [ih]

/-- Of a batch with ids `a`, `b`, `b`, `c` into a generation holding `a`, the first `b` and `c`
are written. -/
example :
    let chunk (id content : String) : EmbeddedChunk := ⟨{ (default : Chunk) with id, content }, none⟩
    (firstWriters ["a"] [chunk "a" "1", chunk "b" "2", chunk "b" "3", chunk "c" "4"]).map
      (·.chunk.content) = ["2", "4"] := by
  decide

namespace ChunkStore

/-- Why a chunk cannot be stored: its repository has no record, or its vector does not fit. -/
def insertProblem (s : ChunkStore) (repository : String) (e : EmbeddedChunk) : Option String :=
  if (s.record? repository).isNone then some "FOREIGN KEY constraint failed"
  else e.embedding.bind s.vectorProblem

variable {s : ChunkStore} {repository : String} {g : Int} {e : EmbeddedChunk}

theorem snapshot_drawRowid :
    ({ s with lastRowid := s.lastRowid + 1 } : ChunkStore).snapshot repository g =
      s.snapshot repository g := rfl

theorem insertProblem_drawRowid :
    ({ s with lastRowid := s.lastRowid + 1 } : ChunkStore).insertProblem repository e =
      s.insertProblem repository e := rfl

theorem any_id_eq_contains :
    (s.snapshot repository g).any (fun r => r.chunk.id == e.chunk.id) =
      ((s.snapshot repository g).map (·.chunk.id)).contains e.chunk.id := by
  rw [List.contains_eq_any_beq, List.any_map]
  congr 1
  funext r
  exact BEq.comm

/-! ### One chunk -/

theorem insertOne_of_held (held : ((s.snapshot repository g).map (·.chunk.id)).contains e.chunk.id) :
    s.insertOne repository g e = .ok ({ s with lastRowid := s.lastRowid + 1 }, false) := by
  simp only [insertOne, snapshot_drawRowid]
  rw [if_pos (any_id_eq_contains.trans held)]

theorem insertOne_of_problem {msg : String}
    (fresh : ((s.snapshot repository g).map (·.chunk.id)).contains e.chunk.id = false)
    (problem : s.insertProblem repository e = some msg) :
    s.insertOne repository g e = .error msg := by
  simp only [insertOne, snapshot_drawRowid]
  rw [if_neg (by rw [any_id_eq_contains, fresh]; exact Bool.false_ne_true)]
  rw [← insertProblem_drawRowid] at problem
  unfold insertProblem at problem
  split at problem
  · next missing => rw [if_pos missing]; exact congrArg _ (Option.some.inj problem)
  · next present => rw [if_neg present]; simp [problem]

theorem insertOne_of_fits
    (fresh : ((s.snapshot repository g).map (·.chunk.id)).contains e.chunk.id = false)
    (fits : s.insertProblem repository e = none) :
    s.insertOne repository g e =
      .ok ({ s with lastRowid := s.lastRowid + 1,
                    rows := s.rows ++ [⟨s.lastRowid + 1, repository, g, e.chunk, e.embedding⟩] }, true) := by
  simp only [insertOne, snapshot_drawRowid]
  rw [if_neg (by rw [any_id_eq_contains, fresh]; exact Bool.false_ne_true)]
  rw [← insertProblem_drawRowid] at fits
  unfold insertProblem at fits
  split at fits
  · cases fits
  · next present => rw [if_neg present]; simp [fits]

/-! ### A batch -/

/-- A batch fails exactly when one of the chunks it would write cannot be stored, and with the
message of the first of them. -/
theorem insertAll_eq_error_iff {n : Nat} {batch : List EmbeddedChunk} {msg : String} :
    insertAll repository g s n batch = .error msg ↔
      (freshChunks ((s.snapshot repository g).map (·.chunk.id)) batch).findSome?
        (s.insertProblem repository) = some msg := by
  induction batch generalizing s n with
  | nil => simp [insertAll, freshChunks]
  | cons e rest ih =>
    by_cases held : ((s.snapshot repository g).map (·.chunk.id)).contains e.chunk.id
    · -- the chunk loses its id and only draws a row id, which no check reads
      rw [insertAll, insertOne_of_held held, freshChunks, if_pos held]
      exact ih
    · have fresh := Bool.eq_false_iff.mpr held
      rw [freshChunks, if_neg held, List.findSome?_cons]
      cases problem : s.insertProblem repository e with
      | some m => simp [insertAll, insertOne_of_problem fresh problem]
      | none =>
        rw [insertAll, insertOne_of_fits fresh problem, ih]
        simp only [snapshot, List.filter_append, List.filter_cons, List.filter_nil,
          beq_self_eq_true, Bool.and_self, if_true, List.map_append, List.map_cons, List.map_nil]
        rfl

end ChunkStore

/-! ### Chunks of distinct places -/

/-- Chunk ids tell places apart: an id made from a path, two lines and a kind gives all four back,
whatever colons and dashes the path holds. So a write, which skips every chunk whose id the
generation or an earlier chunk of the batch holds, drops no chunk when every id is made from its
chunk's place and the places of the generation's chunks and of the batch are pairwise distinct:
it appends the whole batch in order and counts every chunk. -/
theorem chunk_ids_keep_places :
    (∀ (p₁ p₂ : String) (a₁ a₂ b₁ b₂ : Nat) (k₁ k₂ : ChunkKind),
      Chunk.makeId p₁ a₁ b₁ k₁ = Chunk.makeId p₂ a₂ b₂ k₂ → p₁ = p₂ ∧ a₁ = a₂ ∧ b₁ = b₂ ∧ k₁ = k₂) ∧
    ∀ (s : ChunkStore) (repository : String) (generation : Int) (batch : List EmbeddedChunk)
      (s' : ChunkStore) (written : Nat),
      (∀ c ∈ (s.snapshot repository generation).map (·.chunk) ++ batch.map (·.chunk),
        c.id = Chunk.makeId c.filePath c.startLine c.endLine c.kind) →
      (((s.snapshot repository generation).map (·.chunk) ++ batch.map (·.chunk)).map Chunk.place).Nodup →
      s.insertFileChunks repository generation batch = .ok (s', written) →
      written = batch.length ∧
        (s'.snapshot repository generation).map StoredChunk.entry =
          (s.snapshot repository generation).map StoredChunk.entry ++ batch := by
  refine ⟨fun p₁ p₂ a₁ a₂ b₁ b₂ k₁ k₂ same => Chunk.makeId_inj.mp same, ?_⟩
  intro s repository generation batch s' written made distinct wrote
  -- distinct places give distinct ids, so every chunk of the batch wins its id
  have ids := Chunk.ids_nodup_of_places made distinct
  rw [List.map_append, List.map_map, List.map_map, List.nodup_append] at ids
  obtain ⟨-, own, apart⟩ := ids
  have winners : freshChunks ((s.snapshot repository generation).map (·.chunk.id)) batch = batch :=
    freshChunks_of_new _ batch own fun e listed held =>
      apart _ held _ (List.mem_map_of_mem listed) rfl
  obtain ⟨added, -, count, entries, -⟩ := ChunkStore.insertAll_ok wrote
  refine ⟨?_, by rw [ChunkStore.insertAll_snapshot wrote, winners]⟩
  rw [count, Nat.zero_add, ← List.length_map StoredChunk.entry, entries, winners]

/-- Two chunks of a path that holds a colon and a dash, at the same first line, are both written
to a fresh generation. -/
theorem colon_path_chunks_both_written :
    let s := ((ChunkStore.empty 4).beginPass "acme/site").1
    let batch : List EmbeddedChunk :=
      [⟨Chunk.build "a:1-2" "x" "text" .block 1 1 [], none⟩,
       ⟨Chunk.build "a:1-2" "x\ny" "text" .block 1 2 [], none⟩]
    ∃ s' written, s.insertFileChunks "acme/site" 1 batch = .ok (s', written) ∧
      written = batch.length ∧
      (s'.snapshot "acme/site" 1).map StoredChunk.entry =
        (s.snapshot "acme/site" 1).map StoredChunk.entry ++ batch := by
  intro s batch
  have made : ∀ c ∈ (s.snapshot "acme/site" 1).map (·.chunk) ++ batch.map (·.chunk),
      c.id = Chunk.makeId c.filePath c.startLine c.endLine c.kind := by
    decide
  have distinct : (((s.snapshot "acme/site" 1).map (·.chunk) ++ batch.map (·.chunk)).map
      Chunk.place).Nodup := by
    decide
  obtain ⟨s', written, wrote⟩ :
      ∃ s' written, s.insertFileChunks "acme/site" 1 batch = .ok (s', written) := ⟨_, _, rfl⟩
  exact ⟨s', written, wrote, chunk_ids_keep_places.2 s "acme/site" 1 batch s' written made distinct wrote⟩

end RepoSearch.Store
