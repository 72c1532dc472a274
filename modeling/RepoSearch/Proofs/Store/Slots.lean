import RepoSearch.Proofs.Search.Isolation
import Mathlib
/-! Chunk rows keep their places apart: no two rows share repository, generation and chunk id
(`TablesAgree`), since a write skips every chunk whose id its generation holds or an earlier
chunk of the write took, and row ids increase along the rows, none past the last one drawn. -/
namespace RepoSearch.Store

/-- Where a chunk row sits: its repository, generation and chunk id, which no two rows share. -/
def StoredChunk.slot (r : StoredChunk) : String × Int × String :=
  (r.repository, r.generation, r.chunk.id)

/-! ### Inserts keep slots apart -/

theorem freshChunks_ids (held : List String) (es : List EmbeddedChunk) :
    ((freshChunks held es).map (·.chunk.id)).Nodup ∧ ∀ e ∈ freshChunks held es, e.chunk.id ∉ held := by
  induction es generalizing held with
  | nil => simp [freshChunks]
  | cons e rest ih =>
    by_cases taken : held.contains e.chunk.id
    · rw [freshChunks, if_pos taken]
      exact ih held
    · rw [freshChunks, if_neg taken]
      obtain ⟨distinct, new⟩ := ih (held ++ [e.chunk.id])
      have absent : e.chunk.id ∉ held := by simpa using taken
      refine ⟨List.nodup_cons.mpr ⟨fun mem => ?_, distinct⟩, fun e' mem => ?_⟩
      · -- a later chunk with this id would be one the insert already took
        obtain ⟨e', later, same⟩ := List.mem_map.mp mem
        exact new e' later (by simp [same])
      · rcases List.mem_cons.mp mem with rfl | later
        · exact absent
        · exact fun old => new e' later (List.mem_append_left _ old)

namespace ChunkStore

variable {s : ChunkStore}

theorem slots_insertAll {name : String} {g : Int} {n n' : Nat} {es : List EmbeddedChunk}
    {s' : ChunkStore} (apart : (s.rows.map StoredChunk.slot).Nodup)
    (h : insertAll name g s n es = .ok (s', n')) : (s'.rows.map StoredChunk.slot).Nodup := by
  obtain ⟨added, rfl, -, entries, stamped, -⟩ := insertAll_ok h
  obtain ⟨distinct, new⟩ := freshChunks_ids ((s.snapshot name g).map (·.chunk.id)) es
  have kept : ∀ r ∈ added, r.entry ∈ freshChunks ((s.snapshot name g).map (·.chunk.id)) es :=
    fun r mem => entries ▸ List.mem_map_of_mem mem
  have ids : (added.map (·.chunk.id)).Nodup := by
    have viaEntries : added.map (·.chunk.id) = (added.map StoredChunk.entry).map (·.chunk.id) := by
      simp [Function.comp_def, StoredChunk.entry]
    rw [viaEntries, entries]
    exact distinct
  rw [List.map_append, List.nodup_append]
  refine ⟨apart, ?_, ?_⟩
  · -- the rows an insert adds share repository and generation, so their ids keep them apart
    have third : (added.map StoredChunk.slot).map (fun x => x.2.2) = added.map (·.chunk.id) := by
      simp [Function.comp_def, StoredChunk.slot]
    exact List.Nodup.of_map _ (third ▸ ids)
  · intro a old b added' same
    obtain ⟨o, stored, rfl⟩ := List.mem_map.mp old
    obtain ⟨r, mine, rfl⟩ := List.mem_map.mp added'
    obtain ⟨owner, gen, -⟩ := stamped r mine
    simp only [StoredChunk.slot, Prod.mk.injEq] at same
    obtain ⟨sameRepo, sameGen, sameId⟩ := same
    -- an old row in the insert's slot is in its generation, whose ids the insert skips
    have listed : o ∈ s.snapshot name g := mem_snapshot.mpr ⟨stored, sameRepo.trans owner, sameGen.trans gen⟩
    exact new r.entry (kept r mine) (sameId ▸ List.mem_map_of_mem listed)

end ChunkStore

/-! ### The invariant -/

/-- What every operation keeps of the chunk rows: row ids in order and within those drawn, and
slots apart. -/
structure TablesAgree (s : ChunkStore) : Prop where
  ordered : RowidsOrdered s
  apart : (s.rows.map StoredChunk.slot).Nodup

namespace TablesAgree

variable {s : ChunkStore}

theorem empty (dims : Nat) : TablesAgree (ChunkStore.empty dims) :=
  ⟨RowidsOrdered.empty dims, List.nodup_nil⟩

theorem perform (agree : TablesAgree s) (op : PassOp) : TablesAgree (s.perform op) where
  ordered := agree.ordered.perform op
  apart := by
    cases op with
    | begin name => exact agree.apart.sublist (ChunkStore.rows_beginPass_sublist.map _)
    | insert name g es =>
      cases inserted : s.insertFileChunks name g es with
      | error msg =>
        rw [ChunkStore.perform_insert_error inserted]
        exact agree.apart
      | ok result =>
        obtain ⟨s', n⟩ := result
        rw [ChunkStore.perform_insert_ok inserted]
        exact ChunkStore.slots_insertAll agree.apart inserted
    | commit name g c => exact agree.apart.sublist ((ChunkStore.rows_commitSnapshot_sublist g c).map _)
    | fail name g e => exact agree.apart.sublist ((ChunkStore.rows_markFailed_sublist g e).map _)

theorem run (agree : TablesAgree s) (ops : List PassOp) : TablesAgree (ops.foldl ChunkStore.perform s) := by
  induction ops generalizing s with
  | nil => exact agree
  | cons op rest ih => exact ih (agree.perform op)

end TablesAgree

end RepoSearch.Store
