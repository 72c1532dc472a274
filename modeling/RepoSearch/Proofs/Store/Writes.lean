import RepoSearch.Store.Write
import Mathlib.Data.List.Nodup
/-! What each write of the chunk store changes. The views are a repository's record and the
chunks of each of its generations. Starting a pass marks the record indexing and empties every
generation but the current one; committing flips the current generation, records the commit and
the count, and empties every other generation; failing a pass records the error and empties the
pass's own generation; a successful insert appends, under fresh row ids, the chunks whose id the
generation does not hold yet. No write touches another repository. -/
namespace RepoSearch.Store

/-- The chunk a stored row holds, with its vector. -/
def StoredChunk.entry (r : StoredChunk) : EmbeddedChunk := ⟨r.chunk, r.embedding⟩

/-- The chunks an insert writes when the generation already holds the ids `held`: each chunk
whose id is neither held nor taken by an earlier chunk of the list. -/
def freshChunks : List String → List EmbeddedChunk → List EmbeddedChunk
  | _, [] => []
  | held, e :: rest =>
    if held.contains e.chunk.id then freshChunks held rest
    else e :: freshChunks (held ++ [e.chunk.id]) rest

theorem freshChunks_of_new (held : List String) (es : List EmbeddedChunk)
    (distinct : (es.map (·.chunk.id)).Nodup) (new : ∀ e ∈ es, e.chunk.id ∉ held) :
    freshChunks held es = es := by
  induction es generalizing held with
  | nil => rfl
  | cons e rest ih =>
    rw [List.map_cons, List.nodup_cons] at distinct
    have absent : held.contains e.chunk.id = false := by
      simpa using new e List.mem_cons_self
    rw [freshChunks, absent, if_neg Bool.false_ne_true, ih _ distinct.2]
    intro e' mem held'
    rcases List.mem_append.mp held' with old | last
    · exact new e' (List.mem_cons_of_mem _ mem) old
    · exact distinct.1 (List.mem_map.mpr ⟨e', mem, List.mem_singleton.mp last⟩)

/-- Inserting two lists one after the other keeps what inserting them together keeps: the
second list is checked against the ids held before and the ids the first one wrote. -/
theorem freshChunks_append (held : List String) (es₁ es₂ : List EmbeddedChunk) :
    freshChunks held (es₁ ++ es₂) =
      freshChunks held es₁ ++ freshChunks (held ++ (freshChunks held es₁).map (·.chunk.id)) es₂ := by
  induction es₁ generalizing held with
  | nil => simp [freshChunks]
  | cons e rest ih =>
    simp only [List.cons_append, freshChunks]
    split
    · exact ih held
    · simp [ih, List.append_assoc]

namespace ChunkStore

/-- A repository's record, or the one a repository starts with before its first pass. -/
def recordOf (s : ChunkStore) (name : String) : RepositoryRecord :=
  (s.record? name).getD { name }

/-- The generation readers of a repository see; 0 before its first commit. -/
def generation (s : ChunkStore) (name : String) : Int :=
  (s.recordOf name).currentGeneration

variable {s : ChunkStore} {name other : String}

theorem mem_snapshot {g : Int} {r : StoredChunk} :
    r ∈ s.snapshot name g ↔ r ∈ s.rows ∧ r.repository = name ∧ r.generation = g := by
  simp [snapshot]

theorem recordOf_of_record? {r : RepositoryRecord} (h : s.record? name = some r) :
    s.recordOf name = r := by
  simp [recordOf, h]

theorem record?_of_state {state : IndexState} (h : (s.recordOf name).state = state)
    (started : state ≠ .notIndexed) : ∃ r, s.record? name = some r ∧ r.state = state := by
  cases found : s.record? name with
  | none => simp [recordOf, found] at h; exact absurd h.symm started
  | some r => exact ⟨r, rfl, by simpa [recordOf, found] using h⟩

/-! ### Dropping chunks and changing a record -/

@[simp] theorem record?_purge (drop : Int → Bool) :
    (s.purge name drop).record? other = s.record? other := rfl

@[simp] theorem dimensions_purge (drop : Int → Bool) :
    (s.purge name drop).dimensions = s.dimensions := rfl

@[simp] theorem lastRowid_purge (drop : Int → Bool) :
    (s.purge name drop).lastRowid = s.lastRowid := rfl

theorem rows_purge_sublist (drop : Int → Bool) : List.Sublist (s.purge name drop).rows s.rows :=
  List.filter_sublist

theorem snapshot_purge (drop : Int → Bool) (g : Int) :
    (s.purge name drop).snapshot other g =
      if other = name ∧ drop g = true then [] else s.snapshot other g := by
  simp only [purge, snapshot, List.filter_filter]
  split
  · next emptied =>
    obtain ⟨rfl, dropped⟩ := emptied
    simp only [List.filter_eq_nil_iff]
    intro r _
    by_cases hr : r.repository = other <;> by_cases hg : r.generation = g <;> simp_all
  · next kept =>
    apply List.filter_congr
    intro r _
    by_cases hr : r.repository = other <;> by_cases hg : r.generation = g <;>
      by_cases ho : other = name <;> simp_all

@[simp] theorem rows_updateRecord (f : RepositoryRecord → RepositoryRecord) :
    (s.updateRecord name f).rows = s.rows := rfl

@[simp] theorem snapshot_updateRecord (f : RepositoryRecord → RepositoryRecord) (g : Int) :
    (s.updateRecord name f).snapshot other g = s.snapshot other g := rfl

theorem record?_updateRecord (f : RepositoryRecord → RepositoryRecord)
    (keeps : ∀ r, (f r).name = r.name) :
    (s.updateRecord name f).record? other =
      if other = name then (s.record? other).map f else s.record? other := by
  have named : ((fun r : RepositoryRecord => r.name == other) ∘
      fun r => if r.name == name then f r else r) = fun r => r.name == other := by
    funext r
    by_cases h : r.name = name <;> simp [h, keeps]
  simp only [updateRecord, record?, List.find?_map, named]
  cases found : s.repositories.find? (fun r => r.name == other) with
  | none => simp
  | some r =>
    have same : r.name = other := by simpa using List.find?_some found
    by_cases h : other = name <;> simp [same, h]

/-! ### Starting, committing and failing a pass -/

theorem record?_ensureRecord :
    (if (s.record? name).isSome then s
      else { s with repositories := s.repositories ++ [{ name }] }).record? other =
      if other = name then some (s.recordOf name) else s.record? other := by
  split
  · next present =>
    obtain ⟨r, found⟩ := Option.isSome_iff_exists.mp present
    by_cases h : other = name
    · simp [h, found, recordOf]
    · simp [h]
  · next absent =>
    have missing : s.record? name = none := by simpa using absent
    by_cases h : other = name
    · subst h
      simp only [record?, List.find?_append, if_true, recordOf] at missing ⊢
      simp [missing]
    · simp only [record?, List.find?_append, if_neg h] at missing ⊢
      simp [Ne.symm h]

theorem record?_beginPass :
    (s.beginPass name).1.record? other =
      if other = name then some { s.recordOf name with state := .indexing, lastError := none }
      else s.record? other := by
  simp only [beginPass, record?_purge]
  rw [record?_updateRecord, record?_ensureRecord]
  · by_cases h : other = name <;> simp [h]
  · intro r; rfl

theorem snd_beginPass : (s.beginPass name).2 = s.generation name + 1 := by
  simp only [beginPass]
  rw [record?_updateRecord, record?_ensureRecord]
  · simp [generation]
  · intro r; rfl

theorem snapshot_beginPass (g : Int) :
    (s.beginPass name).1.snapshot other g =
      if other = name ∧ g ≠ s.generation name then [] else s.snapshot other g := by
  have ensured (t : ChunkStore) (same : t.rows = s.rows) : t.snapshot other g = s.snapshot other g := by
    simp only [snapshot, same]
  simp only [beginPass]
  rw [snapshot_purge, snapshot_updateRecord, ensured _ (by split <;> rfl), record?_updateRecord,
    record?_ensureRecord]
  · simp only [if_true, Option.map_some, Option.getD_some, bne_iff_ne, ne_eq, generation]
    by_cases emptied : other = name ∧ ¬g = (s.recordOf name).currentGeneration <;> simp [emptied]
  · intro r; rfl

theorem rows_beginPass_sublist : List.Sublist (s.beginPass name).1.rows s.rows := by
  simp only [beginPass]
  exact (rows_purge_sublist _).trans (by split <;> exact List.Sublist.refl _)

theorem lastRowid_beginPass : (s.beginPass name).1.lastRowid = s.lastRowid := by
  simp only [beginPass]
  split <;> rfl

theorem dimensions_beginPass : (s.beginPass name).1.dimensions = s.dimensions := by
  simp only [beginPass]
  split <;> rfl

theorem sql_beginPass : (s.beginPass name).1.sql = s.sql := by
  simp only [beginPass]
  split <;> rfl

theorem record?_commitSnapshot (g : Int) (commit : String) :
    (s.commitSnapshot name g commit).1.record? other =
      if other = name then
        (s.record? name).map fun r =>
          { r with currentGeneration := g, lastCommit := some commit, indexedAt := some s.commits,
                   totalChunks := (s.snapshot name g).length, state := .indexed, lastError := none }
      else s.record? other := by
  simp only [commitSnapshot, record?_purge]
  rw [record?_updateRecord]
  · by_cases h : other = name
    · subst h; rfl
    · simp only [if_neg h]; rfl
  · intro r; rfl

theorem snapshot_commitSnapshot (g g' : Int) (commit : String) :
    (s.commitSnapshot name g commit).1.snapshot other g' =
      if other = name ∧ g' ≠ g then [] else s.snapshot other g' := by
  simp only [commitSnapshot, snapshot_purge, snapshot_updateRecord, bne_iff_ne, ne_eq]
  rfl

theorem rows_commitSnapshot_sublist (g : Int) (commit : String) :
    List.Sublist (s.commitSnapshot name g commit).1.rows s.rows :=
  rows_purge_sublist _

@[simp] theorem lastRowid_commitSnapshot (g : Int) (commit : String) :
    (s.commitSnapshot name g commit).1.lastRowid = s.lastRowid := rfl

@[simp] theorem dimensions_commitSnapshot (g : Int) (commit : String) :
    (s.commitSnapshot name g commit).1.dimensions = s.dimensions := rfl

theorem record?_markFailed (g : Int) (error : String) :
    (s.markFailed name g error).record? other =
      if other = name then (s.record? name).map fun r => { r with state := .failed, lastError := some error }
      else s.record? other := by
  simp only [markFailed, record?_purge]
  rw [record?_updateRecord]
  · by_cases h : other = name
    · subst h; rfl
    · simp only [if_neg h]
  · intro r; rfl

theorem snapshot_markFailed (g g' : Int) (error : String) :
    (s.markFailed name g error).snapshot other g' =
      if other = name ∧ g' = g then [] else s.snapshot other g' := by
  simp only [markFailed, snapshot_purge, snapshot_updateRecord, beq_iff_eq]

theorem rows_markFailed_sublist (g : Int) (error : String) :
    List.Sublist (s.markFailed name g error).rows s.rows :=
  rows_purge_sublist _

@[simp] theorem lastRowid_markFailed (g : Int) (error : String) :
    (s.markFailed name g error).lastRowid = s.lastRowid := rfl

@[simp] theorem dimensions_markFailed (g : Int) (error : String) :
    (s.markFailed name g error).dimensions = s.dimensions := rfl

/-! ### Inserting chunks -/

theorem insertOne_ok {g : Int} {e : EmbeddedChunk} {s' : ChunkStore} {wrote : Bool}
    (h : s.insertOne name g e = .ok (s', wrote)) :
    wrote = !((s.snapshot name g).map (·.chunk.id)).contains e.chunk.id ∧
    s' = { s with lastRowid := s.lastRowid + 1,
                  rows := s.rows ++ if wrote then [⟨s.lastRowid + 1, name, g, e.chunk, e.embedding⟩]
                    else [] } := by
  have held : ((s.snapshot name g).map (·.chunk.id)).contains e.chunk.id =
      (s.snapshot name g).any (fun r => r.chunk.id == e.chunk.id) := by
    rw [List.contains_eq_any_beq, List.any_map]
    congr 1
    funext r
    exact BEq.comm
  have bumped : ({ s with lastRowid := s.lastRowid + 1 } : ChunkStore).snapshot name g =
      s.snapshot name g := rfl
  simp only [insertOne, bumped] at h
  split at h
  · next dup =>
    cases h
    exact ⟨by rw [held, dup]; rfl, by simp⟩
  · next fresh =>
    split at h
    · cases h
    · split at h
      · cases h
      · cases h
        exact ⟨by rw [held, Bool.eq_false_iff.mpr fresh]; rfl, rfl⟩

/-- An insert that succeeds appends the chunks `freshChunks` keeps, in order, each under a row
id drawn after every earlier one; every chunk it tries draws an id. -/
theorem insertAll_ok {g : Int} {n n' : Nat} {es : List EmbeddedChunk} {s' : ChunkStore}
    (h : insertAll name g s n es = .ok (s', n')) :
    ∃ added : List StoredChunk,
      s' = { s with rows := s.rows ++ added, lastRowid := s.lastRowid + es.length } ∧
      n' = n + added.length ∧
      added.map StoredChunk.entry = freshChunks ((s.snapshot name g).map (·.chunk.id)) es ∧
      (∀ r ∈ added, r.repository = name ∧ r.generation = g ∧
        s.lastRowid < r.rowid ∧ r.rowid ≤ s.lastRowid + es.length) ∧
      added.Pairwise (fun a b => a.rowid < b.rowid) := by
  induction es generalizing s n with
  | nil =>
    simp only [insertAll, Except.ok.injEq, Prod.mk.injEq] at h
    obtain ⟨rfl, rfl⟩ := h
    exact ⟨[], by simp, by simp, rfl, by simp, List.Pairwise.nil⟩
  | cons e rest ih =>
    simp only [insertAll] at h
    split at h
    · cases h
    · next s₁ wrote first =>
      obtain ⟨written, rfl⟩ := insertOne_ok first
      obtain ⟨later, rfl, count, entries, bounds, ordered⟩ := ih h
      let row : StoredChunk := ⟨s.lastRowid + 1, name, g, e.chunk, e.embedding⟩
      let mine : List StoredChunk := if wrote then [row] else []
      -- the ids the rest is checked against are those held before, plus this chunk's if written
      have held : (({ s with lastRowid := s.lastRowid + 1, rows := s.rows ++ mine } : ChunkStore).snapshot
          name g).map (·.chunk.id) =
          (s.snapshot name g).map (·.chunk.id) ++ if wrote then [e.chunk.id] else [] := by
        cases wrote <;> simp [mine, row, snapshot, List.filter_append]
      refine ⟨mine ++ later, ?_, ?_, ?_, ?_, ?_⟩
      · simp only [List.append_assoc, List.length_cons, mine, row]
        congr 1
        omega
      · rw [count]
        cases wrote
        · simp [mine]
        · simp [mine]; omega
      · rw [List.map_append, entries, held, freshChunks]
        cases wrote <;> simp_all [mine, row, StoredChunk.entry]
      · intro r mem
        rcases List.mem_append.mp mem with here | there
        · cases wrote <;> simp [mine, row] at here
          subst here
          refine ⟨rfl, rfl, ?_, ?_⟩ <;> simp only [List.length_cons] <;> omega
        · obtain ⟨owner, stamped, after, before⟩ := bounds r there
          simp only [List.length_cons] at after before ⊢
          exact ⟨owner, stamped, by omega, by omega⟩
      · refine List.pairwise_append.mpr ⟨by cases wrote <;> simp [mine], ordered, ?_⟩
        intro a ha b hb
        cases wrote <;> simp [mine, row] at ha
        subst ha
        exact (bounds b hb).2.2.1

/-- After a successful insert the generation holds what it held, then the chunks whose id it
did not hold yet. -/
theorem insertAll_snapshot {g : Int} {n n' : Nat} {es : List EmbeddedChunk} {s' : ChunkStore}
    (h : insertAll name g s n es = .ok (s', n')) :
    (s'.snapshot name g).map StoredChunk.entry =
      (s.snapshot name g).map StoredChunk.entry ++
        freshChunks ((s.snapshot name g).map (·.chunk.id)) es := by
  obtain ⟨added, rfl, -, fresh, placed, -⟩ := insertAll_ok h
  have kept : added.filter (fun r => r.repository == name && r.generation == g) = added :=
    List.filter_eq_self.mpr (fun r mem => by simp [(placed r mem).1, (placed r mem).2.1])
  simp only [snapshot, List.filter_append, kept, List.map_append, fresh]

theorem insertAll_frame {g : Int} {n n' : Nat} {es : List EmbeddedChunk} {s' : ChunkStore}
    (h : insertAll name g s n es = .ok (s', n')) :
    s'.dimensions = s.dimensions ∧ ∀ other, s'.record? other = s.record? other := by
  obtain ⟨added, rfl, -⟩ := insertAll_ok h
  exact ⟨rfl, fun _ => rfl⟩

end ChunkStore

end RepoSearch.Store
