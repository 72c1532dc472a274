import RepoSearch.Proofs.Store.Writes
/-! Runs of the store's pass operations. A run starts from an empty store and applies pass
operations to any repositories. For one repository `repo` it keeps the discipline the indexer
keeps: an insert, commit or failure for `repo` carries the generation its latest start
returned, and after a commit or a failure only a new start may follow. An insert that fails
rolls back, and a pass may be abandoned at any step.

Main statement, `pass_discipline_invariant`: along such a run every chunk of `repo` belongs to
the current generation or the next one. Chunks of the next generation exist only while the
repository is being indexed. The current generation moves only at a commit of `repo`, and then
by exactly one. Once a pass has committed, the record holds the commit, its time and the number
of chunks of the current generation, and the statistics report the same number. -/
namespace RepoSearch.Store

/-- An operation of an index pass on the store, naming the repository it writes. -/
inductive PassOp where
  | begin (repository : String)
  | insert (repository : String) (generation : Int) (chunks : List EmbeddedChunk)
  | commit (repository : String) (generation : Int) (commit : String)
  | fail (repository : String) (generation : Int) (error : String)

namespace PassOp

/-- The repository an operation writes. -/
def repository : PassOp → String
  | begin r | insert r .. | commit r .. | fail r .. => r

/-- Whether an operation commits a pass of `repo`. -/
def commits (repo : String) : PassOp → Bool
  | commit r .. => r == repo
  | _ => false

/-- Whether the discipline lets an operation come while `repo`'s open pass is `pass`: an
insert, commit or failure for `repo` carries that pass's generation. -/
def Allowed (repo : String) (pass : Option Int) : PassOp → Prop
  | begin _ => True
  | insert r g _ | commit r g _ | fail r g _ => r = repo → pass = some g

end PassOp

namespace ChunkStore

/-- The store after an operation; an insert that fails rolls back and leaves it as it was. -/
def perform (s : ChunkStore) : PassOp → ChunkStore
  | .begin r => (s.beginPass r).1
  | .insert r g cs =>
    match s.insertFileChunks r g cs with
    | .ok (s', _) => s'
    | .error _ => s
  | .commit r g c => (s.commitSnapshot r g c).1
  | .fail r g e => s.markFailed r g e

/-- `repo`'s open pass after an operation: a start opens one at the generation it returns, a
commit or a failure of `repo` closes it. -/
def openPass (s : ChunkStore) (repo : String) (pass : Option Int) : PassOp → Option Int
  | .begin r => if r = repo then some (s.beginPass r).2 else pass
  | .insert .. => pass
  | .commit r .. | .fail r .. => if r = repo then none else pass

end ChunkStore

/-- The stores a disciplined run reaches from an empty store of vector width `dims`, with the
generation of `repo`'s open pass. -/
inductive PassRun (dims : Nat) (repo : String) : ChunkStore → Option Int → Prop
  | empty : PassRun dims repo (ChunkStore.empty dims) none
  | step {s : ChunkStore} {pass : Option Int} (op : PassOp) :
      PassRun dims repo s pass → op.Allowed repo pass →
      PassRun dims repo (s.perform op) (s.openPass repo pass op)

namespace ChunkStore

variable {s : ChunkStore} {repo : String}

/-! ### What one operation does to a repository -/

theorem perform_insert_ok {r : String} {g : Int} {cs : List EmbeddedChunk} {s' : ChunkStore} {n : Nat}
    (h : s.insertFileChunks r g cs = .ok (s', n)) : s.perform (.insert r g cs) = s' := by
  simp [perform, h]

theorem perform_insert_error {r : String} {g : Int} {cs : List EmbeddedChunk} {msg : String}
    (h : s.insertFileChunks r g cs = .error msg) : s.perform (.insert r g cs) = s := by
  simp [perform, h]

theorem insert_frame {r : String} {g : Int} {cs : List EmbeddedChunk} :
    (s.perform (.insert r g cs)).record? repo = s.record? repo ∧
    ∀ g', (repo ≠ r ∨ g' ≠ g) → (s.perform (.insert r g cs)).snapshot repo g' = s.snapshot repo g' := by
  cases h : s.insertFileChunks r g cs with
  | error msg => simp [perform_insert_error h]
  | ok result =>
    obtain ⟨s', n⟩ := result
    obtain ⟨added, rfl, -, -, stamped, -⟩ := insertAll_ok h
    rw [perform_insert_ok h]
    refine ⟨rfl, fun g' other => ?_⟩
    simp only [snapshot, List.filter_append, List.append_right_eq_self, List.filter_eq_nil_iff]
    intro row mem
    obtain ⟨owner, gen, -⟩ := stamped row mem
    rcases other with other | other <;> simp [owner, gen, Ne.symm other]

theorem generation_of_record? {r : RepositoryRecord} (h : s.record? repo = some r) :
    s.generation repo = r.currentGeneration := by
  simp [generation, recordOf_of_record? h]

theorem perform_other {op : PassOp} (other : op.repository ≠ repo) :
    (s.perform op).record? repo = s.record? repo ∧
    ∀ g, (s.perform op).snapshot repo g = s.snapshot repo g := by
  cases op with
  | begin r =>
    have ne : repo ≠ r := Ne.symm other
    exact ⟨by simp [perform, record?_beginPass, ne], fun g => by simp [perform, snapshot_beginPass, ne]⟩
  | insert r g cs => exact ⟨insert_frame.1, fun g' => insert_frame.2 g' (.inl (Ne.symm other))⟩
  | commit r g c =>
    have ne : repo ≠ r := Ne.symm other
    exact ⟨by simp [perform, record?_commitSnapshot, ne],
      fun g' => by simp [perform, snapshot_commitSnapshot, ne]⟩
  | fail r g e =>
    have ne : repo ≠ r := Ne.symm other
    exact ⟨by simp [perform, record?_markFailed, ne], fun g' => by simp [perform, snapshot_markFailed, ne]⟩

theorem generation_perform_other {op : PassOp} (other : op.repository ≠ repo) :
    (s.perform op).generation repo = s.generation repo := by
  simp [generation, recordOf, (perform_other other).1]

theorem recordOf_perform_begin :
    (s.perform (.begin repo)).recordOf repo =
      { s.recordOf repo with state := .indexing, lastError := none } := by
  simp [perform, recordOf, record?_beginPass]

theorem generation_perform_begin : (s.perform (.begin repo)).generation repo = s.generation repo := by
  simp [generation, recordOf_perform_begin]

theorem snapshot_perform_begin (g : Int) :
    (s.perform (.begin repo)).snapshot repo g =
      if g ≠ s.generation repo then [] else s.snapshot repo g := by
  simp [perform, snapshot_beginPass]

theorem recordOf_perform_insert {g : Int} {cs : List EmbeddedChunk} :
    (s.perform (.insert repo g cs)).recordOf repo = s.recordOf repo := by
  simp [recordOf, insert_frame.1]

theorem recordOf_perform_commit {r : RepositoryRecord} {g : Int} {c : String}
    (found : s.record? repo = some r) :
    (s.perform (.commit repo g c)).recordOf repo =
      { r with currentGeneration := g, lastCommit := some c, indexedAt := some s.commits,
               totalChunks := (s.snapshot repo g).length, state := .indexed, lastError := none } := by
  simp [perform, recordOf, record?_commitSnapshot, found]

theorem snapshot_perform_commit {g : Int} {c : String} (g' : Int) :
    (s.perform (.commit repo g c)).snapshot repo g' = if g' ≠ g then [] else s.snapshot repo g' := by
  simp [perform, snapshot_commitSnapshot]

theorem recordOf_perform_fail {r : RepositoryRecord} {g : Int} {e : String}
    (found : s.record? repo = some r) :
    (s.perform (.fail repo g e)).recordOf repo = { r with state := .failed, lastError := some e } := by
  simp [perform, recordOf, record?_markFailed, found]

theorem stats?_totalChunks {r : RepositoryRecord} (found : s.record? repo = some r)
    (positive : 0 < r.currentGeneration) :
    (s.stats? repo).map IndexStats.totalChunks = some (s.snapshot repo r.currentGeneration).length := by
  simp [stats?, found, RepositoryRecord.hasSnapshot, positive]

theorem snapshot_perform_fail {g : Int} {e : String} (g' : Int) :
    (s.perform (.fail repo g e)).snapshot repo g' = if g' = g then [] else s.snapshot repo g' := by
  simp [perform, snapshot_markFailed]

end ChunkStore

/-! ### The invariant -/

/-- What the discipline keeps true of `repo` in a store where `repo`'s open pass is `pass`. -/
structure PassInvariant (repo : String) (s : ChunkStore) (pass : Option Int) : Prop where
  /-- Only the current generation and the open pass's hold chunks. -/
  settled : ∀ g, g ≠ s.generation repo → pass ≠ some g → s.snapshot repo g = []
  /-- An open pass writes the generation after the current one, while the record says so. -/
  opened : ∀ g, pass = some g → g = s.generation repo + 1 ∧ (s.recordOf repo).state = .indexing
  /-- A committed generation has its commit, time and count recorded. -/
  committed : 0 < s.generation repo → (s.recordOf repo).lastCommit.isSome ∧
    (s.recordOf repo).indexedAt.isSome ∧
    (s.recordOf repo).totalChunks = (s.snapshot repo (s.generation repo)).length

namespace PassInvariant

open ChunkStore

variable {s : ChunkStore} {repo : String} {pass : Option Int}

theorem empty (dims : Nat) : PassInvariant repo (ChunkStore.empty dims) none where
  settled _ _ _ := rfl
  opened _ h := by cases h
  committed h := by simp [generation, recordOf, record?, ChunkStore.empty] at h

theorem record_of_open (inv : PassInvariant repo s pass) {g : Int} (h : pass = some g) :
    ∃ r, s.record? repo = some r ∧ r.state = .indexing ∧ g = r.currentGeneration + 1 := by
  obtain ⟨next, indexing⟩ := inv.opened g h
  obtain ⟨r, found, state⟩ := record?_of_state indexing (by decide)
  exact ⟨r, found, state, by rw [next, generation_of_record? found]⟩

theorem other (inv : PassInvariant repo s pass) {op : PassOp} (other : op.repository ≠ repo) :
    PassInvariant repo (s.perform op) pass := by
  obtain ⟨record, rows⟩ := perform_other (s := s) other
  have sameRecord : (s.perform op).recordOf repo = s.recordOf repo := by simp [recordOf, record]
  have sameGeneration : (s.perform op).generation repo = s.generation repo := by
    simp [generation, sameRecord]
  refine ⟨?_, ?_, ?_⟩
  · simpa only [sameGeneration, rows] using inv.settled
  · simpa only [sameGeneration, sameRecord] using inv.opened
  · simpa only [sameGeneration, sameRecord, rows] using inv.committed

theorem begin (inv : PassInvariant repo s pass) :
    PassInvariant repo (s.perform (.begin repo)) (some (s.generation repo + 1)) := by
  refine ⟨fun g stale _ => ?_, fun g h => ?_, fun positive => ?_⟩
  · rw [generation_perform_begin] at stale
    simp [snapshot_perform_begin, stale]
  · cases h
    exact ⟨by rw [generation_perform_begin], by simp [recordOf_perform_begin]⟩
  · rw [generation_perform_begin] at positive ⊢
    simpa [recordOf_perform_begin, snapshot_perform_begin] using inv.committed positive

theorem insert (inv : PassInvariant repo s pass) {g : Int} (cs : List EmbeddedChunk)
    (allowed : pass = some g) : PassInvariant repo (s.perform (.insert repo g cs)) pass := by
  have rows : ∀ g', (repo ≠ repo ∨ g' ≠ g) →
      (s.perform (.insert repo g cs)).snapshot repo g' = s.snapshot repo g' := insert_frame.2
  have sameGeneration : (s.perform (.insert repo g cs)).generation repo = s.generation repo := by
    simp [generation, recordOf_perform_insert]
  have next := (inv.opened g allowed).1
  refine ⟨fun g' stale closed => ?_, ?_, fun positive => ?_⟩
  · have other : g' ≠ g := fun same => closed (same ▸ allowed)
    rw [sameGeneration] at stale
    rw [rows g' (.inr other)]
    exact inv.settled g' stale closed
  · simpa only [sameGeneration, recordOf_perform_insert] using inv.opened
  · rw [sameGeneration] at positive ⊢
    rw [recordOf_perform_insert, rows _ (.inr (by omega))]
    exact inv.committed positive

theorem commit (inv : PassInvariant repo s pass) {g : Int} (c : String) (allowed : pass = some g) :
    PassInvariant repo (s.perform (.commit repo g c)) none ∧
      (s.perform (.commit repo g c)).generation repo = s.generation repo + 1 := by
  obtain ⟨r, found, -, next⟩ := inv.record_of_open allowed
  have moved : (s.perform (.commit repo g c)).generation repo = g := by
    simp [generation, recordOf_perform_commit found]
  refine ⟨⟨fun g' stale _ => ?_, (fun _ h => by cases h), fun _ => ?_⟩, ?_⟩
  · rw [moved] at stale
    simp [snapshot_perform_commit, stale]
  · simp [recordOf_perform_commit found, moved, snapshot_perform_commit]
  · rw [moved, next, generation_of_record? found]

theorem fail (inv : PassInvariant repo s pass) {g : Int} (e : String) (allowed : pass = some g) :
    PassInvariant repo (s.perform (.fail repo g e)) none ∧
      (s.perform (.fail repo g e)).generation repo = s.generation repo := by
  obtain ⟨r, found, -, next⟩ := inv.record_of_open allowed
  have kept : (s.perform (.fail repo g e)).generation repo = s.generation repo := by
    simp [generation, recordOf_perform_fail found, recordOf_of_record? found]
  have current : s.generation repo ≠ g := by rw [generation_of_record? found]; omega
  refine ⟨⟨fun g' stale _ => ?_, (fun _ h => by cases h), fun positive => ?_⟩, kept⟩
  · rw [kept] at stale
    by_cases dropped : g' = g
    · simp [snapshot_perform_fail, dropped]
    · rw [snapshot_perform_fail, if_neg dropped]
      exact inv.settled g' stale (by rw [allowed]; exact fun same => dropped (Option.some.inj same).symm)
  · rw [kept] at positive ⊢
    have recorded := inv.committed positive
    rw [recordOf_of_record? found] at recorded
    simpa [recordOf_perform_fail found, snapshot_perform_fail, current] using recorded

/-- Every allowed operation keeps the invariant, and moves `repo`'s generation by one exactly
when it commits `repo`. -/
theorem step (inv : PassInvariant repo s pass) {op : PassOp} (allowed : op.Allowed repo pass) :
    PassInvariant repo (s.perform op) (s.openPass repo pass op) ∧
      (s.perform op).generation repo = s.generation repo + if op.commits repo then 1 else 0 := by
  by_cases mine : op.repository = repo
  · cases op with
    | begin r =>
      obtain rfl : r = repo := mine
      have opened : s.openPass r pass (.begin r) = some (s.generation r + 1) := by
        simp [openPass, snd_beginPass]
      exact ⟨opened ▸ inv.begin, by simp [PassOp.commits, generation_perform_begin]⟩
    | insert r g cs =>
      obtain rfl : r = repo := mine
      exact ⟨inv.insert cs (allowed rfl), by
        simp [PassOp.commits, generation, recordOf_perform_insert]⟩
    | commit r g c =>
      obtain rfl : r = repo := mine
      obtain ⟨kept, moved⟩ := inv.commit c (allowed rfl)
      exact ⟨by simpa [openPass] using kept, by simpa [PassOp.commits] using moved⟩
    | fail r g e =>
      obtain rfl : r = repo := mine
      obtain ⟨kept, same⟩ := inv.fail e (allowed rfl)
      exact ⟨by simpa [openPass] using kept, by simpa [PassOp.commits] using same⟩
  · have unchanged : s.openPass repo pass op = pass := by
      cases op <;> simp_all [openPass, PassOp.repository]
    have notMine : op.commits repo = false := by
      cases op <;> simp_all [PassOp.commits, PassOp.repository]
    rw [unchanged, notMine]
    exact ⟨inv.other mine, by simpa using generation_perform_other mine⟩

end PassInvariant

theorem PassRun.invariant {dims : Nat} {repo : String} {s : ChunkStore} {pass : Option Int}
    (run : PassRun dims repo s pass) : PassInvariant repo s pass := by
  induction run with
  | empty => exact PassInvariant.empty dims
  | step op _ allowed inv => exact (inv.step allowed).1

/-- What a disciplined run guarantees about `repo`: its chunks belong to two generations at
most, those of the next generation only while it is being indexed; a committed generation has
its commit, time and chunk count recorded, and the statistics agree; the generation moves at a
commit of `repo`, by one, and at no other operation. -/
structure GenerationsAgree (repo : String) (s : ChunkStore) (pass : Option Int) : Prop where
  two_generations : ∀ r ∈ s.rows, r.repository = repo →
    r.generation = s.generation repo ∨ r.generation = s.generation repo + 1
  next_while_indexing : ∀ r ∈ s.rows, r.repository = repo →
    r.generation = s.generation repo + 1 → (s.recordOf repo).state = .indexing
  committed_recorded : 0 < s.generation repo →
    (s.recordOf repo).lastCommit.isSome ∧ (s.recordOf repo).indexedAt.isSome ∧
    (s.recordOf repo).totalChunks = (s.snapshot repo (s.generation repo)).length ∧
    (s.stats? repo).map IndexStats.totalChunks = some (s.recordOf repo).totalChunks
  moves_at_commit : ∀ op : PassOp, op.Allowed repo pass →
    (s.perform op).generation repo = s.generation repo + if op.commits repo then 1 else 0

theorem pass_discipline_invariant {dims : Nat} {repo : String} {s : ChunkStore} {pass : Option Int}
    (run : PassRun dims repo s pass) : GenerationsAgree repo s pass := by
  have inv := run.invariant
  -- a chunk of `repo` outside the current generation keeps its generation's chunks non-empty,
  -- so by `settled` it is the open pass's, which `opened` places right after the current one
  have open_of_row : ∀ r ∈ s.rows, r.repository = repo → r.generation ≠ s.generation repo →
      r.generation = s.generation repo + 1 ∧ (s.recordOf repo).state = .indexing := by
    intro r mem owner stale
    have held : r ∈ s.snapshot repo r.generation := ChunkStore.mem_snapshot.mpr ⟨mem, owner, rfl⟩
    by_cases isOpen : pass = some r.generation
    · exact inv.opened _ isOpen
    · rw [inv.settled _ stale isOpen] at held
      cases held
  refine ⟨fun r mem owner => ?_, fun r mem owner next => ?_, fun positive => ?_,
    fun op allowed => (inv.step allowed).2⟩
  · by_cases current : r.generation = s.generation repo
    · exact .inl current
    · exact .inr (open_of_row r mem owner current).1
  · exact (open_of_row r mem owner (by omega)).2
  · obtain ⟨commit, time, count⟩ := inv.committed positive
    refine ⟨commit, time, count, ?_⟩
    cases found : s.record? repo with
    | none => simp [ChunkStore.generation, ChunkStore.recordOf, found] at positive
    | some record =>
      rw [ChunkStore.generation_of_record? found] at count positive
      rw [ChunkStore.stats?_totalChunks found positive, count]

/-- A pass of `acme/site` committed at generation 1, then a second pass begun and left open. -/
theorem committed_then_reopened :
    GenerationsAgree "acme/site"
      ((((ChunkStore.empty 4).perform (.begin "acme/site")).perform
        (.commit "acme/site" 1 "c1")).perform (.begin "acme/site")) (some 2) :=
  pass_discipline_invariant
    (.step (.begin "acme/site")
      (.step (.commit "acme/site" 1 "c1") (.step (.begin "acme/site") .empty trivial)
        (fun _ => by decide))
      trivial)

end RepoSearch.Store
