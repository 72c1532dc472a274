import RepoSearch.Proofs.Index.Pass
import RepoSearch.Source.Mock
/-! A failed index call, as the store sees it. A call that fails before its pass begins (the
freshness check cannot read the record, or the store refuses to begin the pass) changes
nothing. A pass that began writes into its own new generation only; when it fails, the rows its
finished file tasks wrote there stay until the failure is recorded, which drops that generation
with them. Recording the failure is one more store call: when it fails too, the rows stay, in a
generation that is not current.

Main statement, `failed_index_keeps_snapshot`: whenever `indexIn` or `ensureIndexedIn` fails, in
any runtime, the repository's committed snapshot (its generation, that generation's chunks, and
the recorded commit, time and chunk count) is as it was; a call that did not begin its pass
changed nothing; and unless recording the failure failed, the record says the pass failed with
the error's text and the abandoned generation holds no chunk. -/
namespace RepoSearch.Index

open RepoSearch.Source RepoSearch.Store

/-- The committed snapshot of `repo` in `after` is the one in `before`: its generation, that
generation's chunks (and so every table read from them), and the commit, time and chunk count
the record gives for it. -/
structure SnapshotKept (repo : String) (before after : ChunkStore) : Prop where
  generation_kept : after.generation repo = before.generation repo
  chunks_kept :
    after.snapshot repo (before.generation repo) = before.snapshot repo (before.generation repo)
  commit_kept : (after.recordOf repo).lastCommit = (before.recordOf repo).lastCommit
  time_kept : (after.recordOf repo).indexedAt = (before.recordOf repo).indexedAt
  count_kept : (after.recordOf repo).totalChunks = (before.recordOf repo).totalChunks

/-- What a failed call leaves of `repo`, where `start` is the store failure that kept its pass
from beginning, if any, and `marked` the failure of the store call recording the failure. -/
structure FailedPassOutcome (repo : String) (e : IndexError) (start marked : Option String)
    (before after : ChunkStore) : Prop extends SnapshotKept repo before after where
  unstarted : ∀ msg, start = some msg → e = .storage msg ∧ after = before
  marked_failed : start = none → marked = none → (after.recordOf repo).state = .failed
  error_recorded : start = none → marked = none → (after.recordOf repo).lastError = some e.message
  abandoned_dropped :
    start = none → marked = none → after.snapshot repo (before.generation repo + 1) = []

variable {repo : String} {s t : ChunkStore}

namespace SnapshotKept

theorem refl (s : ChunkStore) : SnapshotKept repo s s := ⟨rfl, rfl, rfl, rfl, rfl⟩

theorem of_record {state : IndexState} {lastError : Option String}
    (record : t.record? repo = some { s.recordOf repo with state, lastError })
    (rows : t.snapshot repo (s.generation repo) = s.snapshot repo (s.generation repo)) :
    SnapshotKept repo s t := by
  have found := ChunkStore.recordOf_of_record? record
  exact ⟨by simp [ChunkStore.generation, found], rows, by simp [found], by simp [found], by simp [found]⟩

end SnapshotKept

/-! ### A pass that began -/

theorem failed_rows (msg : String) (g : Int) :
    (t.markFailed repo (s.beginPass repo).2 msg).snapshot repo g =
      if g = s.generation repo + 1 then [] else t.snapshot repo g := by
  rw [ChunkStore.snapshot_markFailed, ChunkStore.snd_beginPass]
  simp

section Begun

variable (wrote : WritesOnly repo (s.beginPass repo).2 (s.beginPass repo).1 t)
include wrote

theorem begun_record : t.record? repo = some { s.recordOf repo with state := .indexing, lastError := none } := by
  rw [wrote.records, ChunkStore.record?_beginPass, if_pos rfl]

theorem begun_current_rows : t.snapshot repo (s.generation repo) = s.snapshot repo (s.generation repo) := by
  have fresh : s.generation repo ≠ (s.beginPass repo).2 := by
    rw [ChunkStore.snd_beginPass]
    omega
  rw [wrote.others repo _ (.inr fresh), ChunkStore.snapshot_beginPass]
  simp

theorem SnapshotKept.of_begun : SnapshotKept repo s t :=
  .of_record (begun_record wrote) (begun_current_rows wrote)

theorem failed_record (msg : String) :
    (t.markFailed repo (s.beginPass repo).2 msg).record? repo =
      some { s.recordOf repo with state := .failed, lastError := some msg } := by
  rw [ChunkStore.record?_markFailed, if_pos rfl, begun_record wrote]
  rfl

theorem SnapshotKept.of_failed (msg : String) :
    SnapshotKept repo s (t.markFailed repo (s.beginPass repo).2 msg) := by
  refine .of_record (failed_record wrote msg) ?_
  rw [failed_rows, if_neg (by omega), begun_current_rows wrote]

end Begun

theorem FailedPassOutcome.refused (s : ChunkStore) (msg : String) (marked : Option String) :
    FailedPassOutcome repo (.storage msg) (some msg) marked s s :=
  have never : some msg ≠ none := Option.some_ne_none msg
  ⟨.refl s, fun _ same => by cases same; exact ⟨rfl, rfl⟩, fun h => absurd h never, fun h => absurd h never,
    fun h => absurd h never⟩

namespace Indexer

variable {σ : Type} [SourceProvider σ] {ix ix' : Indexer σ} {rt : Runtime} {gitRef : String}
  {e : IndexError}

theorem runPass_failed (h : ix.runPass rt repo gitRef = (ix', .error e)) :
    FailedPassOutcome repo e (rt.storeFault .beginPass) (rt.storeFault .markFailed) ix.store ix'.store := by
  rcases runPass_error h with ⟨msg, began, rfl, rfl⟩ | ⟨began, ix₂, written, rfl⟩
  · rw [began]
    exact .refused _ _ _
  · have wrote := writeSnapshot_error written
    rw [began]
    cases marked : rt.storeFault .markFailed with
    | some reason =>
      -- the failure is not recorded: the rows the pass wrote stay in its generation
      have kept : (ix₂.failPass rt repo (ix.store.beginPass repo).2 e).store = ix₂.store := by
        simp [failPass, marked]
      have never : some reason ≠ none := Option.some_ne_none reason
      rw [kept]
      exact ⟨.of_begun wrote, fun _ h => absurd h.symm (Option.some_ne_none _), fun _ h => absurd h never,
        fun _ h => absurd h never, fun _ h => absurd h never⟩
    | none =>
      have recorded : (ix₂.failPass rt repo (ix.store.beginPass repo).2 e).store =
          ix₂.store.markFailed repo (ix.store.beginPass repo).2 e.message := by
        simp [failPass, marked]
      have record := ChunkStore.recordOf_of_record? (failed_record wrote e.message)
      rw [recorded]
      refine ⟨.of_failed wrote e.message, fun _ h => absurd h.symm (Option.some_ne_none _),
        fun _ _ => by simp [record], fun _ _ => by simp [record], fun _ _ => ?_⟩
      rw [failed_rows, if_pos rfl]

theorem ensureIndexedIn_failed (h : ix.ensureIndexedIn rt repo gitRef = (ix', .error e)) :
    FailedPassOutcome repo e ((rt.storeFault .readRecord).or (rt.storeFault .beginPass))
      (rt.storeFault .markFailed) ix.store ix'.store := by
  simp only [ensureIndexedIn] at h
  split at h
  · next msg unread =>
    cases h
    rw [unread]
    exact .refused _ _ _
  · next unread =>
    rw [unread, Option.none_or]
    split at h
    · cases h
    · next ix₀ needed =>
      have same : ix₀.store = ix.store := by
        have stores := congrArg (fun p => p.1.store) needed
        simp only [needsUpdate_store] at stores
        exact stores.symm
      split at h
      · cases h
      · next ix₁ e' failed =>
        cases h
        rw [← same]
        exact runPass_failed failed

end Indexer

theorem failed_index_keeps_snapshot {σ : Type} [SourceProvider σ] (ix : Indexer σ) (rt : Runtime)
    (repo gitRef : String) (e : IndexError) :
    (∀ ix', ix.indexIn rt repo gitRef = (ix', .error e) →
      FailedPassOutcome repo e (rt.storeFault .beginPass) (rt.storeFault .markFailed) ix.store ix'.store) ∧
    (∀ ix', ix.ensureIndexedIn rt repo gitRef = (ix', .error e) →
      FailedPassOutcome repo e ((rt.storeFault .readRecord).or (rt.storeFault .beginPass))
        (rt.storeFault .markFailed) ix.store ix'.store) :=
  ⟨fun _ failed => Indexer.runPass_failed failed, fun _ failed => Indexer.ensureIndexedIn_failed failed⟩

set_option maxRecDepth 20000 in
/-- A repository with a committed pass whose next pass fails at the insert of its second file,
after the first file's rows were written: the committed snapshot stays, and recording the
failure drops the first file's rows. -/
theorem failed_insert_keeps_snapshot :
    let ix : Indexer MockSource :=
      { store := ((ChunkStore.empty 4).perform (.begin "acme/site")).perform (.commit "acme/site" 1 "c0"),
        source := { repositories := [{ name := "acme/site", root := "r", commit := "c1",
                                       tree := ⟨[("a", [120, 10]), ("b", [121, 10])]⟩ }] },
        embedder := .offline 4, config := {}, filter := { extensions := [], manifests := ["a", "b"], excludedDirs := [], maxFileBytes := 1024 } }
    let rt : Runtime := ⟨id, List.Perm.refl,
      fun call => if call = .insert "b" then some "database or disk is full" else none,
      fun _ => none, fun _ => none⟩
    FailedPassOutcome "acme/site" (.storage "database or disk is full") (rt.storeFault .beginPass)
      (rt.storeFault .markFailed) ix.store (ix.indexIn rt "acme/site" "main").1.store :=
  (failed_index_keeps_snapshot _ _ "acme/site" "main" _).1 _ (Prod.ext rfl (by cbv))

set_option maxRecDepth 20000 in
/-- The same pass when recording the failure fails as well: the first file's row stays in the
abandoned generation. -/
example :
    let ix : Indexer MockSource :=
      { store := ((ChunkStore.empty 4).perform (.begin "acme/site")).perform (.commit "acme/site" 1 "c0"),
        source := { repositories := [{ name := "acme/site", root := "r", commit := "c1",
                                       tree := ⟨[("a", [120, 10]), ("b", [121, 10])]⟩ }] },
        embedder := .offline 4, config := {}, filter := { extensions := [], manifests := ["a", "b"], excludedDirs := [], maxFileBytes := 1024 } }
    let rt : Runtime := ⟨id, List.Perm.refl,
      fun call => if call = .insert "b" ∨ call = .markFailed then some "database or disk is full" else none,
      fun _ => none, fun _ => none⟩
    (ix.indexIn rt "acme/site" "main").1.store.chunkIds "acme/site" 2 = ["a:1-1:block"] := by
  cbv

end RepoSearch.Index
