import RepoSearch.Proofs.Index.Committed
import RepoSearch.Proofs.Index.FailedPass
/-! When a repository needs a pass, over the fixed provider. A repository is up to date when it
has a committed snapshot and the provider, asked now, reports the commit that snapshot was taken
at. Asking whether a pass is needed answers exactly that, in every state an indexer reaches from
an empty store, whatever calls were made and however the provider's repositories changed. So
`ensureIndexed` leaves an up-to-date repository alone and gives any other a pass, with its
fetch. A pass that commits makes its repository up to date for as long as the provider serves it
at the same commit: later passes, failed or not, calls for other repositories and edits of the
trees keep it so.

Main statement: `freshness_contract`. -/
namespace RepoSearch.Source.MockSource

variable {s : MockSource} {repo gitRef : String}

/-- The commit the provider holds for a repository it knows, served or not. -/
def commitOf (s : MockSource) (repo : String) : Option String :=
  (s.repositories.find? (fun r => r.name == repo)).map MockRepository.commit

@[simp] theorem currentCommit_fst : (s.currentCommit repo gitRef).1 = s := rfl

@[simp] theorem wait_zero : s.wait 0 = s := rfl

@[simp] theorem repositories_wait (ms : Nat) : (s.wait ms).repositories = s.repositories := rfl

@[simp] theorem fetches_wait (ms : Nat) : (s.wait ms).fetches = s.fetches := rfl

@[simp] theorem repositories_fetchTree : (s.fetchTree repo gitRef).1.repositories = s.repositories :=
  rfl

@[simp] theorem fetches_fetchTree : (s.fetchTree repo gitRef).1.fetches = s.fetches + 1 := rfl

theorem commitOf_congr {t : MockSource} (same : t.repositories = s.repositories) :
    t.commitOf repo = s.commitOf repo := by
  simp [commitOf, same]

theorem commitOf_of_currentCommit {c : String} (h : (s.currentCommit repo gitRef).2 = .ok c) :
    s.commitOf repo = some c := by
  simp only [currentCommit, entry] at h
  split at h
  · cases h
  · next r found =>
    split at h
    · cases h
    · cases h
      simp [commitOf, found]

theorem commitOf_of_fetchTree {checkout : Checkout} (h : (s.fetchTree repo gitRef).2 = .ok checkout) :
    s.commitOf repo = some checkout.commit := by
  simp only [fetchTree, entry] at h
  split at h
  · cases h
  · next r found =>
    split at h
    · cases h
    · cases h
      simp [commitOf, found]

theorem commitOf_update {name : String} {f : MockRepository → MockRepository}
    (keepsName : ∀ r, (f r).name = r.name) (keepsCommit : repo = name → ∀ r, (f r).commit = r.commit) :
    (s.update name f).commitOf repo = s.commitOf repo := by
  have sameTest : ((fun r => r.name == repo) ∘ fun r => if r.name == name then f r else r) =
      fun r => r.name == repo := by
    funext r
    simp only [Function.comp_apply]
    split <;> simp [keepsName]
  simp only [commitOf, update, List.find?_map, sameTest, Option.map_map]
  cases found : s.repositories.find? (fun r => r.name == repo) with
  | none => rfl
  | some r =>
    have named : r.name = repo := by simpa using List.find?_some found
    by_cases changed : r.name = name
    · simp [changed, keepsCommit (named.symm.trans changed)]
    · simp [changed]

end RepoSearch.Source.MockSource

namespace RepoSearch.Index

open RepoSearch.Files RepoSearch.Source RepoSearch.Store

/-! ### What a pass does to the records, over any provider -/

namespace Indexer

variable {σ : Type} [SourceProvider σ] {ix : Indexer σ} {rt : Runtime} {repo gitRef : String}

theorem runPass_record_other {name : String} (other : name ≠ repo) :
    (ix.runPass rt repo gitRef).1.store.record? name = ix.store.record? name := by
  have begun : (ix.store.beginPass repo).1.record? name = ix.store.record? name := by
    simp [ChunkStore.record?_beginPass, other]
  rcases passed : ix.runPass rt repo gitRef with ⟨ix', _ | report⟩
  · rcases runPass_error passed with ⟨-, -, -, rfl⟩ | ⟨-, ix₂, written, rfl⟩
    · rfl
    · have wrote := (writeSnapshot_error written).records name
      simp only [failPass]
      split
      · exact wrote.trans begun
      · simp [ChunkStore.record?_markFailed, other, wrote, begun]
  · have ok : (ix.runPass rt repo gitRef).2 = .ok report := by rw [passed]
    obtain ⟨checkout, fetched, -⟩ := runPass_ok_fetched ok
    obtain ⟨-, pass⟩ := runPass_of_ok ok
    have wrote : ((ix.begun repo).writeSnapshot rt repo gitRef (ix.store.beginPass repo).2).2 = .ok report := by
      rw [← pass, passed]
    have fetchedBegun : (SourceProvider.fetchTree (ix.begun repo).source repo gitRef).2 = .ok checkout :=
      fetched
    obtain ⟨written, stored, records, -⟩ := writeSnapshot_ok fetchedBegun wrote
    have after : ix'.store = (written.commitSnapshot repo (ix.store.beginPass repo).2 checkout.commit).1 := by
      rw [← stored, ← pass, passed]
    simp [after, ChunkStore.record?_commitSnapshot, other, records name, begun]

/-- What a pass that commits leaves in its repository's record: the next generation, taken at
the fetched commit. -/
theorem runPass_ok_record {report : IndexReport} {checkout : Checkout}
    (fetched : (SourceProvider.fetchTree ix.source repo gitRef).2 = .ok checkout)
    (h : (ix.runPass rt repo gitRef).2 = .ok report) :
    (ix.runPass rt repo gitRef).1.store.generation repo = ix.store.generation repo + 1 ∧
      ((ix.runPass rt repo gitRef).1.store.recordOf repo).lastCommit = some checkout.commit := by
  obtain ⟨written, stored, record, -⟩ := runPass_ok fetched h
  have after := ChunkStore.recordOf_perform_commit (g := ix.store.generation repo + 1)
    (c := checkout.commit) record
  have committed : (ix.runPass rt repo gitRef).1.store =
      written.perform (.commit repo (ix.store.generation repo + 1) checkout.commit) := stored
  rw [committed]
  exact ⟨congrArg RepositoryRecord.currentGeneration after, congrArg RepositoryRecord.lastCommit after⟩

theorem runPass_error_record {ix' : Indexer σ} {e : IndexError}
    (h : ix.runPass rt repo gitRef = (ix', .error e)) :
    ix'.store.generation repo = ix.store.generation repo ∧
      (ix'.store.recordOf repo).lastCommit = (ix.store.recordOf repo).lastCommit :=
  have outcome := runPass_failed h
  ⟨outcome.generation_kept, outcome.commit_kept⟩

end Indexer

/-! ### Asking, over the fixed provider -/

theorem ChunkStore.record?_of_generation_pos {s : ChunkStore} {name : String}
    (h : 0 < s.generation name) : ∃ r, s.record? name = some r ∧ r.hasSnapshot = true := by
  cases found : s.record? name with
  | none => simp [ChunkStore.generation, ChunkStore.recordOf, found] at h
  | some r =>
    rw [ChunkStore.generation_of_record? found] at h
    exact ⟨r, rfl, by simpa [RepositoryRecord.hasSnapshot] using h⟩

/-- `repo` has a committed snapshot whose commit the provider reports for it now: the provider
serves the repository at the commit the snapshot was taken at. -/
def UpToDate (ix : Indexer MockSource) (repo gitRef : String) : Prop :=
  ∃ r c, ix.store.record? repo = some r ∧ r.hasSnapshot = true ∧ r.lastCommit = some c ∧
    (ix.source.currentCommit repo gitRef).2 = .ok c

namespace Indexer

variable {ix : Indexer MockSource} {repo gitRef : String}

@[simp] theorem needsUpdate_fst : (ix.needsUpdate repo gitRef).1 = ix := by
  simp only [needsUpdate, movedFrom]
  split
  · rfl
  · rcases asked : ix.callSource repo gitRef 0 (fun s => SourceProvider.currentCommit s repo gitRef)
      with ⟨ix₁, _ | current⟩ <;> rw [eq_of_callSource asked] <;> rfl

theorem needsUpdate_eq_false_iff :
    (ix.needsUpdate repo gitRef).2 = false ↔ 0 < ix.config.fetchTimeoutMs ∧ UpToDate ix repo gitRef := by
  simp only [needsUpdate, movedFrom, UpToDate]
  split
  · next unknown =>
    simp only [Bool.true_eq_false, false_iff, not_and, not_exists]
    intro _ r c found snapshot commit _
    simp [indexedCommit, found, snapshot, commit] at unknown
  · next indexed known =>
    obtain ⟨r, found, picked⟩ := Option.bind_eq_some_iff.mp known
    have snapshot : r.hasSnapshot = true := by
      by_contra no
      simp [no] at picked
    have commit : r.lastCommit = some indexed := by simpa [snapshot] using picked
    simp only [callSource]
    by_cases late : ix.config.fetchTimeoutMs ≤ 0
    · simp only [late, if_true, Bool.true_eq_false, false_iff, not_and]
      omega
    · have inTime : 0 < ix.config.fetchTimeoutMs := by omega
      simp only [late, if_false, inTime, true_and]
      cases answer : (ix.source.currentCommit repo gitRef).2 with
      | error e =>
        simp only [Bool.true_eq_false, false_iff, not_exists, not_and]
        intro r' c found' _ _ served
        cases served
      | ok current =>
        simp only [bne_eq_false_iff_eq, Except.ok.injEq]
        constructor
        · rintro rfl
          exact ⟨r, current, found, snapshot, commit, rfl⟩
        · rintro ⟨r', c, found', -, commit', served⟩
          rw [found] at found'
          cases found'
          rw [commit] at commit'
          cases commit'
          exact served

theorem ensureIndexed_of_current (h : (ix.needsUpdate repo gitRef).2 = false) :
    ix.ensureIndexed repo gitRef = (ix, .ok none) := by
  rw [ensureIndexed_of_needsUpdate (Prod.ext needsUpdate_fst h), if_neg Bool.false_ne_true]

theorem ensureIndexed_of_stale (h : (ix.needsUpdate repo gitRef).2 = true) :
    ix.ensureIndexed repo gitRef =
      ((ix.runPass .serial repo gitRef).1, (ix.runPass .serial repo gitRef).2.map some) := by
  rw [ensureIndexed_of_needsUpdate (Prod.ext needsUpdate_fst h), if_pos rfl]
  rfl

theorem runPass_fetches {rt : Runtime} :
    (rt.storeFault .beginPass = none →
      (ix.runPass rt repo gitRef).1.source.fetches = ix.source.fetches + 1) ∧
      (ix.runPass rt repo gitRef).1.source.repositories = ix.source.repositories := by
  cases began : rt.storeFault .beginPass with
  | none =>
    rw [runPass_source began]
    exact ⟨fun _ => rfl, rfl⟩
  | some msg =>
    have refused : (ix.runPass rt repo gitRef).1 = ix := by simp [runPass, began]
    rw [refused]
    exact ⟨fun h => absurd h (Option.some_ne_none msg), rfl⟩

end Indexer

/-! ### Runs over the fixed provider -/

/-- What can happen to an indexer over the fixed provider: its calls, and the provider's
repositories changing under it. -/
inductive Event where
  | index (repository gitRef : String)
  | ensureIndexed (repository gitRef : String)
  | needsUpdate (repository gitRef : String)
  /-- A new commit lands on a repository. -/
  | setCommit (repository commit : String)
  | setUnavailable (repository : String) (unavailable : Bool)
  /-- The files of a repository's tree change. -/
  | editTree (repository : String) (edit : FileTree → FileTree)

/-- Whether an event moves the commit of `repo`. -/
def Event.movesCommit (repo : String) : Event → Bool
  | setCommit r _ => r == repo
  | _ => false

/-- The indexer after an event. -/
def Indexer.perform (ix : Indexer MockSource) : Event → Indexer MockSource
  | .index r g => (ix.index r g).1
  | .ensureIndexed r g => (ix.ensureIndexed r g).1
  | .needsUpdate r g => (ix.needsUpdate r g).1
  | .setCommit r c => { ix with source := ix.source.setCommit r c }
  | .setUnavailable r u => { ix with source := ix.source.setUnavailable r u }
  | .editTree r edit => { ix with source := ix.source.update r (fun e => { e with tree := edit e.tree }) }

/-- The indexers over the fixed provider that one starting from an empty store reaches. -/
inductive Reachable : Indexer MockSource → Prop
  | fresh (ix : Indexer MockSource) (dims : Nat) : Reachable { ix with store := ChunkStore.empty dims }
  | step {ix : Indexer MockSource} (e : Event) : Reachable ix → Reachable (ix.perform e)

/-- What an indexer reached from an empty store keeps: no generation is negative, and a
repository has a committed snapshot only if fetches can end before the deadline. -/
structure Sound (ix : Indexer MockSource) : Prop where
  generation_nonneg : ∀ repo, 0 ≤ ix.store.generation repo
  deadline_of_snapshot : ∀ repo, 0 < ix.store.generation repo → 0 < ix.config.fetchTimeoutMs

namespace Sound

variable {ix : Indexer MockSource}

theorem fresh (ix : Indexer MockSource) (dims : Nat) :
    Sound { ix with store := ChunkStore.empty dims } where
  generation_nonneg _ := by simp [ChunkStore.generation, ChunkStore.recordOf, ChunkStore.record?, ChunkStore.empty]
  deadline_of_snapshot _ h := by
    simp [ChunkStore.generation, ChunkStore.recordOf, ChunkStore.record?, ChunkStore.empty] at h

theorem of_store {ix' : Indexer MockSource} (sound : Sound ix) (config : ix'.config = ix.config)
    (generations : ∀ repo, ix'.store.generation repo = ix.store.generation repo) : Sound ix' where
  generation_nonneg repo := generations repo ▸ sound.generation_nonneg repo
  deadline_of_snapshot repo h := config ▸ sound.deadline_of_snapshot repo (generations repo ▸ h)

theorem runPass (sound : Sound ix) (rt : Runtime) (repo gitRef : String) : Sound (ix.runPass rt repo gitRef).1 := by
  have config : (ix.runPass rt repo gitRef).1.config = ix.config := Indexer.runPass_config
  have others : ∀ name, name ≠ repo →
      (ix.runPass rt repo gitRef).1.store.generation name = ix.store.generation name := by
    intro name other
    simp [ChunkStore.generation, ChunkStore.recordOf, Indexer.runPass_record_other other]
  rcases passed : (ix.runPass rt repo gitRef).2 with e | report
  · have kept := (Indexer.runPass_error_record (Prod.ext rfl passed)).1
    refine sound.of_store config fun name => ?_
    by_cases mine : name = repo
    · subst mine
      exact kept
    · exact others name mine
  · obtain ⟨checkout, fetched, inTime⟩ := Indexer.runPass_ok_fetched passed
    have moved := (Indexer.runPass_ok_record fetched passed).1
    refine ⟨fun name => ?_, fun name positive => ?_⟩
    · by_cases mine : name = repo
      · subst mine
        have := sound.generation_nonneg name
        omega
      · rw [others name mine]
        exact sound.generation_nonneg name
    · rw [config]
      omega

theorem perform (sound : Sound ix) (e : Event) : Sound (ix.perform e) := by
  cases e with
  | index r g => exact sound.runPass .serial r g
  | ensureIndexed r g =>
    cases asked : (ix.needsUpdate r g).2 with
    | false =>
      simp only [Indexer.perform, Indexer.ensureIndexed_of_current asked]
      exact sound
    | true =>
      simp only [Indexer.perform, Indexer.ensureIndexed_of_stale asked]
      exact sound.runPass .serial r g
  | needsUpdate r g => simpa [Indexer.perform] using sound
  | setCommit r c => exact sound.of_store rfl fun _ => rfl
  | setUnavailable r u => exact sound.of_store rfl fun _ => rfl
  | editTree r edit => exact sound.of_store rfl fun _ => rfl

end Sound

theorem Reachable.sound {ix : Indexer MockSource} (reach : Reachable ix) : Sound ix := by
  induction reach with
  | fresh ix dims => exact Sound.fresh ix dims
  | step e _ sound => exact sound.perform e

theorem Sound.needsUpdate_eq_false_iff {ix : Indexer MockSource} (sound : Sound ix) (repo gitRef : String) :
    (ix.needsUpdate repo gitRef).2 = false ↔ UpToDate ix repo gitRef := by
  rw [Indexer.needsUpdate_eq_false_iff]
  refine ⟨fun ⟨_, current⟩ => current, fun current => ⟨?_, current⟩⟩
  obtain ⟨r, c, found, snapshot, -, -⟩ := current
  apply sound.deadline_of_snapshot repo
  rw [ChunkStore.generation_of_record? found]
  simpa [RepositoryRecord.hasSnapshot] using snapshot

/-! ### Staying up to date -/

/-- `repo` has a committed snapshot of the commit `c`, and the provider still holds `c` for it. -/
structure HoldsCommit (ix : Indexer MockSource) (repo c : String) : Prop where
  sound : Sound ix
  snapshot : 0 < ix.store.generation repo
  commit : (ix.store.recordOf repo).lastCommit = some c
  provider : ix.source.commitOf repo = some c

namespace HoldsCommit

variable {ix : Indexer MockSource} {repo c : String}

theorem needsUpdate_eq_false_iff (holds : HoldsCommit ix repo c) (gitRef : String) :
    (ix.needsUpdate repo gitRef).2 = false ↔ ∃ c', (ix.source.currentCommit repo gitRef).2 = .ok c' := by
  have inTime := holds.sound.deadline_of_snapshot repo holds.snapshot
  rw [Indexer.needsUpdate_eq_false_iff]
  constructor
  · rintro ⟨-, r, c', -, -, -, served⟩
    exact ⟨c', served⟩
  · rintro ⟨c', served⟩
    have same : c' = c := by
      have held := MockSource.commitOf_of_currentCommit served
      rw [holds.provider] at held
      exact (Option.some.inj held).symm
    subst same
    obtain ⟨r, found, snapshot⟩ := ChunkStore.record?_of_generation_pos holds.snapshot
    refine ⟨inTime, r, c', found, snapshot, ?_, served⟩
    rw [← ChunkStore.recordOf_of_record? found]
    exact holds.commit

variable {ix : Indexer MockSource} {repo c : String}

/-- A pass, of any repository, keeps the snapshot of `repo` at the commit the provider holds:
a pass of another repository leaves its record, a failed pass keeps it, and a pass that commits
fetched the commit the provider holds. -/
theorem runPass (holds : HoldsCommit ix repo c) (rt : Runtime) (r gitRef : String) :
    HoldsCommit (ix.runPass rt r gitRef).1 repo c := by
  have provider : (ix.runPass rt r gitRef).1.source.commitOf repo = some c := by
    rw [MockSource.commitOf_congr Indexer.runPass_fetches.2]
    exact holds.provider
  by_cases mine : repo = r
  · subst mine
    rcases passed : (ix.runPass rt repo gitRef).2 with e | report
    · obtain ⟨generation, commit⟩ := Indexer.runPass_error_record (Prod.ext rfl passed)
      exact ⟨holds.sound.runPass rt repo gitRef, generation ▸ holds.snapshot,
        commit ▸ holds.commit, provider⟩
    · obtain ⟨checkout, fetched, -⟩ := Indexer.runPass_ok_fetched passed
      obtain ⟨moved, commit⟩ := Indexer.runPass_ok_record fetched passed
      -- the fetch checked out the commit the provider holds, which is `c`
      have same : checkout.commit = c := by
        have held := MockSource.commitOf_of_fetchTree fetched
        rw [holds.provider] at held
        exact (Option.some.inj held).symm
      refine ⟨holds.sound.runPass rt repo gitRef, ?_, same ▸ commit, provider⟩
      have := holds.snapshot
      omega
  · have record : (ix.runPass rt r gitRef).1.store.record? repo = ix.store.record? repo :=
      Indexer.runPass_record_other mine
    have generation : (ix.runPass rt r gitRef).1.store.generation repo = ix.store.generation repo := by
      simp [ChunkStore.generation, ChunkStore.recordOf, record]
    have recordOf : (ix.runPass rt r gitRef).1.store.recordOf repo = ix.store.recordOf repo := by
      simp [ChunkStore.recordOf, record]
    exact ⟨holds.sound.runPass rt r gitRef, generation ▸ holds.snapshot, recordOf ▸ holds.commit, provider⟩

theorem of_source {ix' : Indexer MockSource} (holds : HoldsCommit ix repo c)
    (store : ix'.store = ix.store) (config : ix'.config = ix.config)
    (provider : ix'.source.commitOf repo = ix.source.commitOf repo) : HoldsCommit ix' repo c :=
  ⟨holds.sound.of_store config (fun _ => by rw [store]), store ▸ holds.snapshot, store ▸ holds.commit,
    provider ▸ holds.provider⟩

theorem perform (holds : HoldsCommit ix repo c) {e : Event} (steady : e.movesCommit repo = false) :
    HoldsCommit (ix.perform e) repo c := by
  cases e with
  | index r g => exact holds.runPass .serial r g
  | ensureIndexed r g =>
    cases asked : (ix.needsUpdate r g).2 with
    | false =>
      simp only [Indexer.perform, Indexer.ensureIndexed_of_current asked]
      exact holds
    | true =>
      simp only [Indexer.perform, Indexer.ensureIndexed_of_stale asked]
      exact holds.runPass .serial r g
  | needsUpdate r g => simpa [Indexer.perform] using holds
  | setCommit r c' =>
    have other : repo ≠ r := by
      intro same
      simp [Event.movesCommit, same] at steady
    exact holds.of_source rfl rfl
      (MockSource.commitOf_update (fun _ => rfl) (fun same => absurd same other))
  | setUnavailable r u =>
    exact holds.of_source rfl rfl (MockSource.commitOf_update (fun _ => rfl) (fun _ _ => rfl))
  | editTree r edit =>
    exact holds.of_source rfl rfl (MockSource.commitOf_update (fun _ => rfl) (fun _ _ => rfl))

theorem run (holds : HoldsCommit ix repo c) (events : List Event)
    (steady : ∀ e ∈ events, e.movesCommit repo = false) :
    HoldsCommit (events.foldl Indexer.perform ix) repo c := by
  induction events generalizing ix with
  | nil => exact holds
  | cons e rest ih =>
    exact ih (holds.perform (steady e List.mem_cons_self))
      (fun e' mem => steady e' (List.mem_cons_of_mem e mem))

theorem of_runPass (sound : Sound ix) {rt : Runtime} {report : IndexReport} (h : (ix.runPass rt repo gitRef).2 = .ok report) :
    ∃ c, HoldsCommit (ix.runPass rt repo gitRef).1 repo c := by
  obtain ⟨checkout, fetched, -⟩ := Indexer.runPass_ok_fetched h
  obtain ⟨moved, commit⟩ := Indexer.runPass_ok_record fetched h
  refine ⟨checkout.commit, sound.runPass rt repo gitRef, ?_, commit, ?_⟩
  · have := sound.generation_nonneg repo
    omega
  · rw [MockSource.commitOf_congr Indexer.runPass_fetches.2]
    exact MockSource.commitOf_of_fetchTree fetched

end HoldsCommit

/-- What asking whether `repo` needs a pass means, over the fixed provider. -/
structure FreshnessContract (ix : Indexer MockSource) (repo gitRef : String) : Prop where
  /-- No pass is needed exactly when the repository is up to date. -/
  needsUpdate_iff : (ix.needsUpdate repo gitRef).2 = false ↔ UpToDate ix repo gitRef
  /-- An up-to-date repository is left alone: nothing is fetched or written. -/
  skips_current : UpToDate ix repo gitRef → ix.ensureIndexed repo gitRef = (ix, .ok none)
  /-- Any other gets a pass, and its fetch. -/
  passes_stale : ¬ UpToDate ix repo gitRef →
    ix.ensureIndexed repo gitRef = ((ix.runPass .serial repo gitRef).1, (ix.runPass .serial repo gitRef).2.map some) ∧
      (ix.ensureIndexed repo gitRef).1.source.fetches = ix.source.fetches + 1
  /-- After a pass that commits, whatever happens that does not move the repository's commit
  (passes that fail or commit, calls for other repositories, the repository going offline and
  back, edits of trees), no pass is needed exactly while the provider serves the repository. -/
  stays_current : ∀ (report : IndexReport) (ix₁ : Indexer MockSource),
    (ix.index repo gitRef = (ix₁, .ok report) ∨ ix.ensureIndexed repo gitRef = (ix₁, .ok (some report))) →
    ∀ (events : List Event) (gitRef' : String), (∀ e ∈ events, e.movesCommit repo = false) →
      (((events.foldl Indexer.perform ix₁).needsUpdate repo gitRef').2 = false ↔
        ∃ c, ((events.foldl Indexer.perform ix₁).source.currentCommit repo gitRef').2 = .ok c)

theorem freshness_contract {ix : Indexer MockSource} (reach : Reachable ix) (repo gitRef : String) :
    FreshnessContract ix repo gitRef := by
  have sound := reach.sound
  have asked := sound.needsUpdate_eq_false_iff repo gitRef
  refine ⟨asked, fun current => Indexer.ensureIndexed_of_current (asked.mpr current), ?_, ?_⟩
  · intro stale
    have needed : (ix.needsUpdate repo gitRef).2 = true := by
      cases answer : (ix.needsUpdate repo gitRef).2 with
      | false => exact absurd (asked.mp answer) stale
      | true => rfl
    have passed := Indexer.ensureIndexed_of_stale needed
    exact ⟨passed, by rw [passed]; exact Indexer.runPass_fetches.1 rfl⟩
  · intro report ix₁ committed events gitRef' steady
    have pass : ix₁ = (ix.runPass .serial repo gitRef).1 ∧ (ix.runPass .serial repo gitRef).2 = .ok report := by
      rcases committed with indexed | ensured
      · exact ⟨(congrArg Prod.fst indexed).symm, congrArg Prod.snd indexed⟩
      · cases answer : (ix.needsUpdate repo gitRef).2 with
        | false =>
          rw [Indexer.ensureIndexed_of_current answer] at ensured
          cases ensured
        | true =>
          rw [Indexer.ensureIndexed_of_stale answer] at ensured
          obtain ⟨same, result⟩ := Prod.mk.inj ensured
          refine ⟨same.symm, ?_⟩
          cases passed : (ix.runPass .serial repo gitRef).2 with
          | error e => rw [passed] at result; cases result
          | ok report' =>
            rw [passed] at result
            cases result
            rfl
    obtain ⟨same, ok⟩ := pass
    obtain ⟨c, holds⟩ := HoldsCommit.of_runPass sound ok
    rw [same]
    exact (holds.run events steady).needsUpdate_eq_false_iff gitRef'

/-- A fresh indexer that has indexed `acme/site` once, as any run may start. -/
theorem indexed_once_freshness :
    let ix : Indexer MockSource :=
      { store := ChunkStore.empty 4,
        source := { repositories := [{ name := "acme/site", root := "r", tree := {}, commit := "c1" }] },
        embedder := .hashing 4, config := {}, filter := { extensions := ["txt"], manifests := [], excludedDirs := [], maxFileBytes := 1024 } }
    Reachable (ix.perform (.index "acme/site" "main")) ∧
      FreshnessContract (ix.perform (.index "acme/site" "main")) "acme/site" "main" := by
  intro ix
  have reach : Reachable (ix.perform (.index "acme/site" "main")) := .step _ (.fresh ix 4)
  exact ⟨reach, freshness_contract reach "acme/site" "main"⟩

end RepoSearch.Index
