import RepoSearch.Proofs.Index.Locking
/-! Calls of `ensureIndexed` running at once. Against a provider that keeps naming one commit
for the ref and fetches trees at that commit, a call that gets the lock after another call
committed finds the snapshot at that commit and returns without a pass. So the calls of a
repository run one pass between them, one more for each pass that failed, and none when the
repository was up to date; once one of them has returned, some call ran a pass unless the
repository was up to date from the start.

Main statement: `passes_serialized`, which gathers this with what the lock guarantees for any
calls. -/
namespace RepoSearch.Store

theorem PassRun.generation_nonneg {dims : Nat} {repo : String} {s : ChunkStore} {pass : Option Int}
    (run : PassRun dims repo s pass) : 0 ≤ s.generation repo := by
  induction run with
  | empty => simp [ChunkStore.generation, ChunkStore.recordOf, ChunkStore.record?, ChunkStore.empty]
  | step op run allowed ih =>
    have moved := (run.invariant.step allowed).2
    split at moved <;> omega

end RepoSearch.Store

namespace RepoSearch.Index

open RepoSearch.Files RepoSearch.Source RepoSearch.Store

namespace Indexer

variable {σ : Type} [SourceProvider σ] {ix ix' : Indexer σ} {repo gitRef : String}

theorem movedFrom_snd (inTime : 0 < ix.config.fetchTimeoutMs) {current : String} (indexed : String)
    (answered : (SourceProvider.currentCommit ix.source repo gitRef).2 = .ok current) :
    (ix.movedFrom repo gitRef indexed).2 = (current != indexed) := by
  have late : ¬ ix.config.fetchTimeoutMs ≤ 0 := by omega
  simp only [movedFrom, callSource, late, if_false]
  rcases asked : SourceProvider.currentCommit ix.source repo gitRef with ⟨q, result⟩
  rw [asked] at answered
  cases answered
  rfl

omit [SourceProvider σ] in
theorem indexedCommit_of_quiet {op : PassOp} (store : ix'.store = ix.store.perform op)
    (quiet : op.commits repo = false) : ix'.indexedCommit repo = ix.indexedCommit repo := by
  by_cases mine : op.repository = repo
  · cases op with
    | begin r =>
      obtain rfl : r = repo := mine
      simp only [indexedCommit, store, ChunkStore.perform, ChunkStore.record?_beginPass, if_true,
        Option.bind_some]
      cases found : ix.store.record? r with
      | none => simp [ChunkStore.recordOf, found, RepositoryRecord.hasSnapshot]
      | some record => simp [ChunkStore.recordOf_of_record? found, RepositoryRecord.hasSnapshot]
    | insert r g cs => simp only [indexedCommit, store, ChunkStore.insert_frame.1]
    | commit r g c =>
      obtain rfl : r = repo := mine
      simp [PassOp.commits] at quiet
    | fail r g e =>
      obtain rfl : r = repo := mine
      simp only [indexedCommit, store, ChunkStore.perform, ChunkStore.record?_markFailed, if_true]
      cases ix.store.record? r <;> rfl
  · simp only [indexedCommit, store, (ChunkStore.perform_other mine).1]

omit [SourceProvider σ] in
theorem indexedCommit_of_commit {r : RepositoryRecord} {g : Int} {commit : String}
    (found : ix.store.record? repo = some r) (positive : 0 < g)
    (store : ix'.store = ix.store.perform (.commit repo g commit)) :
    ix'.indexedCommit repo = some commit := by
  simp [indexedCommit, store, ChunkStore.perform, ChunkStore.record?_commitSnapshot, found,
    RepositoryRecord.hasSnapshot, positive]

end Indexer

namespace Stage

/-- Whether a call at this stage is about to start a pass, runs one, or has committed one. -/
def live : Stage → Bool
  | starting | fetching _ | writing .. | done (.ok (some _)) => true
  | _ => false

/-- Whether a call at this stage has started a pass. -/
def begun : Stage → Bool
  | fetching _ | writing .. | failing .. | done (.ok (some _)) | done (.error _) => true
  | _ => false

/-- Whether a call at this stage saw its pass fail. -/
def failedPass : Stage → Bool
  | failing .. | done (.error _) => true
  | _ => false

theorem failed_or_live_of_begun {st : Stage} (h : st.begun = true) :
    st.failedPass = true ∨ st.live = true := by
  cases st with
  | done result => rcases result with e | _ | report <;> simp_all [begun, failedPass, live]
  | _ => simp_all [begun, failedPass, live]

theorem committed_of_live {st : Stage} (live : st.live = true) (free : st.holdsLock = false) :
    ∃ report, st = .done (.ok (some report)) := by
  cases st with
  | done result => rcases result with e | _ | report <;> simp_all [Stage.live]
  | _ => simp_all [Stage.live, holdsLock]

end Stage

namespace Shared

variable {σ : Type} [SourceProvider σ] {s s' : Shared σ} {c c' : Call} {i : Nat}

/-- How many calls of `repo` have started a pass. -/
def passesStarted (s : Shared σ) (repo : String) : Nat :=
  s.calls.countP (fun c => c.repository == repo && c.stage.begun)

/-- How many calls of `repo` saw their pass fail. -/
def passesFailed (s : Shared σ) (repo : String) : Nat :=
  s.calls.countP (fun c => c.repository == repo && c.stage.failedPass)

/-- Every call of `repo` is a call of `ensureIndexed` for `gitRef`. -/
def EnsureOnly (s : Shared σ) (repo gitRef : String) : Prop :=
  ∀ c ∈ s.calls, c.repository = repo → c.checks = true ∧ c.gitRef = gitRef

/-! ### How a call comes to a pass -/

namespace Moves

theorem not_done (m : Moves s c s' c') {result : Except IndexError (Option IndexReport)} :
    c.stage ≠ .done result := by
  cases m <;> simp_all

theorem enters (m : Moves s c s' c') (before : c.stage.live = false) (now : c'.stage.live = true) :
    (c.stage = .waiting ∧ c.checks = false) ∨
      (c.stage = .checking ∧ s.indexer.indexedCommit c.repository = none) ∨
      ∃ indexed, c.stage = .asking indexed ∧
        (s.indexer.movedFrom c.repository c.gitRef indexed).2 = true := by
  cases m with
  | acquire waiting _ =>
    cases checks : c.checks
    · exact .inl ⟨waiting, rfl⟩
    · simp [checks, Stage.live] at now
  | checkNew checking unknown => exact .inr (.inl ⟨checking, unknown⟩)
  | @ask indexed ix stale asking asked =>
    cases stale
    · simp [Stage.live] at now
    · exact .inr (.inr ⟨indexed, asking, congrArg Prod.snd asked⟩)
  | start starting => simp [starting, Stage.live] at before
  | fetchFailed fetching => simp [fetching, Stage.live] at before
  | fetched fetching => simp [fetching, Stage.live] at before
  | commit writing => simp [writing, Stage.live] at before
  | write writing => simp [writing, Stage.live] at before
  | writeFailed writing => simp [writing, Stage.live] at before
  | _ => simp [Stage.live] at now

theorem begun_of (m : Moves s c s' c') (now : c'.stage.begun = true) :
    c.stage.begun = true ∨ c.stage.live = true := by
  cases m with
  | ask => split at now <;> simp [Stage.begun] at now
  | acquire => split at now <;> simp [Stage.begun] at now
  | start starting => simp [starting, Stage.live]
  | fetchFailed fetching => simp [fetching, Stage.begun]
  | fetched fetching => simp [fetching, Stage.begun]
  | commit writing => simp [writing, Stage.begun]
  | write writing => simp [writing, Stage.begun]
  | writeFailed writing => simp [writing, Stage.begun]
  | fail failing => simp [failing, Stage.begun]
  | _ => simp [Stage.begun] at now

/-- A call returns without an error by committing, or when the provider names the snapshot's
commit. -/
theorem returns (m : Moves s c s' c') {answer : Option IndexReport} (now : c'.stage = .done (.ok answer)) :
    c.stage.commitsNext = true ∨ ∃ indexed, c.stage = .asking indexed ∧
      (s.indexer.movedFrom c.repository c.gitRef indexed).2 = false := by
  cases m with
  | @ask indexed ix stale asking asked =>
    cases stale
    · exact .inr ⟨indexed, asking, congrArg Prod.snd asked⟩
    · simp at now
  | acquire => split at now <;> simp at now
  | commit writing => simp [writing, Stage.commitsNext]
  | _ => simp at now

end Moves

theorem countP_le_of_or {α : Type} {p q r : α → Bool} (split : ∀ x, p x = true → q x = true ∨ r x = true) :
    ∀ l : List α, l.countP p ≤ l.countP q + l.countP r
  | [] => by simp
  | x :: l => by
    have rest := countP_le_of_or split l
    cases hp : p x
    · simp [List.countP_cons, hp]
      omega
    · rcases split x hp with hq | hr
      · simp [List.countP_cons, hp, hq]
        omega
      · simp [List.countP_cons, hp, hr]
        omega

theorem EnsureOnly.of_step {repo gitRef : String} {turn : Turn}
    (only : EnsureOnly (s.step turn) repo gitRef) : EnsureOnly s repo gitRef := by
  intro e held mine
  rcases step_cases s turn with ⟨i, c, c', s', found, m, stepped⟩ | ⟨call, -, stepped⟩ | ⟨-, calls, -⟩
  · have bound : i < s.calls.length := (List.getElem?_eq_some_iff.mp found).1
    obtain ⟨k, old⟩ := List.mem_iff_getElem?.mp held
    by_cases here : k = i
    · subst here
      rw [found] at old
      cases old
      obtain ⟨repository, ref, checks⟩ := m.keeps_call
      have moved : c' ∈ (s.step turn).calls := by
        rw [stepped]
        exact List.mem_of_getElem? (List.getElem?_set_self bound)
      rw [← ref, ← checks]
      exact only c' moved (repository.trans mine)
    · have kept : e ∈ (s.step turn).calls := by
        rw [stepped]
        exact List.mem_of_getElem? (by rw [List.getElem?_set_ne (Ne.symm here)]; exact old)
      exact only e kept mine
  · exact only e (by rw [stepped]; exact List.mem_append_left _ held) mine
  · exact only e (by rw [calls]; exact held) mine

end Shared

/-- A provider that, at every state `p` leads to, names `commit` for `repo` at `gitRef` and
fetches trees at that commit. -/
def Steady {σ : Type} [SourceProvider σ] (p : σ) (repo gitRef commit : String) : Prop :=
  ∀ q, Leads p q → (SourceProvider.currentCommit q repo gitRef).2 = .ok commit ∧
    ∀ checkout, (SourceProvider.fetchTree q repo gitRef).2 = .ok checkout → checkout.commit = commit

theorem Leads.repositories_mock {p q : MockSource} (leads : Leads p q) : q.repositories = p.repositories := by
  induction leads with
  | refl => rfl
  | currentCommit _ _ _ same => exact same
  | fetchTree _ _ _ same => exact same
  | wait _ _ same => exact same

/-- The fixed provider is steady for a known repository that is online: it names the
repository's commit and fetches its tree at that commit, at every state it comes to. -/
theorem Steady.mock {p : MockSource} {repo : String} {r : MockRepository} (online : p.entry repo = .ok r)
    (gitRef : String) : Steady p repo gitRef r.commit := by
  intro q leads
  have same : q.entry repo = .ok r := by
    simpa [MockSource.entry, leads.repositories_mock] using online
  refine ⟨by simp [SourceProvider.currentCommit, MockSource.currentCommit, same, Except.map], ?_⟩
  intro checkout fetched
  have answer : (SourceProvider.fetchTree q repo gitRef).2 = (q.entry repo).map
      (fun r => ({ root := r.root, commit := r.commit, tree := r.tree, versioned := false } : Checkout)) :=
    rfl
  rw [answer, same] at fetched
  simp only [Except.map, Except.ok.injEq] at fetched
  rw [← fetched]

namespace Shared

variable {σ : Type} [SourceProvider σ] {s s' : Shared σ} {c c' : Call} {i : Nat}
  {start : Indexer σ} {dims : Nat}

theorem Reachable.indexedCommit_move (settled : ∀ repo, PassRun dims repo start.store none)
    (reach : Reachable start s) (found : s.calls[i]? = some c) (m : Moves s c s' c') :
    (c.stage.commitsNext = false ∧
      ∀ repo, s'.indexer.indexedCommit repo = s.indexer.indexedCommit repo) ∨
    ∃ g checkout report, c.stage = .writing g checkout report [] ∧
      s'.indexer.indexedCommit c.repository = some checkout.commit ∧
      (∃ report', c'.stage = .done (.ok (some report'))) ∧
      ∀ repo, repo ≠ c.repository → s'.indexer.indexedCommit repo = s.indexer.indexedCommit repo := by
  have inv := reach.invariant
  rcases inv.move_store found m with ⟨store, -, idle⟩ | ⟨op, store, -, -, commits⟩
  · exact .inl ⟨idle, fun repo => by simp only [Indexer.indexedCommit, store]⟩
  · cases next : c.stage.commitsNext
    · exact .inl ⟨rfl, fun repo => Indexer.indexedCommit_of_quiet store (by simp [commits, next])⟩
    · cases m with
      | @commit g checkout report report' ix writing committed =>
        obtain rfl : _ = _ := (congrArg Prod.fst committed).symm.trans Indexer.commitPass_fst
        have holds : c.stage.holdsLock = true := by simp [writing, Stage.holdsLock]
        have opened : s.openPass c.repository = some g := by
          rw [inv.openPass_of_holder found holds, writing]
          rfl
        have run := reach.disciplined settled c.repository
        rw [opened] at run
        -- the pass writes the generation after the current one, which is not negative
        obtain ⟨r, recorded, -, next⟩ := run.invariant.record_of_open rfl
        have nonneg := run.generation_nonneg
        rw [ChunkStore.generation_of_record? recorded] at nonneg
        have committedStore : ({ s with indexer := { s.indexer with
            store := s.indexer.store.perform (.commit c.repository g checkout.commit) } } : Shared σ).indexer.store =
            s.indexer.store.perform (.commit c.repository g checkout.commit) := rfl
        refine .inr ⟨g, checkout, report, writing,
          Indexer.indexedCommit_of_commit recorded (by omega) committedStore, ⟨report', rfl⟩,
          fun repo other => Indexer.indexedCommit_of_quiet committedStore ?_⟩
        simp [PassOp.commits, Ne.symm other]
      | _ => simp_all [Stage.commitsNext]

/-! ### One pass between the calls of `ensureIndexed` -/

/-- What calls of `ensureIndexed` keep for `repo` over a provider that names `commit`. -/
structure OnePass (start : Indexer σ) (repo commit : String) (s : Shared σ) : Prop where
  leads : Leads start.source s.indexer.source
  config : s.indexer.config = start.config
  /-- A call that asks for the ref's commit knows the snapshot's. -/
  asked : ∀ c ∈ s.calls, c.repository = repo → ∀ indexed, c.stage = .asking indexed →
    s.indexer.indexedCommit repo = some indexed
  /-- A pass writes a tree at `commit`. -/
  fetched : ∀ c ∈ s.calls, c.repository = repo → ∀ g checkout report files,
    c.stage = .writing g checkout report files → checkout.commit = commit
  /-- Once a call has returned without an error, the snapshot is at `commit`. -/
  returned : ∀ c ∈ s.calls, c.repository = repo → ∀ answer, c.stage = .done (.ok answer) →
    s.indexer.indexedCommit repo = some commit
  /-- At most one call is about to start a pass, runs one or has committed one. -/
  one_live : s.calls.countP (fun c => c.repository == repo && c.stage.live) ≤ 1
  /-- The snapshot is at `commit` only if it was from the start, or a call committed it. -/
  came : s.indexer.indexedCommit repo = some commit → start.indexedCommit repo = some commit ∨
    ∃ c ∈ s.calls, c.repository = repo ∧ ∃ report, c.stage = .done (.ok (some report))
  /-- From a snapshot at `commit`, no call comes to a pass. -/
  idle_start : start.indexedCommit repo = some commit → s.indexer.indexedCommit repo = some commit ∧
    ∀ c ∈ s.calls, c.repository = repo → c.stage.live = false ∧ c.stage.begun = false

namespace OnePass

variable {repo gitRef commit : String}

theorem initial (start : Indexer σ) (repo commit : String) :
    OnePass start repo commit ({ indexer := start } : Shared σ) where
  leads := .refl
  config := rfl
  asked _ held := by simp at held
  fetched _ held := by simp at held
  returned _ held := by simp at held
  one_live := by simp
  came current := .inl current
  idle_start upToDate := ⟨upToDate, fun _ held => by simp at held⟩

theorem congr {t : Shared σ} (once : OnePass start repo commit s) (indexer : t.indexer = s.indexer)
    (calls : t.calls = s.calls) : OnePass start repo commit t := by
  obtain ⟨leads, config, asked, fetched, returned, oneLive, came, idle⟩ := once
  refine ⟨?_, ?_, ?_, ?_, ?_, ?_, ?_, ?_⟩ <;> simp only [indexer, calls] <;> assumption

theorem arrive (once : OnePass start repo commit s) {call : Call} (created : call.stage = .created) :
    OnePass start repo commit { s with calls := s.calls ++ [call] } := by
  have fresh : ∀ e ∈ s.calls ++ [call], e ∈ s.calls ∨ e.stage = .created := by
    intro e held
    rcases List.mem_append.mp held with old | new
    · exact .inl old
    · exact .inr (List.mem_singleton.mp new ▸ created)
  refine ⟨once.leads, once.config, fun e held mine indexed asking => ?_,
    fun e held mine g checkout report files writing => ?_, fun e held mine answer done => ?_, ?_,
    fun current => ?_, fun upToDate => ?_⟩
  · rcases fresh e held with old | new
    · exact once.asked e old mine indexed asking
    · simp [new] at asking
  · rcases fresh e held with old | new
    · exact once.fetched e old mine g checkout report files writing
    · simp [new] at writing
  · rcases fresh e held with old | new
    · exact once.returned e old mine answer done
    · simp [new] at done
  · simpa [List.countP_append, created, Stage.live] using once.one_live
  · rcases once.came current with start | ⟨e, old, mine, report, done⟩
    · exact .inl start
    · exact .inr ⟨e, List.mem_append_left _ old, mine, report, done⟩
  · obtain ⟨current, quiet⟩ := once.idle_start upToDate
    refine ⟨current, fun e held mine => ?_⟩
    rcases fresh e held with old | new
    · exact quiet e old mine
    · simp [new, Stage.live, Stage.begun]

theorem indexedCommit_move (settled : ∀ repo, PassRun dims repo start.store none)
    (reach : Reachable start s) (once : OnePass start repo commit s) (found : s.calls[i]? = some c)
    (m : Moves s c s' c') :
    ((c.stage.commitsNext = false ∨ c.repository ≠ repo) ∧
        s'.indexer.indexedCommit repo = s.indexer.indexedCommit repo) ∨
      (c.repository = repo ∧ c.stage.holdsLock = true ∧ c.stage.live = true ∧
        s'.indexer.indexedCommit repo = some commit ∧
        ∃ report', c'.stage = .done (.ok (some report'))) := by
  rcases reach.indexedCommit_move settled found m with
    ⟨idle, same⟩ | ⟨g, checkout, report, writing, committed, done, others⟩
  · exact .inl ⟨.inl idle, same repo⟩
  · by_cases mine : c.repository = repo
    · subst mine
      have pulled := once.fetched c (List.mem_of_getElem? found) rfl g checkout report [] writing
      exact .inr ⟨rfl, by simp [writing, Stage.holdsLock], by simp [writing, Stage.live],
        pulled ▸ committed, done⟩
    · exact .inl ⟨.inr mine, others repo (Ne.symm mine)⟩

section Move

variable (inTime : 0 < start.config.fetchTimeoutMs) (steady : Steady start.source repo gitRef commit)
  (only : EnsureOnly s repo gitRef)
include inTime steady only

theorem stale_iff (once : OnePass start repo commit s) (held : c ∈ s.calls) (mine : c.repository = repo)
    {indexed : String} (asking : c.stage = .asking indexed) :
    s.indexer.indexedCommit repo = some indexed ∧
      (s.indexer.movedFrom c.repository c.gitRef indexed).2 = (commit != indexed) := by
  have answered := (steady _ once.leads).1
  rw [← (only c held mine).2, ← mine] at answered
  have inTime' : 0 < s.indexer.config.fetchTimeoutMs := by
    rw [once.config]
    exact inTime
  exact ⟨once.asked c held mine indexed asking, Indexer.movedFrom_snd inTime' indexed answered⟩

theorem enters_stale (once : OnePass start repo commit s) (found : s.calls[i]? = some c)
    (m : Moves s c s' c') (mine : c.repository = repo) (before : c.stage.live = false)
    (now : c'.stage.live = true) :
    c.stage.holdsLock = true ∧ s.indexer.indexedCommit repo ≠ some commit := by
  have held := List.mem_of_getElem? found
  rcases m.enters before now with ⟨-, index⟩ | ⟨checking, unknown⟩ | ⟨indexed, asking, stale⟩
  · simp [(only c held mine).1] at index
  · refine ⟨by simp [checking, Stage.holdsLock], ?_⟩
    rw [← mine, unknown]
    simp
  · refine ⟨by simp [asking, Stage.holdsLock], fun current => ?_⟩
    obtain ⟨known, answer⟩ := once.stale_iff inTime steady only held mine asking
    obtain rfl : indexed = commit := Option.some.inj (known.symm.trans current)
    rw [stale] at answer
    simp at answer

theorem none_live_of_enters (reach : Reachable start s) (once : OnePass start repo commit s)
    (found : s.calls[i]? = some c) (m : Moves s c s' c') (mine : c.repository = repo)
    (before : c.stage.live = false) (now : c'.stage.live = true) :
    s.calls.countP (fun c => c.repository == repo && c.stage.live) = 0 := by
  obtain ⟨holds, stale⟩ := once.enters_stale inTime steady only found m mine before now
  rw [List.countP_eq_zero]
  intro e held live
  simp only [Bool.and_eq_true, beq_iff_eq] at live
  obtain ⟨k, old⟩ := List.mem_iff_getElem?.mp held
  by_cases same : k = i
  · subst same
    rw [found] at old
    cases old
    simp [before] at live
  · have free := reach.invariant.others_free found holds old same (live.1.trans mine.symm)
    obtain ⟨report, done⟩ := Stage.committed_of_live live.2 free
    exact stale (once.returned e held live.1 _ done)

theorem move (settled : ∀ repo, PassRun dims repo start.store none) (reach : Reachable start s)
    (once : OnePass start repo commit s) (found : s.calls[i]? = some c) (m : Moves s c s' c') :
    OnePass start repo commit { s' with calls := s.calls.set i c' } := by
  have held := List.mem_of_getElem? found
  have bound : i < s.calls.length := (List.getElem?_eq_some_iff.mp found).1
  have inv := reach.invariant
  have moved := once.indexedCommit_move settled reach found m
  refine ⟨m.leads once.leads, m.config_eq.trans once.config, ?asked, ?fetched, ?returned, ?one_live,
    ?came, ?idle_start⟩
  case asked =>
    intro e held' mine indexed asking
    rcases mem_set_cases found held' with rfl | ⟨k, other, old⟩
    · -- only a check that finds a snapshot makes a call ask
      have mine' : c.repository = repo := m.keeps_call.1 ▸ mine
      cases m with
      | checkKnown _ known =>
        cases asking
        rw [← mine']
        exact known
      | ask => split at asking <;> simp at asking
      | acquire => split at asking <;> simp at asking
      | _ => simp at asking
    · rcases moved with ⟨-, same⟩ | ⟨mine', holds, -, -, -⟩
      · exact same.trans (once.asked e (List.mem_of_getElem? old) mine indexed asking)
      · -- a call that asks holds the lock, so no other call of `repo` commits
        have asks : e.stage.holdsLock = true := by simp [asking, Stage.holdsLock]
        exact absurd (inv.one_holder old found (mine.trans mine'.symm) asks holds) other
  case fetched =>
    intro e held' mine g checkout report files writing
    rcases mem_set_cases found held' with rfl | ⟨k, other, old⟩
    · have mine' : c.repository = repo := m.keeps_call.1 ▸ mine
      cases m with
      | fetched _ called =>
        -- the tree came from the provider, which fetches at `commit`
        obtain ⟨-, answered⟩ := Indexer.callSource_ok called
        cases writing
        have fetchedAt := (steady _ once.leads).2 checkout
        rw [← (only c held mine').2, ← mine'] at fetchedAt
        exact fetchedAt answered
      | write before _ =>
        cases writing
        exact once.fetched c held mine' _ _ _ _ before
      | ask => split at writing <;> simp at writing
      | acquire => split at writing <;> simp at writing
      | _ => simp at writing
    · exact once.fetched e (List.mem_of_getElem? old) mine g checkout report files writing
  case returned =>
    intro e held' mine answer done
    rcases mem_set_cases found held' with rfl | ⟨k, other, old⟩
    · have mine' : c.repository = repo := m.keeps_call.1 ▸ mine
      rcases moved with ⟨quiet, same⟩ | ⟨-, -, -, current, -⟩
      · rcases m.returns done with next | ⟨indexed, asking, fresh⟩
        · rcases quiet with idle | other
          · simp [idle] at next
          · exact absurd mine' other
        · obtain ⟨known, answer⟩ := once.stale_iff inTime steady only held mine' asking
          rw [fresh] at answer
          have named : commit = indexed := by simpa using answer.symm
          rw [← named] at known
          exact same.trans known
      · exact current
    · rcases moved with ⟨-, same⟩ | ⟨-, -, -, current, -⟩
      · exact same.trans (once.returned e (List.mem_of_getElem? old) mine answer done)
      · exact current
  case one_live =>
    obtain ⟨_, atI⟩ := List.getElem?_eq_some_iff.mp found
    show (s.calls.set i c').countP _ ≤ 1
    rw [List.countP_set bound, atI]
    have before := once.one_live
    by_cases nowLive : (c'.repository == repo && c'.stage.live) = true
    · by_cases wasLive : (c.repository == repo && c.stage.live) = true
      · rw [if_pos nowLive, if_pos wasLive]
        omega
      · have now : c'.repository = repo ∧ c'.stage.live = true := by simpa using nowLive
        have mine : c.repository = repo := m.keeps_call.1 ▸ now.1
        have notLive : c.stage.live = false := by simpa [mine] using wasLive
        rw [if_neg wasLive, once.none_live_of_enters inTime steady only reach found m mine notLive now.2]
        split <;> omega
    · rw [if_neg nowLive]
      omega
  case came =>
    intro current
    rcases moved with ⟨-, same⟩ | ⟨mine, -, -, -, report', done⟩
    · rcases once.came (same.symm.trans current) with start | ⟨e, held', mine, report, done⟩
      · exact .inl start
      · obtain ⟨k, old⟩ := List.mem_iff_getElem?.mp held'
        have other : k ≠ i := by
          rintro rfl
          rw [found] at old
          cases old
          exact m.not_done done
        have kept : (s.calls.set i c')[k]? = some e := by
          rw [List.getElem?_set_ne (Ne.symm other)]
          exact old
        exact .inr ⟨e, List.mem_of_getElem? kept, mine, report, done⟩
    · exact .inr ⟨c', List.mem_of_getElem? (List.getElem?_set_self bound), m.keeps_call.1.trans mine,
        report', done⟩
  case idle_start =>
    intro upToDate
    obtain ⟨current, quiet⟩ := once.idle_start upToDate
    rcases moved with ⟨-, same⟩ | ⟨mine, -, live, -, -⟩
    · refine ⟨same.trans current, fun e held' mine => ?_⟩
      rcases mem_set_cases found held' with rfl | ⟨k, other, old⟩
      · have mine' : c.repository = repo := m.keeps_call.1 ▸ mine
        obtain ⟨wasLive, wasBegun⟩ := quiet c held mine'
        have notLive : e.stage.live = false := by
          cases now : e.stage.live
          · rfl
          · exact absurd current (once.enters_stale inTime steady only found m mine' wasLive now).2
        refine ⟨notLive, ?_⟩
        cases now : e.stage.begun
        · rfl
        · rcases m.begun_of now with begun | live
          · simp [begun] at wasBegun
          · simp [live] at wasLive
      · exact quiet e (List.mem_of_getElem? old) mine
    · -- committing needs a pass in progress, and there is none
      simp [(quiet c held mine).1] at live

theorem step (settled : ∀ repo, PassRun dims repo start.store none) (reach : Reachable start s)
    (once : OnePass start repo commit s) (turn : Turn) : OnePass start repo commit (s.step turn) := by
  rcases step_cases s turn with ⟨i, c, c', s', found, m, stepped⟩ | ⟨call, created, stepped⟩ |
    ⟨indexer, calls, -⟩
  · rw [stepped]
    exact once.move inTime steady only settled reach found m
  · rw [stepped]
    exact once.arrive created
  · exact once.congr indexer calls

end Move

theorem started_le (once : OnePass start repo commit s) :
    s.passesStarted repo ≤ s.passesFailed repo + 1 := by
  have split : s.passesStarted repo ≤
      s.passesFailed repo + s.calls.countP (fun c => c.repository == repo && c.stage.live) := by
    apply countP_le_of_or
    intro c started
    simp only [Bool.and_eq_true, beq_iff_eq] at started
    rcases Stage.failed_or_live_of_begun started.2 with failed | live
    · exact .inl (by simp [started.1, failed])
    · exact .inr (by simp [started.1, live])
  have live := once.one_live
  omega

theorem none_started (once : OnePass start repo commit s) (upToDate : start.indexedCommit repo = some commit) :
    s.passesStarted repo = 0 := by
  rw [passesStarted, List.countP_eq_zero]
  intro c held started
  simp only [Bool.and_eq_true, beq_iff_eq] at started
  simp [((once.idle_start upToDate).2 c held started.1).2] at started

theorem started_of_returned (once : OnePass start repo commit s)
    (behind : start.indexedCommit repo ≠ some commit)
    (returned : ∃ c ∈ s.calls, c.repository = repo ∧ ∃ result, c.stage = .done result) :
    0 < s.passesStarted repo := by
  obtain ⟨c, held, mine, result, done⟩ := returned
  rw [passesStarted, List.countP_pos_iff]
  rcases result with e | _ | report
  · exact ⟨c, held, by simp [mine, done, Stage.begun]⟩
  · -- a call with nothing to do found the snapshot some call committed
    rcases once.came (once.returned c held mine none done) with start | ⟨d, held', mine', report, committed⟩
    · exact absurd start behind
    · exact ⟨d, held', by simp [mine', committed, Stage.begun]⟩
  · exact ⟨c, held, by simp [mine, done, Stage.begun]⟩

end OnePass

theorem Reachable.onePass {repo gitRef commit : String} (settled : ∀ repo, PassRun dims repo start.store none)
    (inTime : 0 < start.config.fetchTimeoutMs) (steady : Steady start.source repo gitRef commit)
    (reach : Reachable start s) (only : EnsureOnly s repo gitRef) : OnePass start repo commit s := by
  induction reach with
  | idle => exact OnePass.initial start repo commit
  | step turn reached ih =>
    have before := only.of_step
    exact (ih before).step inTime steady before settled reached turn

/-- Two calls of `ensureIndexed` on a repository with no snapshot, the second waiting for the
lock while the first runs its pass: the second finds the commit indexed and returns. -/
example :
    let start : Indexer MockSource :=
      { store := ChunkStore.empty 4,
        source := { repositories := [{ name := "acme/site", root := "r", tree := {}, commit := "c1" }] },
        embedder := .hashing 4, config := {}, filter := { extensions := ["txt"], manifests := [], excludedDirs := [], maxFileBytes := 1024 } }
    let s := ({ indexer := start } : Shared MockSource).run
      [.arrive "acme/site" "main" true, .arrive "acme/site" "main" true, .resume 0, .resume 1,
        .resume 0, .resume 1, .resume 0, .resume 0, .resume 1, .resume 0, .resume 0, .resume 1,
        .resume 1, .resume 1]
    s.passesStarted "acme/site" = 1 ∧ s.passesFailed "acme/site" = 0 ∧
      s.calls.map (·.stage.live) = [true, false] := by
  dsimp only
  decide +kernel

theorem Reachable.run {t : Shared σ} (reach : Reachable start t) (turns : List Turn) :
    Reachable start (t.run turns) := by
  induction turns generalizing t with
  | nil => exact reach
  | cons turn turns ih => exact ih (.step turn reach)

end Shared

/-! ### All together -/

/-- What calls running at once on an indexer keep for one repository `repo`. -/
structure PassesSerialized {σ : Type} [SourceProvider σ] (dims : Nat) (start : Indexer σ)
    (s : Shared σ) (repo : String) : Prop where
  /-- At most one call of the repository holds its lock, so at most one runs a pass. -/
  one_holder : s.calls.countP (fun c => c.repository == repo && c.stage.holdsLock) ≤ 1
  /-- While one holds it, a turn of any other call of the repository changes neither the indexer
  nor the holder: no other pass starts, fetches, writes, commits or fails. -/
  others_wait : ∀ i j c d, s.calls[i]? = some c → c.repository = repo → c.stage.holdsLock = true →
    s.calls[j]? = some d → d.repository = repo → j ≠ i →
    (s.step (.resume j)).indexer = s.indexer ∧ (s.step (.resume j)).calls[i]? = some c
  /-- The store's operations on the repository form a disciplined run, whose open pass is the one
  a call has in progress. -/
  disciplined : PassRun dims repo s.indexer.store (s.openPass repo)
  /-- At most one fetch of the repository is awaited. -/
  one_awaited_fetch : s.calls.countP (fun c => c.repository == repo && c.stage.awaitsFetch) ≤ 1
  /-- When every fetch ends before the deadline, at most one is in flight. -/
  fetches_in_time :
    (∀ p, Leads start.source p → SourceProvider.fetchDelay p < start.config.fetchTimeoutMs) →
      s.fetchesInFlight repo ≤ 1
  /-- A commit leaves the committing pass's chunks as the current snapshot and no other row. -/
  commit_keeps_pass : ∀ i c g checkout report, s.calls[i]? = some c → c.repository = repo →
    c.stage = .writing g checkout report [] →
    PassCommitted (s.step (.resume i)).indexer.store repo g checkout.commit
      ((s.indexer.filter.scan checkout.tree checkout.versioned).files.flatMap s.indexer.fileEntries)
  /-- Every other turn keeps the committed snapshot. -/
  others_keep_snapshot : ∀ turn, s.commitsPass repo turn = false →
    (s.step turn).indexer.store.generation repo = s.indexer.store.generation repo ∧
      (s.step turn).indexer.store.snapshot repo (s.indexer.store.generation repo) =
        s.indexer.store.snapshot repo (s.indexer.store.generation repo)
  /-- Calls of `ensureIndexed` for one ref alone on the repository, over a provider asked in time
  that names one commit and fetches at it: they start one pass between them and one more for each
  that failed, none from a snapshot at the commit, and otherwise at least one once a call has
  returned. -/
  ensure_once : ∀ gitRef commit, 0 < start.config.fetchTimeoutMs →
    Steady start.source repo gitRef commit → s.EnsureOnly repo gitRef →
    s.passesStarted repo ≤ s.passesFailed repo + 1 ∧
      (start.indexedCommit repo = some commit → s.passesStarted repo = 0) ∧
      (start.indexedCommit repo ≠ some commit →
        (∃ c ∈ s.calls, c.repository = repo ∧ ∃ result, c.stage = .done result) →
        0 < s.passesStarted repo)

theorem passes_serialized {σ : Type} [SourceProvider σ] {dims : Nat} {start : Indexer σ} {s : Shared σ}
    (settled : ∀ repo, PassRun dims repo start.store none) (reach : Shared.Reachable start s)
    (repo : String) : PassesSerialized dims start s repo where
  one_holder := reach.invariant.holders_le_one repo (p := Stage.holdsLock) (fun _ holds => holds)
  others_wait _ _ _ _ found mine holds held same other :=
    reach.invariant.others_wait found holds held other (same.trans mine.symm)
  disciplined := reach.disciplined settled repo
  one_awaited_fetch := reach.invariant.holders_le_one repo (p := Stage.awaitsFetch)
    (fun _ => Stage.holdsLock_of_awaitsFetch)
  fetches_in_time prompt := reach.fetchesInFlight_le_one prompt repo
  commit_keeps_pass _ _ _ _ _ found mine writing := by
    rw [← mine]
    exact reach.commit_turn settled found writing
  others_keep_snapshot _ quiet := reach.keeps_snapshot settled quiet
  ensure_once _ _ inTime steady only := by
    have once := reach.onePass settled inTime steady only
    exact ⟨once.started_le, once.none_started, once.started_of_returned⟩

/-- Two calls of `index` on one repository whose fetches both miss the deadline: the lock still
orders their passes. -/
theorem timed_out_passes_serialized :
    let start : Indexer MockSource :=
      { store := ChunkStore.empty 4,
        source := { repositories := [{ name := "acme/site", root := "r", tree := {}, commit := "c1" }],
                    delayMs := 300 },
        embedder := .hashing 4, config := { fetchTimeoutMs := 20 },
        filter := { extensions := ["txt"], manifests := [], excludedDirs := [], maxFileBytes := 1024 } }
    PassesSerialized 4 start (({ indexer := start } : Shared MockSource).run
      [.arrive "acme/site" "main" false, .arrive "acme/site" "main" false, .resume 0, .resume 0,
        .resume 0, .resume 0, .resume 0, .resume 1, .resume 1, .resume 1, .resume 1, .resume 1])
      "acme/site" :=
  passes_serialized (fun _ => .empty) (Shared.Reachable.run .idle _) "acme/site"

/-- Two calls of `index` on one repository whose fetches take longer than the deadline: the first
caller gives up on its fetch and releases the lock, the second fetches beside it, and the provider
sees two fetches at once. -/
theorem abandoned_fetch_overlaps_next :
    let start : Indexer MockSource :=
      { store := ChunkStore.empty 4,
        source := { repositories := [{ name := "acme/site", root := "r", tree := {}, commit := "c1" }],
                    delayMs := 300 },
        embedder := .hashing 4, config := { fetchTimeoutMs := 20 },
        filter := { extensions := ["txt"], manifests := [], excludedDirs := [], maxFileBytes := 1024 } }
    let s := ({ indexer := start } : Shared MockSource).run
      [.arrive "acme/site" "main" false, .arrive "acme/site" "main" false, .resume 0, .resume 0,
        .resume 0, .resume 0, .resume 0, .resume 1, .resume 1, .resume 1, .resume 1, .resume 1]
    s.fetchesInFlight "acme/site" = 2 ∧ s.indexer.source.maxConcurrent = 2 := by
  dsimp only
  decide

end RepoSearch.Index
