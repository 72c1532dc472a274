import RepoSearch.Proofs.Index.Locking
/-! The shared indexer runs a call as the indexer does. A call of `ensureIndexed` or `index` that
arrives while no call of its repository holds the repository's lock, and is then resumed on
every turn, returns after finitely many turns what `Indexer.ensureIndexed` or `Indexer.index`
returns, and leaves the indexer as they leave it. Each stage of the call's body stands for the
rest of the sequential pass from the point it has reached, and each move hands that rest on. -/
namespace RepoSearch.Index

open RepoSearch.Files RepoSearch.Source RepoSearch.Store

namespace Indexer

variable {σ : Type} [SourceProvider σ] {ix ix' : Indexer σ} {repo gitRef : String}

/-- What the indexer does for a call of `ensureIndexed` (`checks`) or of `index`, the report of
`index` given as a present one. -/
def answer (ix : Indexer σ) (repo gitRef : String) (checks : Bool) :
    Indexer σ × Except IndexError (Option IndexReport) :=
  if checks then ix.ensureIndexed repo gitRef
  else Prod.map id (Except.map some) (ix.index repo gitRef)

/-- The rest of a pass with one worker from its file tasks on: the files left, in walk order,
then the commit; or, when a file fails the pass, the failure recorded. -/
def passFrom (ix : Indexer σ) (repo : String) (g : Int) (commit : String) (report : IndexReport)
    (files : List SourceFile) : Indexer σ × Except IndexError IndexReport :=
  match runFiles .serial repo g ix report files with
  | (ix, .ok report) =>
    let (ix, report) := ix.commitPass repo g commit report
    (ix, .ok report)
  | (ix, .error e) => (ix.failPass .serial repo g e, .error e)

variable {g : Int} {commit : String} {report report' : IndexReport}

omit [SourceProvider σ] in
theorem passFrom_nil (committed : ix.commitPass repo g commit report = (ix', report')) :
    ix.passFrom repo g commit report [] = (ix', .ok report') := by
  simp only [passFrom, runFiles, committed]

omit [SourceProvider σ] in
theorem passFrom_cons_ok {file : SourceFile} {rest : List SourceFile}
    (wrote : ix.finishFile .serial repo g report file = .ok (ix', report')) :
    ix.passFrom repo g commit report (file :: rest) = ix'.passFrom repo g commit report' rest := by
  simp only [passFrom, runFiles, wrote]

omit [SourceProvider σ] in
theorem passFrom_cons_error {file : SourceFile} {rest : List SourceFile} {e : IndexError}
    (failed : ix.finishFile .serial repo g report file = .error e) :
    ix.passFrom repo g commit report (file :: rest) = (ix.failPass .serial repo g e, .error e) := by
  simp only [passFrom, runFiles, failed]

variable {store : ChunkStore}

theorem runPass_serial_of_fetchFailed {e : IndexError} (began : ix.store.beginPass repo = (store, g))
    (fetch : ({ ix with store } : Indexer σ).callSource repo gitRef (SourceProvider.fetchDelay ix.source)
      (fun src => SourceProvider.fetchTree src repo gitRef) = (ix', .error e)) :
    ix.runPass .serial repo gitRef = (ix'.failPass .serial repo g e, .error e) := by
  simp only [runPass, Runtime.serial_storeFault, began, writeSnapshot, fetch]

theorem runPass_serial_of_fetched {checkout : Checkout} (began : ix.store.beginPass repo = (store, g))
    (fetch : ({ ix with store } : Indexer σ).callSource repo gitRef (SourceProvider.fetchDelay ix.source)
      (fun src => SourceProvider.fetchTree src repo gitRef) = (ix', .ok checkout)) :
    ix.runPass .serial repo gitRef =
      ix'.passFrom repo g checkout.commit
        (openReport repo gitRef g checkout.commit (ix'.filter.scan checkout.tree checkout.versioned))
        (ix'.filter.scan checkout.tree checkout.versioned).files := by
  simp only [runPass, Runtime.serial_storeFault, Runtime.serial_taskFault, began, writeSnapshot, fetch,
    passFrom, Runtime.serial_finish]
  rcases runFiles Runtime.serial repo g ix'
    (openReport repo gitRef g checkout.commit (ix'.filter.scan checkout.tree checkout.versioned))
    (ix'.filter.scan checkout.tree checkout.versioned).files with ⟨ix₁, e | report₁⟩ <;> rfl

end Indexer

namespace Shared

variable {σ : Type} [SourceProvider σ] {s s' : Shared σ} {c c' : Call} {i : Nat}

/-- Call `i` of `s`, resumed on every turn, returns `out.2` after finitely many turns and
leaves the indexer as `out.1`. -/
def Returns (s : Shared σ) (i : Nat) (out : Indexer σ × Except IndexError (Option IndexReport)) : Prop :=
  ∃ n, (s.run (List.replicate n (.resume i))).calls[i]?.map Call.stage = some (.done out.2) ∧
    (s.run (List.replicate n (.resume i))).indexer = out.1

theorem Moves.resume_eq (m : Moves s c s' c') : s.resume c = some (s', c') := by
  cases m <;> simp_all [Shared.resume]

namespace Returns

variable {out : Indexer σ × Except IndexError (Option IndexReport)}

theorem of_done (found : s.calls[i]? = some c) {result : Except IndexError (Option IndexReport)}
    (done : c.stage = .done result) : Returns s i (s.indexer, result) :=
  ⟨0, by simp [run, found, done], rfl⟩

theorem of_move (found : s.calls[i]? = some c) (m : Moves s c s' c')
    (rest : ({ s' with calls := s.calls.set i c' } : Shared σ).calls[i]? = some c' →
      Returns { s' with calls := s.calls.set i c' } i out) :
    Returns s i out := by
  obtain ⟨n, returned⟩ := rest (List.getElem?_set_self (List.getElem?_eq_some_iff.mp found).1)
  have turn : s.step (.resume i) = { s' with calls := s.calls.set i c' } := by
    simp [step, found, m.resume_eq]
  exact ⟨n + 1, by rw [List.replicate_succ, run, List.foldl_cons, turn]; exact returned⟩

end Returns

theorem returns_failing (found : s.calls[i]? = some c) {g : Int} {e : IndexError}
    (failing : c.stage = .failing g e) :
    Returns s i (s.indexer.failPass .serial c.repository g e, .error e) :=
  .of_move found (.fail failing) fun done => .of_done done rfl

theorem returns_writing {g : Int} {checkout : Checkout} (files : List SourceFile) :
    ∀ {s : Shared σ} {c : Call} {report : IndexReport}, s.calls[i]? = some c →
      c.stage = .writing g checkout report files →
      Returns s i (Prod.map id (Except.map some) (s.indexer.passFrom c.repository g checkout.commit report files)) := by
  -- one file a turn, in walk order
  induction files with
  | nil =>
    intro s c report found writing
    rcases committed : s.indexer.commitPass c.repository g checkout.commit report with ⟨ix, report'⟩
    rw [Indexer.passFrom_nil committed]
    exact .of_move found (.commit writing committed) fun done => .of_done done rfl
  | cons file rest ih =>
    intro s c report found writing
    cases wrote : s.indexer.finishFile .serial c.repository g report file with
    | ok next =>
      obtain ⟨ix, report'⟩ := next
      rw [Indexer.passFrom_cons_ok wrote]
      exact .of_move found (.write writing wrote) fun next => (ih next rfl :)
    | error e =>
      rw [Indexer.passFrom_cons_error wrote]
      exact .of_move found (.writeFailed writing wrote) fun failing => (returns_failing failing rfl :)

theorem returns_starting (found : s.calls[i]? = some c) (starting : c.stage = .starting) :
    Returns s i (Prod.map id (Except.map some) (s.indexer.runPass .serial c.repository c.gitRef)) := by
  rcases began : s.indexer.store.beginPass c.repository with ⟨store, g⟩
  refine .of_move found (.start starting began) fun fetching => ?_
  rcases fetched : ({ s.indexer with store } : Indexer σ).callSource c.repository c.gitRef
      (SourceProvider.fetchDelay s.indexer.source)
      (fun src => SourceProvider.fetchTree src c.repository c.gitRef) with ⟨ix, e | checkout⟩
  · rw [Indexer.runPass_serial_of_fetchFailed began fetched]
    exact .of_move fetching (.fetchFailed rfl fetched) fun failing => (returns_failing failing rfl :)
  · rw [Indexer.runPass_serial_of_fetched began fetched]
    exact .of_move fetching (.fetched rfl fetched) fun writing => (returns_writing _ writing rfl :)

theorem returns_checking (found : s.calls[i]? = some c) (checking : c.stage = .checking) :
    Returns s i (s.indexer.ensureIndexed c.repository c.gitRef) := by
  cases known : s.indexer.indexedCommit c.repository with
  | none =>
    have stale : s.indexer.needsUpdate c.repository c.gitRef = (s.indexer, true) := by
      simp [Indexer.needsUpdate, known]
    rw [Indexer.ensureIndexed_of_needsUpdate stale]
    exact .of_move found (.checkNew checking known) fun starting => (returns_starting starting rfl :)
  | some indexed =>
    rcases asked : s.indexer.movedFrom c.repository c.gitRef indexed with ⟨ix, stale⟩
    have needs : s.indexer.needsUpdate c.repository c.gitRef = (ix, stale) := by
      simp [Indexer.needsUpdate, known, asked]
    rw [Indexer.ensureIndexed_of_needsUpdate needs]
    refine .of_move found (.checkKnown checking known) fun asking => .of_move asking (.ask rfl asked) fun answered => ?_
    cases stale with
    | true => exact (returns_starting answered rfl :)
    | false => exact .of_done answered rfl

theorem returns_waiting (found : s.calls[i]? = some c) (waiting : c.stage = .waiting)
    (free : s.lockHeld c.lock = false) : Returns s i (s.indexer.answer c.repository c.gitRef c.checks) := by
  cases checks : c.checks with
  | true =>
    rw [Indexer.answer, if_pos rfl]
    exact .of_move found (.acquire waiting free) fun checking => (returns_checking checking (by simp [checks]) :)
  | false =>
    rw [Indexer.answer, if_neg Bool.false_ne_true]
    exact .of_move found (.acquire waiting free) fun starting => (returns_starting starting (by simp [checks]) :)

omit [SourceProvider σ] in
theorem Invariant.lock_ne_of_other (inv : Invariant s) {repository : String} {d : Call} (mem : d ∈ s.calls)
    (holds : d.stage.holdsLock = true) (other : d.repository ≠ repository) :
    d.lock ≠ (lockTable s.locks repository).idxOf repository := by
  rcases inv.located d mem with created | ⟨known, lock⟩
  · exact absurd created (Stage.ne_created_of_holdsLock holds)
  · obtain ⟨inTable, member⟩ := idxOf_lockTable repository known
    rw [lock, ← inTable]
    exact fun same => other ((List.idxOf_inj member).mp same)

omit [SourceProvider σ] in
theorem Invariant.lookup_free (inv : Invariant s) {repository : String}
    (free : ∀ d ∈ s.calls, d.repository = repository → d.stage.holdsLock = false) {call : Call}
    (waits : call.stage.holdsLock = false) :
    ({ s with calls := s.calls ++ [call] } : Shared σ).lockHeld
      ((lockTable s.locks repository).idxOf repository) = false := by
  simp only [lockHeld, List.any_append, List.any_cons, List.any_nil, waits, Bool.false_and,
    Bool.or_false, List.any_eq_false]
  intro d mem
  by_cases same : d.repository = repository
  · simp [free d mem same]
  · cases holds : d.stage.holdsLock
    · simp
    · simpa using inv.lock_ne_of_other mem holds same

/-- A call of `ensureIndexed` or of `index` that arrives while no call of its repository holds
the repository's lock, and is then resumed on every turn, returns what the indexer returns for
it and leaves the indexer as the indexer leaves itself. -/
theorem Reachable.arrival_runs_as_indexer {start : Indexer σ} (reach : Reachable start s)
    (repository gitRef : String) (checks : Bool)
    (free : ∀ d ∈ s.calls, d.repository = repository → d.stage.holdsLock = false) :
    Returns (s.step (.arrive repository gitRef checks)) s.calls.length (s.indexer.answer repository gitRef checks) := by
  let call : Call := { repository, gitRef, checks }
  let waiting : Call := { call with lock := (lockTable s.locks repository).idxOf repository, stage := .waiting }
  have found : (s.calls ++ [call])[s.calls.length]? = some call := by simp
  have placed : (s.calls ++ [call]).set s.calls.length waiting = s.calls ++ [waiting] := by simp
  have unheld := reach.invariant.lookup_free free (show waiting.stage.holdsLock = false from rfl)
  rw [← placed] at unheld
  exact .of_move found (.lookup rfl) fun looked => (returns_waiting looked rfl unheld :)

end Shared

end RepoSearch.Index
