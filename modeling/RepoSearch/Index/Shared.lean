import RepoSearch.Index.Indexer
/-! One indexer with calls running on it at once. A call of `index` or `ensureIndexed` is a task
that runs without interruption from one await of its body to the next and hands the turn back at
each; which task runs next is the scheduler's choice. A call first looks up its repository's lock
in the indexer's table, which makes one for a name it has not seen, then waits until no call
holds that lock. Holding it, a call of `ensureIndexed` reads the repository's record and, when it
has a snapshot, asks the provider for the ref's commit; it returns if nothing changed. Otherwise
the call starts a pass, waits for the fetch, writes the walked files one at a time and commits,
or marks the pass failed; it releases the lock as it returns. Every store operation takes the
store's connection, so each is one step. The calls run with one worker on a single-threaded
runtime where nothing fails (`Runtime.serial`), so a pass writes its files in walk order.

A provider call runs on a thread of its own, and its caller waits for it until the fetch
deadline. A caller that stops waiting leaves the call running: it stays among the abandoned
calls until the scheduler lets it end. -/
namespace RepoSearch.Index

open RepoSearch.Files RepoSearch.Source RepoSearch.Store

/-- Where a call stands: before its first line, at one of the awaits of its body, or returned. -/
inductive Stage where
  | created
  /-- Has its repository's lock and waits to hold it. -/
  | waiting
  /-- Holds the lock and will read the repository's record. -/
  | checking
  /-- Waits for the provider to name the ref's commit; `indexed` is the snapshot's. -/
  | asking (indexed : String)
  /-- Holds the lock and will start a pass. -/
  | starting
  /-- Waits for the tree of the pass that writes `generation`. -/
  | fetching (generation : Int)
  /-- Writes the walked files still to write, one a step, then commits. -/
  | writing (generation : Int) (checkout : Checkout) (report : IndexReport) (files : List SourceFile)
  /-- Will mark the pass failed. -/
  | failing (generation : Int) (error : IndexError)
  /-- Has returned, and released the lock. -/
  | done (result : Except IndexError (Option IndexReport))

namespace Stage

/-- Whether a call at this stage holds its repository's lock. -/
def holdsLock : Stage → Bool
  | checking | asking _ | starting | fetching _ | writing .. | failing .. => true
  | created | waiting | done _ => false

/-- The generation a call at this stage writes, once its pass has started. -/
def pass? : Stage → Option Int
  | fetching g | writing g .. | failing g _ => some g
  | _ => none

def awaitsFetch : Stage → Bool
  | fetching _ => true
  | _ => false

end Stage

/-- A call of `index` (`checks` false) or of `ensureIndexed` (`checks` true). -/
structure Call where
  repository : String
  gitRef : String
  checks : Bool
  /-- The lock the call looked up, by its place in the indexer's table. -/
  lock : Nat := 0
  stage : Stage := .created

/-- A provider call whose caller stopped waiting for it: a fetch, or a question for a ref's
commit. -/
structure SourceJob where
  repository : String
  gitRef : String
  fetches : Bool

/-- An indexer with the calls made on it. -/
structure Shared (σ : Type) where
  indexer : Indexer σ
  /-- The repositories that have a lock, each once; a lock is known by its place here. -/
  locks : List String := []
  calls : List Call := []
  abandoned : List SourceJob := []

/-- Whom the scheduler lets run. -/
inductive Turn where
  /-- A new call arrives. -/
  | arrive (repository gitRef : String) (checks : Bool)
  /-- The call at this place runs to its next await. -/
  | resume (call : Nat)
  /-- The abandoned provider call at this place ends. -/
  | finish (job : Nat)

/-- The lock table with a lock for `repository`: the one it has, or a new one. -/
def lockTable (locks : List String) (repository : String) : List String :=
  if repository ∈ locks then locks else locks ++ [repository]

namespace Shared

variable {σ : Type} [SourceProvider σ]

def lockHeld (s : Shared σ) (lock : Nat) : Bool :=
  s.calls.any (fun c => c.stage.holdsLock && c.lock == lock)

/-- The abandoned provider calls once a caller has waited `delay` on `job`: a caller that waits
as long as the deadline or longer gives up there, and the job runs on. -/
def leftRunning (s : Shared σ) (delay : Nat) (job : SourceJob) : List SourceJob :=
  if s.indexer.config.fetchTimeoutMs ≤ delay then s.abandoned ++ [job] else s.abandoned

/-- What the call `c` does when it runs to its next await, with the call it becomes; nothing
when it cannot run, as it waits for a lock another call holds or has returned. -/
def resume (s : Shared σ) (c : Call) : Option (Shared σ × Call) :=
  let ix := s.indexer
  match c.stage with
  | .created =>
    let locks := lockTable s.locks c.repository
    some ({ s with locks }, { c with lock := locks.idxOf c.repository, stage := .waiting })
  | .waiting =>
    if s.lockHeld c.lock then none
    else some (s, { c with stage := if c.checks then .checking else .starting })
  | .checking =>
    match ix.indexedCommit c.repository with
    | none => some (s, { c with stage := .starting })
    | some indexed => some (s, { c with stage := .asking indexed })
  | .asking indexed =>
    let (ix', stale) := ix.movedFrom c.repository c.gitRef indexed
    some ({ s with indexer := ix', abandoned := s.leftRunning 0 ⟨c.repository, c.gitRef, false⟩ },
      { c with stage := if stale then .starting else .done (.ok none) })
  | .starting =>
    let (store, g) := ix.store.beginPass c.repository
    some ({ s with indexer := { ix with store } }, { c with stage := .fetching g })
  | .fetching g =>
    let delay := SourceProvider.fetchDelay ix.source
    let abandoned := s.leftRunning delay ⟨c.repository, c.gitRef, true⟩
    match ix.callSource c.repository c.gitRef delay
        (fun src => SourceProvider.fetchTree src c.repository c.gitRef) with
    | (ix', .error e) => some ({ s with indexer := ix', abandoned }, { c with stage := .failing g e })
    | (ix', .ok checkout) =>
      let scan := ix'.filter.scan checkout.tree checkout.versioned
      some ({ s with indexer := ix', abandoned },
        { c with stage := .writing g checkout (Indexer.openReport c.repository c.gitRef g checkout.commit scan)
                            scan.files })
  | .writing g checkout report [] =>
    let (ix', report') := ix.commitPass c.repository g checkout.commit report
    some ({ s with indexer := ix' }, { c with stage := .done (.ok (some report')) })
  | .writing g checkout report (file :: rest) =>
    match ix.finishFile .serial c.repository g report file with
    | .ok (ix', report') => some ({ s with indexer := ix' }, { c with stage := .writing g checkout report' rest })
    | .error e => some (s, { c with stage := .failing g e })
  | .failing g e =>
    some ({ s with indexer := ix.failPass .serial c.repository g e }, { c with stage := .done (.error e) })
  | .done _ => none

/-- The indexer and its calls after the scheduler's turn; a call that cannot run leaves them as
they were. -/
def step (s : Shared σ) : Turn → Shared σ
  | .arrive repository gitRef checks => { s with calls := s.calls ++ [{ repository, gitRef, checks }] }
  | .resume i =>
    match s.calls[i]? with
    | none => s
    | some c =>
      match s.resume c with
      | none => s
      | some (s', c') => { s' with calls := s.calls.set i c' }
  | .finish j => { s with abandoned := s.abandoned.eraseIdx j }

/-- The indexer and its calls after a schedule of turns. -/
def run (s : Shared σ) (turns : List Turn) : Shared σ := turns.foldl step s

/-- The generation `repository`'s pass in progress writes, if a call runs one. -/
def openPass (s : Shared σ) (repository : String) : Option Int :=
  s.calls.findSome? (fun c => if c.repository = repository then c.stage.pass? else none)

/-- The fetches of `repository` running now: those a call waits for, and abandoned ones. -/
def fetchesInFlight (s : Shared σ) (repository : String) : Nat :=
  (s.calls.filter (fun c => c.repository == repository && c.stage.awaitsFetch)).length +
    (s.abandoned.filter (fun j => j.repository == repository && j.fetches)).length

end Shared

/-- The states calls made on an indexer that starts as `start` can reach. -/
inductive Shared.Reachable {σ : Type} [SourceProvider σ] (start : Indexer σ) : Shared σ → Prop
  | idle : Shared.Reachable start { indexer := start }
  | step {s : Shared σ} (turn : Turn) : Shared.Reachable start s → Shared.Reachable start (s.step turn)

end RepoSearch.Index
