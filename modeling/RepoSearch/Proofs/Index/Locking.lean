import RepoSearch.Index.Shared
import RepoSearch.Proofs.Index.Freshness
import RepoSearch.Proofs.Search.Isolation
/-! Calls running at once on one indexer, for one repository. Every call of a repository finds
the same lock in the table, so the calls that hold it follow one another: while one holds it, a
turn of any other call of the repository only looks the lock up or waits. Hence the store's
operations on a repository form a disciplined run (each write, commit or failure belongs to the
pass in progress), a pass's generation holds exactly what that pass wrote, a commit leaves the
chunks of the committing pass's own files and no other row, and every other turn leaves the
committed snapshot as it was.

One thing the lock does not order: a caller that stops waiting for a fetch at the deadline
releases the lock while the fetch runs on, so the next pass's fetch can run beside it. At most
one fetch of a repository is awaited at a time, and when fetches end before the deadline that
is the only one in flight. -/
namespace RepoSearch.Store

theorem ChunkStore.openPass_other {s : ChunkStore} {repo : String} {pass : Option Int} {op : PassOp}
    (other : op.repository ≠ repo) : s.openPass repo pass op = pass := by
  cases op <;> simp_all [ChunkStore.openPass, PassOp.repository]

theorem PassOp.allowed_other {repo : String} {pass : Option Int} {op : PassOp}
    (other : op.repository ≠ repo) : op.Allowed repo pass := by
  cases op <;> simp_all [PassOp.Allowed, PassOp.repository]

/-- What a commit of `repo`'s pass at generation `g` for `commit` leaves in the store `after`:
`g` is current and holds the pass's chunks `chunks`, each whose id an earlier one took left out;
no other row of `repo` is left; the record names the commit and says indexed. -/
structure PassCommitted (after : ChunkStore) (repo : String) (g : Int) (commit : String)
    (chunks : List EmbeddedChunk) : Prop where
  current : after.generation repo = g
  pass_rows : (after.snapshot repo g).map StoredChunk.entry = freshChunks [] chunks
  others_dropped : ∀ r ∈ after.rows, r.repository = repo → r.generation = g
  commit_recorded : (after.recordOf repo).lastCommit = some commit
  marked_indexed : (after.recordOf repo).state = .indexed

/-- Committing the open pass keeps what it wrote into its generation and drops every other row
of the repository. -/
theorem PassInvariant.commit_keeps_pass {repo : String} {s : ChunkStore} {g : Int} (inv : PassInvariant repo s (some g))
    (commit : String) {chunks : List EmbeddedChunk}
    (rows : (s.snapshot repo g).map StoredChunk.entry = freshChunks [] chunks) :
    PassCommitted (s.perform (.commit repo g commit)) repo g commit chunks := by
  obtain ⟨r, found, -, -⟩ := inv.record_of_open rfl
  have record := ChunkStore.recordOf_perform_commit (g := g) (c := commit) found
  refine ⟨by simp [ChunkStore.generation, record], ?_, fun row mem mine => ?_, by simp [record],
    by simp [record]⟩
  · rw [ChunkStore.snapshot_perform_commit, if_neg (by simp), rows]
  · -- committing empties every other generation of the repository
    by_contra other
    have held := ChunkStore.mem_snapshot.mpr ⟨mem, mine, rfl⟩
    rw [ChunkStore.snapshot_perform_commit, if_pos other] at held
    cases held

end RepoSearch.Store

namespace RepoSearch.Index

open RepoSearch.Files RepoSearch.Source RepoSearch.Store

namespace Shared

variable {σ : Type} [SourceProvider σ]

/-- What one turn of a call can do at each stage of its body, with the guard it needs. -/
inductive Moves (s : Shared σ) : Call → Shared σ → Call → Prop
  | lookup {c : Call} : c.stage = .created →
      Moves s c { s with locks := lockTable s.locks c.repository }
        { c with lock := (lockTable s.locks c.repository).idxOf c.repository, stage := .waiting }
  | acquire {c : Call} : c.stage = .waiting → s.lockHeld c.lock = false →
      Moves s c s { c with stage := if c.checks then .checking else .starting }
  | checkNew {c : Call} : c.stage = .checking → s.indexer.indexedCommit c.repository = none →
      Moves s c s { c with stage := .starting }
  | checkKnown {c : Call} {indexed : String} : c.stage = .checking →
      s.indexer.indexedCommit c.repository = some indexed →
      Moves s c s { c with stage := .asking indexed }
  | ask {c : Call} {indexed : String} {ix : Indexer σ} {stale : Bool} : c.stage = .asking indexed →
      s.indexer.movedFrom c.repository c.gitRef indexed = (ix, stale) →
      Moves s c { s with indexer := ix, abandoned := s.leftRunning 0 ⟨c.repository, c.gitRef, false⟩ }
        { c with stage := if stale then .starting else .done (.ok none) }
  | start {c : Call} {store : ChunkStore} {g : Int} : c.stage = .starting →
      s.indexer.store.beginPass c.repository = (store, g) →
      Moves s c { s with indexer := { s.indexer with store } } { c with stage := .fetching g }
  | fetchFailed {c : Call} {g : Int} {ix : Indexer σ} {e : IndexError} : c.stage = .fetching g →
      s.indexer.callSource c.repository c.gitRef (SourceProvider.fetchDelay s.indexer.source)
        (fun src => SourceProvider.fetchTree src c.repository c.gitRef) = (ix, .error e) →
      Moves s c { s with indexer := ix,
                         abandoned := (s.leftRunning (SourceProvider.fetchDelay s.indexer.source)
                           ⟨c.repository, c.gitRef, true⟩) }
        { c with stage := .failing g e }
  | fetched {c : Call} {g : Int} {ix : Indexer σ} {checkout : Checkout} : c.stage = .fetching g →
      s.indexer.callSource c.repository c.gitRef (SourceProvider.fetchDelay s.indexer.source)
        (fun src => SourceProvider.fetchTree src c.repository c.gitRef) = (ix, .ok checkout) →
      Moves s c { s with indexer := ix,
                         abandoned := (s.leftRunning (SourceProvider.fetchDelay s.indexer.source)
                           ⟨c.repository, c.gitRef, true⟩) }
        { c with stage := (.writing g checkout
            (Indexer.openReport c.repository c.gitRef g checkout.commit
              (ix.filter.scan checkout.tree checkout.versioned))
            (ix.filter.scan checkout.tree checkout.versioned).files) }
  | commit {c : Call} {g : Int} {checkout : Checkout} {report report' : IndexReport} {ix : Indexer σ} :
      c.stage = .writing g checkout report [] →
      s.indexer.commitPass c.repository g checkout.commit report = (ix, report') →
      Moves s c { s with indexer := ix } { c with stage := .done (.ok (some report')) }
  | write {c : Call} {g : Int} {checkout : Checkout} {report report' : IndexReport} {file : SourceFile}
      {rest : List SourceFile} {ix : Indexer σ} : c.stage = .writing g checkout report (file :: rest) →
      s.indexer.finishFile .serial c.repository g report file = .ok (ix, report') →
      Moves s c { s with indexer := ix } { c with stage := .writing g checkout report' rest }
  | writeFailed {c : Call} {g : Int} {checkout : Checkout} {report : IndexReport} {file : SourceFile}
      {rest : List SourceFile} {e : IndexError} : c.stage = .writing g checkout report (file :: rest) →
      s.indexer.finishFile .serial c.repository g report file = .error e →
      Moves s c s { c with stage := .failing g e }
  | fail {c : Call} {g : Int} {e : IndexError} : c.stage = .failing g e →
      Moves s c { s with indexer := s.indexer.failPass .serial c.repository g e }
        { c with stage := .done (.error e) }

variable {s s' : Shared σ} {c c' : Call}

theorem Moves.of_resume (h : s.resume c = some (s', c')) : Moves s c s' c' := by
  unfold resume at h
  dsimp only at h
  split at h
  · next created =>
    cases h
    exact .lookup created
  · next waiting =>
    split at h
    · cases h
    · next free =>
      cases h
      exact .acquire waiting (by simpa using free)
  · next checking =>
    split at h
    · next unknown =>
      cases h
      exact .checkNew checking unknown
    · next indexed known =>
      cases h
      exact .checkKnown checking known
  · next indexed asking =>
    cases h
    exact .ask asking rfl
  · next starting =>
    cases h
    exact .start starting rfl
  · next g fetching =>
    split at h
    · next ix e fetched =>
      cases h
      exact .fetchFailed fetching fetched
    · next ix checkout fetched =>
      cases h
      exact .fetched fetching fetched
  · next g checkout report writing =>
    cases h
    exact .commit writing rfl
  · next g checkout report file rest writing =>
    split at h
    · next ix report' wrote =>
      cases h
      exact .write writing wrote
    · next e failed =>
      cases h
      exact .writeFailed writing failed
  · next g e failing =>
    cases h
    exact .fail failing
  · cases h

end Shared

/-! ### What a move changes -/


namespace Indexer

variable {σ : Type} [SourceProvider σ] {ix ix' : Indexer σ} {repo gitRef : String}

theorem movedFrom_fst (indexed : String) :
    (ix.movedFrom repo gitRef indexed).1 =
      { ix with source := SourceProvider.wait (SourceProvider.currentCommit ix.source repo gitRef).1
                            (min 0 ix.config.fetchTimeoutMs) } := by
  simp only [movedFrom]
  split <;> next asked => exact eq_of_callSource asked

omit [SourceProvider σ] in
theorem commitPass_fst {g : Int} {commit : String} {report : IndexReport} :
    (ix.commitPass repo g commit report).1 = { ix with store := ix.store.perform (.commit repo g commit) } :=
  rfl

end Indexer

namespace Stage

theorem holdsLock_of_pass? {st : Stage} {g : Int} (h : st.pass? = some g) : st.holdsLock = true := by
  cases st <;> simp_all [pass?, holdsLock]

theorem holdsLock_of_awaitsFetch {st : Stage} (h : st.awaitsFetch = true) : st.holdsLock = true := by
  cases st <;> simp_all [awaitsFetch, holdsLock]

theorem ne_created_of_holdsLock {st : Stage} (h : st.holdsLock = true) : st ≠ .created := by
  rintro rfl
  cases h

end Stage

theorem mem_lockTable (locks : List String) (repository : String) : repository ∈ lockTable locks repository := by
  unfold lockTable
  split
  · assumption
  · simp

theorem idxOf_lockTable {locks : List String} (repository : String) {name : String} (known : name ∈ locks) :
    (lockTable locks repository).idxOf name = locks.idxOf name ∧ name ∈ lockTable locks repository := by
  unfold lockTable
  split
  · exact ⟨rfl, known⟩
  · exact ⟨List.idxOf_append_of_mem known, List.mem_append_left _ known⟩

namespace Shared

variable {σ : Type} [SourceProvider σ] {s s' : Shared σ} {c c' : Call}

namespace Moves

theorem calls (m : Moves s c s' c') : s'.calls = s.calls := by
  cases m <;> rfl

theorem keeps_call (m : Moves s c s' c') :
    c'.repository = c.repository ∧ c'.gitRef = c.gitRef ∧ c'.checks = c.checks := by
  cases m <;> exact ⟨rfl, rfl, rfl⟩

theorem lookup_or_keep (m : Moves s c s' c') :
    (c.stage = .created ∧ s'.locks = lockTable s.locks c.repository ∧
      c'.lock = s'.locks.idxOf c.repository) ∨
    (c.stage ≠ .created ∧ s'.locks = s.locks ∧ c'.lock = c.lock) := by
  cases m with
  | lookup created => exact .inl ⟨created, rfl, rfl⟩
  | _ => exact .inr ⟨by simp_all, rfl, rfl⟩

theorem holds (m : Moves s c s' c') (h : c'.stage.holdsLock = true) :
    c'.lock = c.lock ∧ (c.stage.holdsLock = true ∨ s.lockHeld c.lock = false) := by
  cases m with
  | lookup => simp [Stage.holdsLock] at h
  | acquire _ free => exact ⟨rfl, .inr free⟩
  | commit => simp [Stage.holdsLock] at h
  | fail => simp [Stage.holdsLock] at h
  | _ => exact ⟨rfl, .inl (by simp_all [Stage.holdsLock])⟩

theorem indexer_eq (m : Moves s c s' c') :
    s'.indexer = { s.indexer with store := s'.indexer.store, source := s'.indexer.source } := by
  cases m with
  | ask _ asked =>
    obtain rfl : _ = _ := (congrArg Prod.fst asked).symm.trans (Indexer.movedFrom_fst _)
    rfl
  | fetchFailed _ fetched =>
    obtain rfl := Indexer.eq_of_callSource fetched
    rfl
  | fetched _ fetched =>
    obtain rfl := Indexer.eq_of_callSource fetched
    rfl
  | commit _ committed =>
    obtain rfl : _ = _ := (congrArg Prod.fst committed).symm.trans Indexer.commitPass_fst
    rfl
  | write _ wrote =>
    obtain rfl := Indexer.finishFile_store wrote
    rfl
  | _ => rfl

theorem store_eq (m : Moves s c s' c') :
    s'.indexer.store = s.indexer.store ∨
      ∃ op : PassOp, op.repository = c.repository ∧ c.stage.holdsLock = true ∧
        s'.indexer.store = s.indexer.store.perform op := by
  cases m with
  | ask _ asked =>
    obtain rfl : _ = _ := (congrArg Prod.fst asked).symm.trans (Indexer.movedFrom_fst _)
    exact .inl rfl
  | start starting begun =>
    refine .inr ⟨.begin c.repository, rfl, by simp [starting, Stage.holdsLock], ?_⟩
    show _ = (s.indexer.store.beginPass c.repository).1
    rw [begun]
  | fetchFailed _ fetched => exact .inl (Indexer.store_of_callSource fetched)
  | fetched _ fetched => exact .inl (Indexer.store_of_callSource fetched)
  | commit writing committed =>
    obtain rfl : _ = _ := (congrArg Prod.fst committed).symm.trans Indexer.commitPass_fst
    exact .inr ⟨.commit c.repository _ _, rfl, by simp [writing, Stage.holdsLock], rfl⟩
  | write writing wrote =>
    obtain rfl := Indexer.finishFile_store wrote
    exact .inr ⟨.insert c.repository _ _, rfl, by simp [writing, Stage.holdsLock], rfl⟩
  | fail failing => exact .inr ⟨.fail c.repository _ _, rfl, by simp [failing, Stage.holdsLock], rfl⟩
  | _ => exact .inl rfl

theorem store_other (m : Moves s c s' c') {repo : String} (other : repo ≠ c.repository) :
    s'.indexer.store.record? repo = s.indexer.store.record? repo ∧
      ∀ g, s'.indexer.store.snapshot repo g = s.indexer.store.snapshot repo g := by
  rcases m.store_eq with same | ⟨op, mine, -, performed⟩
  · rw [same]
    exact ⟨rfl, fun _ => rfl⟩
  · rw [performed]
    exact ChunkStore.perform_other (by rw [mine]; exact Ne.symm other)

theorem dimensions_eq (m : Moves s c s' c') :
    s'.indexer.store.dimensions = s.indexer.store.dimensions := by
  rcases m.store_eq with same | ⟨op, -, -, performed⟩
  · rw [same]
  · rw [performed]
    exact ChunkStore.dimensions_perform op

theorem config_eq (m : Moves s c s' c') : s'.indexer.config = s.indexer.config := by
  have same := congrArg Indexer.config m.indexer_eq
  exact same

theorem filter_eq (m : Moves s c s' c') : s'.indexer.filter = s.indexer.filter := by
  have same := congrArg Indexer.filter m.indexer_eq
  exact same

theorem fileEntries_eq (m : Moves s c s' c') : s'.indexer.fileEntries = s.indexer.fileEntries := by
  have embedder := congrArg Indexer.embedder m.indexer_eq
  exact Indexer.fileEntries_congr m.config_eq embedder m.dimensions_eq

end Moves

/-- A turn moves one call, brings a new call, or changes none of the calls, the locks and the
indexer. -/
theorem step_cases (s : Shared σ) (turn : Turn) :
    (∃ i c c' s', s.calls[i]? = some c ∧ Moves s c s' c' ∧
      s.step turn = { s' with calls := s.calls.set i c' }) ∨
    (∃ call : Call, call.stage = .created ∧ s.step turn = { s with calls := s.calls ++ [call] }) ∨
    ((s.step turn).indexer = s.indexer ∧ (s.step turn).calls = s.calls ∧ (s.step turn).locks = s.locks) := by
  cases turn with
  | arrive repository gitRef checks => exact .inr (.inl ⟨_, rfl, rfl⟩)
  | resume i =>
    cases found : s.calls[i]? with
    | none => exact .inr (.inr (by simp [step, found]))
    | some c =>
      cases moved : s.resume c with
      | none => exact .inr (.inr (by simp [step, found, moved]))
      | some next =>
        obtain ⟨s', c'⟩ := next
        exact .inl ⟨i, c, c', s', found, Moves.of_resume moved, by simp [step, found, moved]⟩
  | finish j => exact .inr (.inr ⟨rfl, rfl, rfl⟩)

end Shared

/-! ### The invariant -/

/-- What a pass at stage `stage` has written of `repo` into its generation: nothing while it
waits for its tree; then, while it writes, the chunks of the walked files already written, in
walk order, each whose id an earlier chunk took left out. -/
def PassRows {σ : Type} (ix : Indexer σ) (repo : String) : Stage → Prop
  | .fetching g => ix.store.snapshot repo g = []
  | .writing g checkout _ files => ∃ written : List SourceFile,
      written ++ files = (ix.filter.scan checkout.tree checkout.versioned).files ∧
      (ix.store.snapshot repo g).map StoredChunk.entry = freshChunks [] (written.flatMap ix.fileEntries)
  | _ => True

theorem PassRows.transfer {σ : Type} {ix ix' : Indexer σ} {repo : String} {stage : Stage}
    (rows : PassRows ix repo stage) (filter : ix'.filter = ix.filter) (entries : ix'.fileEntries = ix.fileEntries)
    (same : ∀ g, ix'.store.snapshot repo g = ix.store.snapshot repo g) : PassRows ix' repo stage := by
  cases stage with
  | fetching g => exact (same g).trans rows
  | writing g checkout report files =>
    obtain ⟨written, walked, held⟩ := rows
    exact ⟨written, by rw [filter]; exact walked, by rw [same, entries]; exact held⟩
  | _ => trivial

/-- Whether a call at a stage has written all its files and commits next. -/
def Stage.commitsNext : Stage → Bool
  | .writing _ _ _ [] => true
  | _ => false

theorem PassRows.of_free {σ : Type} {ix : Indexer σ} {repo : String} {stage : Stage}
    (free : stage.holdsLock = false) : PassRows ix repo stage := by
  cases stage <;> simp_all [Stage.holdsLock, PassRows]

namespace Shared

variable {σ : Type} [SourceProvider σ] {s s' : Shared σ} {c c' d : Call} {i j : Nat}

omit [SourceProvider σ] in
theorem lockHeld_of_holder (held : s.calls[j]? = some d) (holds : d.stage.holdsLock = true) :
    s.lockHeld d.lock = true :=
  List.any_eq_true.mpr ⟨d, List.mem_of_getElem? held, by simp [holds]⟩

theorem getElem?_set_cases {l : List Call} (found : l[i]? = some c) {e : Call}
    (h : (l.set i c')[j]? = some e) : (j = i ∧ e = c') ∨ (j ≠ i ∧ l[j]? = some e) := by
  have bound : i < l.length := (List.getElem?_eq_some_iff.mp found).1
  by_cases here : j = i
  · subst here
    rw [List.getElem?_set_self bound] at h
    exact .inl ⟨rfl, (Option.some.inj h).symm⟩
  · rw [List.getElem?_set_ne (Ne.symm here)] at h
    exact .inr ⟨here, h⟩

theorem mem_set_cases {l : List Call} (found : l[i]? = some c) {e : Call} (mem : e ∈ l.set i c') :
    e = c' ∨ ∃ j, j ≠ i ∧ l[j]? = some e := by
  obtain ⟨j, h⟩ := List.mem_iff_getElem?.mp mem
  rcases getElem?_set_cases found h with ⟨-, same⟩ | ⟨other, old⟩
  · exact .inl same
  · exact .inr ⟨j, other, old⟩

/-- What every state that calls reach keeps. -/
structure Invariant (s : Shared σ) : Prop where
  /-- A call past its first line has its repository's lock, the repository's place in the table. -/
  located : ∀ c ∈ s.calls, c.stage = .created ∨ c.repository ∈ s.locks ∧ c.lock = s.locks.idxOf c.repository
  /-- Two calls holding one lock are one call. -/
  exclusive : ∀ (i j : Nat) (c d : Call), s.calls[i]? = some c → s.calls[j]? = some d → c.stage.holdsLock = true →
    d.stage.holdsLock = true → c.lock = d.lock → i = j
  /-- A pass in progress writes the generation after its repository's current one. -/
  next_generation : ∀ c ∈ s.calls, ∀ g, c.stage.pass? = some g →
    g = s.indexer.store.generation c.repository + 1
  /-- A pass in progress has written exactly the chunks of its files written so far. -/
  written : ∀ c ∈ s.calls, PassRows s.indexer c.repository c.stage

namespace Invariant

omit [SourceProvider σ] in
theorem lock_eq (inv : Invariant s) (found : s.calls[i]? = some c) (started : c.stage ≠ .created) :
    c.lock = s.locks.idxOf c.repository := by
  rcases inv.located c (List.mem_of_getElem? found) with created | ⟨-, lock⟩
  · exact absurd created started
  · exact lock

omit [SourceProvider σ] in
theorem one_holder (inv : Invariant s) (hc : s.calls[i]? = some c) (hd : s.calls[j]? = some d)
    (same : c.repository = d.repository) (cHolds : c.stage.holdsLock = true)
    (dHolds : d.stage.holdsLock = true) : i = j := by
  have cLock := inv.lock_eq hc (Stage.ne_created_of_holdsLock cHolds)
  have dLock := inv.lock_eq hd (Stage.ne_created_of_holdsLock dHolds)
  exact inv.exclusive i j c d hc hd cHolds dHolds (by rw [cLock, dLock, same])

theorem others_frame (inv : Invariant s) (found : s.calls[i]? = some c) (m : Moves s c s' c')
    (held : s.calls[j]? = some d) (other : j ≠ i) (holds : d.stage.holdsLock = true) :
    s'.indexer.store.record? d.repository = s.indexer.store.record? d.repository ∧
      ∀ g, s'.indexer.store.snapshot d.repository g = s.indexer.store.snapshot d.repository g := by
  rcases m.store_eq with same | ⟨op, mine, cHolds, performed⟩
  · rw [same]
    exact ⟨rfl, fun _ => rfl⟩
  · by_cases shared : d.repository = c.repository
    · exact absurd (inv.one_holder held found shared holds cHolds) other
    · exact m.store_other shared

omit [SourceProvider σ] in
theorem initial (start : Indexer σ) : Invariant ({ indexer := start } : Shared σ) where
  located _ mem := by simp at mem
  exclusive _ _ _ _ found := by simp at found
  next_generation _ mem := by simp at mem
  written _ mem := by simp at mem

theorem moved_generation (inv : Invariant s) (found : s.calls[i]? = some c) (m : Moves s c s' c')
    {g : Int} (pass : c'.stage.pass? = some g) : g = s'.indexer.store.generation c'.repository + 1 := by
  have before := inv.next_generation c (List.mem_of_getElem? found)
  cases m with
  | acquire => split at pass <;> simp [Stage.pass?] at pass
  | ask => split at pass <;> simp [Stage.pass?] at pass
  | start starting begun =>
    simp only [Stage.pass?, Option.some.injEq] at pass
    subst pass
    have next : (s.indexer.store.beginPass c.repository).2 = _ := ChunkStore.snd_beginPass
    have kept : (s.indexer.store.perform (.begin c.repository)).generation c.repository = _ :=
      ChunkStore.generation_perform_begin
    simp only [ChunkStore.perform, begun] at next kept
    rw [next]
    exact congrArg (· + 1) kept.symm
  | fetchFailed fetching fetched =>
    simp only [Stage.pass?, Option.some.injEq] at pass
    subst pass
    rw [Indexer.store_of_callSource fetched]
    exact before _ (by simp [fetching, Stage.pass?])
  | fetched fetching fetched =>
    simp only [Stage.pass?, Option.some.injEq] at pass
    subst pass
    rw [Indexer.store_of_callSource fetched]
    exact before _ (by simp [fetching, Stage.pass?])
  | write writing wrote =>
    simp only [Stage.pass?, Option.some.injEq] at pass
    subst pass
    obtain rfl := Indexer.finishFile_store wrote
    simp only [ChunkStore.generation, ChunkStore.recordOf_perform_insert]
    exact before _ (by simp [writing, Stage.pass?])
  | writeFailed writing _ =>
    simp only [Stage.pass?, Option.some.injEq] at pass
    subst pass
    exact before _ (by simp [writing, Stage.pass?])
  | _ => simp [Stage.pass?] at pass

theorem moved_rows (inv : Invariant s) (found : s.calls[i]? = some c) (m : Moves s c s' c') :
    PassRows s'.indexer c'.repository c'.stage := by
  have before := inv.written c (List.mem_of_getElem? found)
  cases m with
  | acquire => cases c.checks <;> trivial
  | ask => split <;> trivial
  | start starting begun =>
    -- starting a pass empties every generation but the current one, and the pass writes the next
    have next : (s.indexer.store.beginPass c.repository).2 = _ := ChunkStore.snd_beginPass
    have emptied : (s.indexer.store.beginPass c.repository).1.snapshot c.repository
        (s.indexer.store.generation c.repository + 1) = _ :=
      ChunkStore.snapshot_beginPass (s.indexer.store.generation c.repository + 1)
    simp only [begun] at next emptied
    show ChunkStore.snapshot _ _ _ = []
    rw [next, emptied, if_pos ⟨trivial, by omega⟩]
  | fetched fetching fetched =>
    rw [fetching] at before
    refine ⟨[], rfl, ?_⟩
    rw [Indexer.store_of_callSource fetched]
    simp [PassRows] at before
    simp [before, freshChunks]
  | @write g checkout report report' file rest ix writing wrote =>
    rw [writing] at before
    obtain ⟨written, walked, held⟩ := before
    obtain ⟨same, n, inserted⟩ := Indexer.finishFile_inserted wrote
    have rows := ChunkStore.insertAll_snapshot inserted
    rw [Indexer.entriesIn_serial] at rows
    have entries : ix.fileEntries = s.indexer.fileEntries := by
      rw [same]
      exact Indexer.fileEntries_congr rfl rfl (ChunkStore.insertAll_frame inserted).1
    have ids : (freshChunks [] (written.flatMap s.indexer.fileEntries)).map (·.chunk.id) =
        (s.indexer.store.snapshot c.repository g).map (·.chunk.id) := by
      rw [← held, List.map_map]
      rfl
    refine ⟨written ++ [file], by rw [same, List.append_assoc, List.singleton_append]; exact walked, ?_⟩
    show (ix.store.snapshot c.repository g).map _ = _
    rw [entries, rows, held, List.flatMap_append, freshChunks_append, ids, List.nil_append,
      List.flatMap_singleton]
  | _ => trivial

theorem move (inv : Invariant s) (found : s.calls[i]? = some c) (m : Moves s c s' c') :
    Invariant { s' with calls := s.calls.set i c' } where
  located := by
    intro e mem
    rcases m.lookup_or_keep with ⟨-, locks, lock⟩ | ⟨fresh, locks, lock⟩
    · rcases mem_set_cases found mem with rfl | ⟨j, -, held⟩
      · refine .inr ⟨?_, ?_⟩
        · rw [locks, m.keeps_call.1]
          exact mem_lockTable _ _
        · rw [lock, m.keeps_call.1]
      · rcases inv.located e (List.mem_of_getElem? held) with created | ⟨known, place⟩
        · exact .inl created
        · obtain ⟨same, kept⟩ := idxOf_lockTable c.repository known
          exact .inr ⟨by rw [locks]; exact kept, by rw [locks, same]; exact place⟩
    · rcases mem_set_cases found mem with rfl | ⟨j, -, held⟩
      · rcases inv.located c (List.mem_of_getElem? found) with created | ⟨known, place⟩
        · exact absurd created fresh
        · refine .inr ⟨?_, ?_⟩
          · rw [locks, m.keeps_call.1]
            exact known
          · rw [lock, locks, m.keeps_call.1]
            exact place
      · rw [locks]
        exact inv.located e (List.mem_of_getElem? held)
  exclusive := by
    -- a call comes to hold a lock only when no call holds it
    have joins : ∀ {k : Nat} {e : Call}, k ≠ i → s.calls[k]? = some e → c'.stage.holdsLock = true →
        e.stage.holdsLock = true → c'.lock = e.lock → False := by
      intro k e other held cHolds eHolds sameLock
      obtain ⟨lock, before | free⟩ := m.holds cHolds
      · exact other (inv.exclusive _ _ _ _ held found eHolds before (by rw [← sameLock, lock]))
      · have busy := lockHeld_of_holder held eHolds
        rw [← sameLock, lock, free] at busy
        cases busy
    intro j k d e hd he dHolds eHolds sameLock
    rcases getElem?_set_cases found hd with ⟨rfl, rfl⟩ | ⟨dOther, dOld⟩ <;>
      rcases getElem?_set_cases found he with ⟨rfl, rfl⟩ | ⟨eOther, eOld⟩
    · rfl
    · exact (joins eOther eOld dHolds eHolds sameLock).elim
    · exact (joins dOther dOld eHolds dHolds sameLock.symm).elim
    · exact inv.exclusive _ _ _ _ dOld eOld dHolds eHolds sameLock
  next_generation := by
    intro e mem g pass
    rcases mem_set_cases found mem with rfl | ⟨j, other, held⟩
    · exact (inv.moved_generation found m pass : g = s'.indexer.store.generation _ + 1)
    · obtain ⟨record, -⟩ := inv.others_frame found m held other (Stage.holdsLock_of_pass? pass)
      have kept : s'.indexer.store.generation e.repository = s.indexer.store.generation e.repository := by
        simp [ChunkStore.generation, ChunkStore.recordOf, record]
      show g = s'.indexer.store.generation e.repository + 1
      rw [kept]
      exact inv.next_generation e (List.mem_of_getElem? held) g pass
  written := by
    intro e mem
    rcases mem_set_cases found mem with rfl | ⟨j, other, held⟩
    · exact (inv.moved_rows found m : PassRows s'.indexer _ _)
    · by_cases holds : e.stage.holdsLock = true
      · obtain ⟨-, same⟩ := inv.others_frame found m held other holds
        exact (inv.written e (List.mem_of_getElem? held)).transfer m.filter_eq m.fileEntries_eq same
      · exact PassRows.of_free (by simpa using holds)

omit [SourceProvider σ] in
theorem arrive (inv : Invariant s) {call : Call} (created : call.stage = .created) :
    Invariant { s with calls := s.calls ++ [call] } where
  located e mem := by
    rcases List.mem_append.mp mem with old | new
    · exact inv.located e old
    · rw [List.mem_singleton.mp new]
      exact .inl created
  exclusive j k d e hd he dHolds eHolds sameLock := by
    -- the new call holds no lock, so both calls were there before
    have old : ∀ {k : Nat} {e : Call}, (s.calls ++ [call])[k]? = some e → e.stage.holdsLock = true →
        s.calls[k]? = some e := by
      intro k e h holds
      by_cases before : k < s.calls.length
      · rwa [List.getElem?_append_left before] at h
      · rw [List.getElem?_append_right (by omega)] at h
        have last : e = call := by
          rcases hk : k - s.calls.length with _ | n
          · rw [hk] at h
            exact (Option.some.inj h).symm
          · rw [hk] at h
            simp at h
        rw [last, created] at holds
        cases holds
    exact inv.exclusive j k d e (old hd dHolds) (old he eHolds) dHolds eHolds sameLock
  next_generation e mem g pass := by
    rcases List.mem_append.mp mem with old | new
    · exact inv.next_generation e old g pass
    · rw [List.mem_singleton.mp new, created] at pass
      cases pass
  written e mem := by
    rcases List.mem_append.mp mem with old | new
    · exact inv.written e old
    · rw [List.mem_singleton.mp new, created]
      trivial

theorem step (inv : Invariant s) (turn : Turn) : Invariant (s.step turn) := by
  rcases step_cases s turn with ⟨i, c, c', s', found, m, next⟩ | ⟨call, created, next⟩ |
      ⟨indexer, calls, locks⟩
  · rw [next]
    exact inv.move found m
  · rw [next]
    exact inv.arrive created
  · obtain ⟨located, exclusive, generation, written⟩ := inv
    refine ⟨?_, ?_, ?_, ?_⟩ <;> rw [calls] <;> (try rw [locks]) <;> (try rw [indexer])
    · exact located
    · exact exclusive
    · exact generation
    · exact written

omit [SourceProvider σ] in
theorem others_free (inv : Invariant s) (found : s.calls[i]? = some c) (holds : c.stage.holdsLock = true)
    (held : s.calls[j]? = some d) (other : j ≠ i) (same : d.repository = c.repository) :
    d.stage.holdsLock = false := by
  cases dHolds : d.stage.holdsLock
  · rfl
  · exact absurd (inv.one_holder held found same dHolds holds) other

end Invariant

theorem Reachable.invariant {start : Indexer σ} (reach : Reachable start s) : Invariant s := by
  induction reach with
  | idle => exact Invariant.initial start
  | step turn _ inv => exact inv.step turn

/-! ### The pass in progress -/

/-- The pass a call of `repo` at a stage has in progress. -/
def passOf (repo : String) (c : Call) : Option Int :=
  if c.repository = repo then c.stage.pass? else none

omit [SourceProvider σ] in
theorem openPass_eq_findSome? (repo : String) : s.openPass repo = s.calls.findSome? (passOf repo) := rfl

theorem findSome?_set_of_eq {α β : Type} {f : α → Option β} :
    ∀ {l : List α} {i : Nat} {a b : α}, l[i]? = some a → f a = f b → (l.set i b).findSome? f = l.findSome? f
  | [], _, _, _, h, _ => by simp at h
  | x :: xs, 0, a, b, h, same => by
    simp only [List.getElem?_cons_zero, Option.some.injEq] at h
    subst h
    simp [List.findSome?_cons, same]
  | x :: xs, i + 1, a, b, h, same => by
    simp only [List.getElem?_cons_succ] at h
    simp [List.findSome?_cons, findSome?_set_of_eq h same]

theorem findSome?_of_all {α β : Type} {f : α → Option β} {l : List α} {b : β}
    (all : ∀ x ∈ l, f x = none ∨ f x = some b) (hit : ∃ x ∈ l, f x = some b) : l.findSome? f = some b := by
  induction l with
  | nil => simp at hit
  | cons x xs ih =>
    rw [List.findSome?_cons]
    rcases all x List.mem_cons_self with miss | found
    · rw [miss]
      obtain ⟨y, mem, hitY⟩ := hit
      rcases List.mem_cons.mp mem with rfl | later
      · rw [miss] at hitY
        cases hitY
      · exact ih (fun z mem => all z (List.mem_cons_of_mem x mem)) ⟨y, later, hitY⟩
    · rw [found]

omit [SourceProvider σ] in
theorem openPass_of_only (found : s.calls[i]? = some c)
    (only : ∀ j d, s.calls[j]? = some d → j ≠ i → d.repository = c.repository → d.stage.holdsLock = false) :
    s.openPass c.repository = c.stage.pass? := by
  rw [openPass_eq_findSome?]
  have others : ∀ d ∈ s.calls, passOf c.repository d = none ∨ passOf c.repository d = c.stage.pass? := by
    intro d mem
    obtain ⟨j, held⟩ := List.mem_iff_getElem?.mp mem
    by_cases same : j = i
    · subst same
      rw [found] at held
      cases held
      exact .inr (by simp [passOf])
    · by_cases mine : d.repository = c.repository
      · have free := only j d held same mine
        left
        cases pass : d.stage.pass? with
        | none => simp [passOf, pass]
        | some g =>
          rw [Stage.holdsLock_of_pass? pass] at free
          cases free
      · exact .inl (by simp [passOf, mine])
  cases pass : c.stage.pass? with
  | none =>
    apply List.findSome?_eq_none_iff.mpr
    intro d mem
    simpa [pass] using others d mem
  | some g =>
    exact findSome?_of_all (fun d mem => by simpa [pass] using others d mem)
      ⟨c, List.mem_of_getElem? found, by simp [passOf, pass]⟩

omit [SourceProvider σ] in
theorem Invariant.openPass_of_holder (inv : Invariant s) (found : s.calls[i]? = some c)
    (holds : c.stage.holdsLock = true) : s.openPass c.repository = c.stage.pass? :=
  openPass_of_only found fun _ _ held other same => inv.others_free found holds held other same

theorem Invariant.openPass_move_holder (inv : Invariant s) (found : s.calls[i]? = some c)
    (m : Moves s c s' c') (holds : c.stage.holdsLock = true) :
    ({ s' with calls := s.calls.set i c' } : Shared σ).openPass c.repository = c'.stage.pass? := by
  have bound : i < s.calls.length := (List.getElem?_eq_some_iff.mp found).1
  rw [← m.keeps_call.1]
  apply openPass_of_only (List.getElem?_set_self bound)
  intro j d held other same
  rw [List.getElem?_set_ne (Ne.symm other)] at held
  exact inv.others_free found holds held other (same.trans m.keeps_call.1)

theorem openPass_move_other (found : s.calls[i]? = some c) (m : Moves s c s' c') {repo : String}
    (other : repo ≠ c.repository) :
    ({ s' with calls := s.calls.set i c' } : Shared σ).openPass repo = s.openPass repo := by
  rw [openPass_eq_findSome?, openPass_eq_findSome?]
  exact findSome?_set_of_eq found (by simp [passOf, m.keeps_call.1, Ne.symm other])

theorem openPass_move_same (found : s.calls[i]? = some c) (m : Moves s c s' c')
    (same : c'.stage.pass? = c.stage.pass?) (repo : String) :
    ({ s' with calls := s.calls.set i c' } : Shared σ).openPass repo = s.openPass repo := by
  rw [openPass_eq_findSome?, openPass_eq_findSome?]
  exact findSome?_set_of_eq found (by simp [passOf, same, m.keeps_call.1])

/-- Whether a turn commits a pass of `repo`: it lets a call of `repo` that has written all its
files run. -/
def commitsPass (s : Shared σ) (repo : String) : Turn → Bool
  | .resume i =>
    match s.calls[i]? with
    | some c => c.repository == repo && c.stage.commitsNext
    | none => false
  | _ => false

theorem openPass_move_op (found : s.calls[i]? = some c) (m : Moves s c s' c') {op : PassOp}
    (mine : op.repository = c.repository) {repo : String} (other : repo ≠ c.repository) :
    ({ s' with calls := s.calls.set i c' } : Shared σ).openPass repo =
      s.indexer.store.openPass repo (s.openPass repo) op := by
  rw [openPass_move_other found m other, ChunkStore.openPass_other (by rw [mine]; exact Ne.symm other)]

theorem Invariant.holder_performs (inv : Invariant s) (found : s.calls[i]? = some c)
    (m : Moves s c s' c') (holds : c.stage.holdsLock = true) (op : PassOp)
    (store : s'.indexer.store = s.indexer.store.perform op) (mine : op.repository = c.repository)
    (allowed : op.Allowed c.repository c.stage.pass?)
    (moves : c'.stage.pass? = s.indexer.store.openPass c.repository c.stage.pass? op)
    (commits : ∀ repo, op.commits repo = (c.repository == repo && c.stage.commitsNext)) :
    ∃ op : PassOp, s'.indexer.store = s.indexer.store.perform op ∧
      (∀ repo, op.Allowed repo (s.openPass repo)) ∧
      (∀ repo, ({ s' with calls := s.calls.set i c' } : Shared σ).openPass repo =
        s.indexer.store.openPass repo (s.openPass repo) op) ∧
      ∀ repo, op.commits repo = (c.repository == repo && c.stage.commitsNext) := by
  have open_ := inv.openPass_of_holder found holds
  refine ⟨op, store, fun repo => ?_, fun repo => ?_, commits⟩
  · by_cases same : repo = c.repository
    · subst same
      rw [open_]
      exact allowed
    · exact PassOp.allowed_other (by rw [mine]; exact Ne.symm same)
  · by_cases same : repo = c.repository
    · subst same
      rw [inv.openPass_move_holder found m holds, open_]
      exact moves
    · exact openPass_move_op found m mine same

/-- A move that leaves the store changes no pass in progress and commits nothing; one that
changes it performs one operation of the call's repository that the passes in progress allow,
moves them as the store's bookkeeping says, and commits exactly when the call had written all
its files. -/
theorem Invariant.move_store (inv : Invariant s) (found : s.calls[i]? = some c) (m : Moves s c s' c') :
    (s'.indexer.store = s.indexer.store ∧
      (∀ repo, ({ s' with calls := s.calls.set i c' } : Shared σ).openPass repo = s.openPass repo) ∧
      c.stage.commitsNext = false) ∨
    ∃ op : PassOp, s'.indexer.store = s.indexer.store.perform op ∧
      (∀ repo, op.Allowed repo (s.openPass repo)) ∧
      (∀ repo, ({ s' with calls := s.calls.set i c' } : Shared σ).openPass repo =
        s.indexer.store.openPass repo (s.openPass repo) op) ∧
      ∀ repo, op.commits repo = (c.repository == repo && c.stage.commitsNext) := by
  have moved := m
  cases m with
  | lookup created =>
    exact .inl ⟨rfl, openPass_move_same found moved (by simp [created, Stage.pass?]),
      by simp [created, Stage.commitsNext]⟩
  | acquire waiting _ =>
    exact .inl ⟨rfl, openPass_move_same found moved (by rw [waiting]; split <;> rfl),
      by simp [waiting, Stage.commitsNext]⟩
  | checkNew checking _ =>
    exact .inl ⟨rfl, openPass_move_same found moved (by simp [checking, Stage.pass?]),
      by simp [checking, Stage.commitsNext]⟩
  | checkKnown checking _ =>
    exact .inl ⟨rfl, openPass_move_same found moved (by simp [checking, Stage.pass?]),
      by simp [checking, Stage.commitsNext]⟩
  | ask asking asked =>
    obtain rfl : _ = _ := (congrArg Prod.fst asked).symm.trans (Indexer.movedFrom_fst _)
    exact .inl ⟨rfl, openPass_move_same found moved (by rw [asking]; split <;> rfl),
      by simp [asking, Stage.commitsNext]⟩
  | fetchFailed fetching fetched =>
    exact .inl ⟨Indexer.store_of_callSource fetched,
      openPass_move_same found moved (by simp [fetching, Stage.pass?]), by simp [fetching, Stage.commitsNext]⟩
  | fetched fetching fetched =>
    exact .inl ⟨Indexer.store_of_callSource fetched,
      openPass_move_same found moved (by simp [fetching, Stage.pass?]), by simp [fetching, Stage.commitsNext]⟩
  | writeFailed writing _ =>
    exact .inl ⟨rfl, openPass_move_same found moved (by simp [writing, Stage.pass?]),
      by simp [writing, Stage.commitsNext]⟩
  | start starting begun =>
    have holds : c.stage.holdsLock = true := by simp [starting, Stage.holdsLock]
    refine .inr (inv.holder_performs found moved holds (.begin c.repository) ?_ rfl trivial
      (by simp [ChunkStore.openPass, begun, Stage.pass?])
      (fun repo => by simp [PassOp.commits, starting, Stage.commitsNext]))
    show _ = (s.indexer.store.beginPass c.repository).1
    rw [begun]
  | commit writing committed =>
    have holds : c.stage.holdsLock = true := by simp [writing, Stage.holdsLock]
    obtain rfl : _ = _ := (congrArg Prod.fst committed).symm.trans Indexer.commitPass_fst
    exact .inr (inv.holder_performs found moved holds (.commit c.repository _ _) rfl rfl (fun _ => by rw [writing]; rfl)
      (by simp [ChunkStore.openPass, Stage.pass?])
      (fun repo => by simp [PassOp.commits, writing, Stage.commitsNext]))
  | write writing wrote =>
    have holds : c.stage.holdsLock = true := by simp [writing, Stage.holdsLock]
    obtain rfl := Indexer.finishFile_store wrote
    exact .inr (inv.holder_performs found moved holds (.insert c.repository _ _) rfl rfl (fun _ => by rw [writing]; rfl)
      (by rw [writing]; rfl) (fun repo => by simp [PassOp.commits, writing, Stage.commitsNext]))
  | fail failing =>
    have holds : c.stage.holdsLock = true := by simp [failing, Stage.holdsLock]
    exact .inr (inv.holder_performs found moved holds (.fail c.repository _ _) rfl rfl (fun _ => by rw [failing]; rfl)
      (by simp [ChunkStore.openPass, Stage.pass?])
      (fun repo => by simp [PassOp.commits, failing, Stage.commitsNext]))

theorem commitsNext_of_stuck (stuck : s.resume c = none) : c.stage.commitsNext = false := by
  unfold resume at stuck
  dsimp only at stuck
  split at stuck <;> simp_all [Stage.commitsNext]

theorem Invariant.step_store (inv : Invariant s) (turn : Turn) :
    ((s.step turn).indexer.store = s.indexer.store ∧
      (∀ repo, (s.step turn).openPass repo = s.openPass repo) ∧ ∀ repo, s.commitsPass repo turn = false) ∨
    ∃ op : PassOp, (s.step turn).indexer.store = s.indexer.store.perform op ∧
      (∀ repo, op.Allowed repo (s.openPass repo)) ∧
      (∀ repo, (s.step turn).openPass repo = s.indexer.store.openPass repo (s.openPass repo) op) ∧
      ∀ repo, op.commits repo = s.commitsPass repo turn := by
  cases turn with
  | arrive repository gitRef checks =>
    refine .inl ⟨rfl, fun repo => ?_, fun repo => rfl⟩
    simp [Shared.step, openPass_eq_findSome?, List.findSome?_append, passOf, Stage.pass?]
  | finish j => exact .inl ⟨rfl, fun repo => rfl, fun repo => rfl⟩
  | resume i =>
    cases found : s.calls[i]? with
    | none => exact .inl ⟨by simp [Shared.step, found], fun repo => by simp [Shared.step, found],
        fun repo => by simp [commitsPass, found]⟩
    | some c =>
      cases moved : s.resume c with
      | none =>
        have idle := commitsNext_of_stuck moved
        exact .inl ⟨by simp [Shared.step, found, moved], fun repo => by simp [Shared.step, found, moved],
          fun repo => by simp [commitsPass, found, idle]⟩
      | some next =>
        obtain ⟨s', c'⟩ := next
        have stepped : s.step (.resume i) = { s' with calls := s.calls.set i c' } := by
          simp [Shared.step, found, moved]
        have commits : ∀ repo, s.commitsPass repo (.resume i) = (c.repository == repo && c.stage.commitsNext) := by
          simp [commitsPass, found]
        rw [stepped]
        rcases inv.move_store found (Moves.of_resume moved) with
          ⟨store, opens, idle⟩ | ⟨op, store, allowed, opens, moves⟩
        · exact .inl ⟨store, opens, fun repo => by simp [commits, idle]⟩
        · exact .inr ⟨op, store, allowed, opens, fun repo => (moves repo).trans (commits repo).symm⟩

/-- Along every schedule of calls, the store's operations on each repository form a disciplined
run whose open pass is the one a call has in progress, as long as the store started with no
pass open. -/
theorem Reachable.disciplined {start : Indexer σ} {dims : Nat}
    (settled : ∀ repo, PassRun dims repo start.store none) (reach : Reachable start s) :
    ∀ repo, PassRun dims repo s.indexer.store (s.openPass repo) := by
  induction reach with
  | idle => exact settled
  | step turn reached ih =>
    intro repo
    rcases reached.invariant.step_store turn with ⟨store, opens, -⟩ | ⟨op, store, allowed, opens, -⟩
    · rw [store, opens]
      exact ih repo
    · rw [store, opens]
      exact .step op (ih repo) (allowed repo)

/-! ### One pass at a time -/

omit [SourceProvider σ] in
theorem Invariant.holders_le_one (inv : Invariant s) (repo : String) {p : Stage → Bool}
    (holding : ∀ st, p st = true → st.holdsLock = true) :
    s.calls.countP (fun c => c.repository == repo && p c.stage) ≤ 1 := by
  have apart : (s.calls.filter (fun c => c.repository == repo && p c.stage)).Pairwise (fun _ _ => False) := by
    rw [List.pairwise_filter, List.pairwise_iff_getElem]
    intro k l hk hl before pk pl
    simp only [Bool.and_eq_true, beq_iff_eq] at pk pl
    have same := inv.one_holder (List.getElem?_eq_getElem hk) (List.getElem?_eq_getElem hl)
      (pk.1.trans pl.1.symm) (holding _ pk.2) (holding _ pl.2)
    omega
  rw [List.countP_eq_length_filter]
  generalize s.calls.filter _ = held at apart ⊢
  match held, apart with
  | [], _ => simp
  | [_], _ => simp
  | _ :: _ :: _, apart => exact (List.rel_of_pairwise_cons apart List.mem_cons_self).elim

/-- While a call holds its repository's lock, a turn of another call of the repository changes
neither the indexer nor the holder: the other call only looks its lock up, or waits. -/
theorem Invariant.others_wait (inv : Invariant s) (found : s.calls[i]? = some c)
    (holds : c.stage.holdsLock = true) (held : s.calls[j]? = some d) (other : j ≠ i)
    (same : d.repository = c.repository) :
    (s.step (.resume j)).indexer = s.indexer ∧ (s.step (.resume j)).calls[i]? = some c := by
  have free := inv.others_free found holds held other same
  cases stage : d.stage with
  | created => simp [Shared.step, held, resume, stage, List.getElem?_set_ne other, found]
  | waiting =>
    have lock : d.lock = c.lock := by
      rw [inv.lock_eq held (by simp [stage]), inv.lock_eq found (Stage.ne_created_of_holdsLock holds), same]
    have busy : s.lockHeld d.lock = true := lock ▸ lockHeld_of_holder found holds
    simp [Shared.step, held, resume, stage, busy, found]
  | done result => simp [Shared.step, held, resume, stage, found]
  | _ => simp [stage, Stage.holdsLock] at free

/-! ### What a commit leaves -/

section Committed

variable {start : Indexer σ} {dims : Nat} {g : Int} {checkout : Checkout} {report : IndexReport}

/-- A turn that commits a pass makes the pass's generation current with exactly the chunks of
its walked files, drops every other row of the repository, and records the fetched commit. -/
theorem Reachable.commit_turn (settled : ∀ repo, PassRun dims repo start.store none)
    (reach : Reachable start s) (found : s.calls[i]? = some c)
    (writing : c.stage = .writing g checkout report []) :
    PassCommitted (s.step (.resume i)).indexer.store c.repository g checkout.commit
      ((s.indexer.filter.scan checkout.tree checkout.versioned).files.flatMap s.indexer.fileEntries) := by
  have inv := reach.invariant
  have holds : c.stage.holdsLock = true := by simp [writing, Stage.holdsLock]
  have opened : s.openPass c.repository = some g := by
    rw [inv.openPass_of_holder found holds, writing]
    rfl
  have pass := (reach.disciplined settled c.repository).invariant
  rw [opened] at pass
  have rows : PassRows s.indexer c.repository c.stage := inv.written c (List.mem_of_getElem? found)
  rw [writing] at rows
  obtain ⟨written, walked, rows⟩ := rows
  rw [List.append_nil] at walked
  rw [walked] at rows
  have stepped : (s.step (.resume i)).indexer.store =
      s.indexer.store.perform (.commit c.repository g checkout.commit) := by
    simp only [Shared.step, found, resume, writing]
    rfl
  rw [stepped]
  exact pass.commit_keeps_pass checkout.commit rows

/-- Every turn but one that commits a pass of `repo` keeps `repo`'s current generation and that
generation's chunks. -/
theorem Reachable.keeps_snapshot (settled : ∀ repo, PassRun dims repo start.store none)
    (reach : Reachable start s) {repo : String} {turn : Turn} (quiet : s.commitsPass repo turn = false) :
    (s.step turn).indexer.store.generation repo = s.indexer.store.generation repo ∧
      (s.step turn).indexer.store.snapshot repo (s.indexer.store.generation repo) =
        s.indexer.store.snapshot repo (s.indexer.store.generation repo) := by
  rcases reach.invariant.step_store turn with ⟨store, -, -⟩ | ⟨op, store, allowed, -, commits⟩
  · rw [store]
    exact ⟨rfl, rfl⟩
  · rw [store]
    exact (reach.disciplined settled repo).invariant.quiet (allowed repo) ((commits repo).trans quiet)

end Committed

end Shared

/-! ### Fetches in flight -/

/-- The states a provider at `p` comes to by answering calls and by its callers waiting on it. -/
inductive Leads {σ : Type} [SourceProvider σ] (p : σ) : σ → Prop
  | refl : Leads p p
  | currentCommit {q : σ} (repository gitRef : String) :
      Leads p q → Leads p (SourceProvider.currentCommit q repository gitRef).1
  | fetchTree {q : σ} (repository gitRef : String) :
      Leads p q → Leads p (SourceProvider.fetchTree q repository gitRef).1
  | wait {q : σ} (ms : Nat) : Leads p q → Leads p (SourceProvider.wait q ms)

namespace Shared

variable {σ : Type} [SourceProvider σ] {s s' : Shared σ} {c c' : Call}

theorem Moves.leads (m : Moves s c s' c') {p : σ} (before : Leads p s.indexer.source) :
    Leads p s'.indexer.source := by
  cases m with
  | ask _ asked =>
    obtain rfl : _ = _ := (congrArg Prod.fst asked).symm.trans (Indexer.movedFrom_fst _)
    exact .wait _ (.currentCommit _ _ before)
  | fetchFailed _ fetched =>
    obtain rfl := Indexer.eq_of_callSource fetched
    exact .wait _ (.fetchTree _ _ before)
  | fetched _ fetched =>
    obtain rfl := Indexer.eq_of_callSource fetched
    exact .wait _ (.fetchTree _ _ before)
  | commit _ committed =>
    obtain rfl : _ = _ := (congrArg Prod.fst committed).symm.trans Indexer.commitPass_fst
    exact before
  | write _ wrote =>
    obtain rfl := Indexer.finishFile_store wrote
    exact before
  | _ => exact before

theorem Moves.abandoned_of (m : Moves s c s' c') {job : SourceJob} (mem : job ∈ s'.abandoned) :
    job ∈ s.abandoned ∨
      (job.fetches = true → s.indexer.config.fetchTimeoutMs ≤ SourceProvider.fetchDelay s.indexer.source) := by
  have left : ∀ {delay : Nat} {given : SourceJob}, job ∈ s.leftRunning delay given →
      job ∈ s.abandoned ∨ (job = given ∧ s.indexer.config.fetchTimeoutMs ≤ delay) := by
    intro delay given running
    unfold leftRunning at running
    split at running
    · next late =>
      rcases List.mem_append.mp running with old | new
      · exact .inl old
      · exact .inr ⟨List.mem_singleton.mp new, late⟩
    · exact .inl running
  cases m with
  | ask =>
    rcases left mem with old | ⟨rfl, -⟩
    · exact .inl old
    · exact .inr (by simp)
  | fetchFailed =>
    rcases left mem with old | ⟨rfl, late⟩
    · exact .inl old
    · exact .inr fun _ => late
  | fetched =>
    rcases left mem with old | ⟨rfl, late⟩
    · exact .inl old
    · exact .inr fun _ => late
  | _ => exact .inl mem

theorem Reachable.no_late_fetch {start : Indexer σ}
    (prompt : ∀ p, Leads start.source p → SourceProvider.fetchDelay p < start.config.fetchTimeoutMs)
    (reach : Reachable start s) :
    Leads start.source s.indexer.source ∧ s.indexer.config = start.config ∧
      ∀ job ∈ s.abandoned, job.fetches = false := by
  induction reach with
  | idle => exact ⟨.refl, rfl, by simp⟩
  | @step s turn _ ih =>
    obtain ⟨leads, config, none⟩ := ih
    cases turn with
    | arrive => exact ⟨leads, config, none⟩
    | finish j => exact ⟨leads, config, fun job mem => none job (List.mem_of_mem_eraseIdx mem)⟩
    | resume i =>
      cases found : s.calls[i]? with
      | none => simpa [Shared.step, found] using And.intro leads (And.intro config none)
      | some c =>
        cases moved : s.resume c with
        | none => simpa [Shared.step, found, moved] using And.intro leads (And.intro config none)
        | some next =>
          obtain ⟨s', c'⟩ := next
          have m := Moves.of_resume moved
          have stepped : s.step (.resume i) = { s' with calls := s.calls.set i c' } := by
            simp [Shared.step, found, moved]
          rw [stepped]
          refine ⟨m.leads leads, m.config_eq.trans config, fun job mem => ?_⟩
          rcases m.abandoned_of mem with old | late
          · exact none job old
          · -- a fetch given up on would have taken the deadline or longer
            cases fetches : job.fetches
            · rfl
            · have slow := late fetches
              have quick := prompt _ leads
              rw [config] at slow
              omega

theorem Reachable.fetchesInFlight_le_one {start : Indexer σ}
    (prompt : ∀ p, Leads start.source p → SourceProvider.fetchDelay p < start.config.fetchTimeoutMs)
    (reach : Reachable start s) (repo : String) : s.fetchesInFlight repo ≤ 1 := by
  have awaited := reach.invariant.holders_le_one repo (p := Stage.awaitsFetch)
    (fun _ => Stage.holdsLock_of_awaitsFetch)
  have none : s.abandoned.filter (fun j => j.repository == repo && j.fetches) = [] :=
    List.filter_eq_nil_iff.mpr fun job mem => by simp [(reach.no_late_fetch prompt).2.2 job mem]
  rw [List.countP_eq_length_filter] at awaited
  simp only [fetchesInFlight, none, List.length_nil]
  omega

end Shared

end RepoSearch.Index
