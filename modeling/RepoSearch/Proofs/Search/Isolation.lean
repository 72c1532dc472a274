import RepoSearch.Search.Engine
import RepoSearch.Proofs.Store.Passes
/-! What a search reads. Every reader the query engine calls (the lexical index, the vector
index, the symbol table, phrase containment and pinned files) looks at one generation of one
repository, so every candidate it gathers is a row of that snapshot. Loading the candidates'
chunks reads the whole row table by row id; row ids are never reused, so it loads chunks of
that snapshot only.

Main statement, `search_reads_committed_snapshot`: along a disciplined run, two stores that
agree on a repository's current generation and on that generation's chunks give the same
results for every query, and nothing but a commit of that repository changes them: starting a
pass, writing or failing the open pass, and any operation on another repository leave every
search as it was. -/
namespace RepoSearch.Store

/-! ### Row ids -/

/-- Row ids increase along the row table and none is past the last one drawn. -/
structure RowidsOrdered (s : ChunkStore) : Prop where
  increasing : s.rows.Pairwise (fun a b => a.rowid < b.rowid)
  bounded : ∀ r ∈ s.rows, r.rowid ≤ s.lastRowid

namespace RowidsOrdered

variable {s : ChunkStore}

theorem empty (dims : Nat) : RowidsOrdered (ChunkStore.empty dims) :=
  ⟨List.Pairwise.nil, fun _ none => by cases none⟩

theorem sublist (ord : RowidsOrdered s) {t : ChunkStore} (kept : List.Sublist t.rows s.rows)
    (last : t.lastRowid = s.lastRowid) : RowidsOrdered t :=
  ⟨ord.increasing.sublist kept, fun r mem => last ▸ ord.bounded r (kept.subset mem)⟩

theorem insert (ord : RowidsOrdered s) {name : String} {g : Int} {n n' : Nat}
    {es : List EmbeddedChunk} {s' : ChunkStore}
    (h : ChunkStore.insertAll name g s n es = .ok (s', n')) :
    RowidsOrdered s' := by
  obtain ⟨added, rfl, -, -, fresh, ordered⟩ := ChunkStore.insertAll_ok h
  constructor
  · refine List.pairwise_append.mpr ⟨ord.increasing, ordered, fun a old b new => ?_⟩
    have below := ord.bounded a old
    have above := (fresh b new).2.2.1
    omega
  · intro r mem
    rcases List.mem_append.mp mem with old | new
    · have below := ord.bounded r old
      simp only
      omega
    · exact (fresh r new).2.2.2

theorem perform (ord : RowidsOrdered s) (op : PassOp) : RowidsOrdered (s.perform op) := by
  cases op with
  | begin r => exact ord.sublist ChunkStore.rows_beginPass_sublist ChunkStore.lastRowid_beginPass
  | insert r g cs =>
    cases inserted : s.insertFileChunks r g cs with
    | error msg =>
      rw [ChunkStore.perform_insert_error inserted]
      exact ord
    | ok result =>
      obtain ⟨s', n⟩ := result
      rw [ChunkStore.perform_insert_ok inserted]
      exact ord.insert inserted
  | commit r g c => exact ord.sublist (ChunkStore.rows_commitSnapshot_sublist g c) rfl
  | fail r g e => exact ord.sublist (ChunkStore.rows_markFailed_sublist g e) rfl

theorem nodup (ord : RowidsOrdered s) : (s.rows.map (·.rowid)).Nodup :=
  (List.pairwise_map.mpr ord.increasing).imp (fun lt => Int.ne_of_lt lt)

end RowidsOrdered

theorem ChunkStore.dimensions_perform {s : ChunkStore} (op : PassOp) :
    (s.perform op).dimensions = s.dimensions := by
  cases op with
  | begin r => exact ChunkStore.dimensions_beginPass
  | insert r g cs =>
    cases inserted : s.insertFileChunks r g cs with
    | error msg => rw [ChunkStore.perform_insert_error inserted]
    | ok result =>
      obtain ⟨s', n⟩ := result
      obtain ⟨added, rfl, -⟩ := ChunkStore.insertAll_ok inserted
      rw [ChunkStore.perform_insert_ok inserted]
  | commit r g c => rfl
  | fail r g e => rfl

theorem ChunkStore.sql_perform {s : ChunkStore} (op : PassOp) : (s.perform op).sql = s.sql := by
  cases op with
  | begin r => exact ChunkStore.sql_beginPass
  | insert r g cs =>
    cases inserted : s.insertFileChunks r g cs with
    | error msg => rw [ChunkStore.perform_insert_error inserted]
    | ok result =>
      obtain ⟨s', n⟩ := result
      obtain ⟨added, rfl, -⟩ := ChunkStore.insertAll_ok inserted
      rw [ChunkStore.perform_insert_ok inserted]
  | commit r g c => rfl
  | fail r g e => rfl

namespace PassRun

variable {dims : Nat} {repo : String} {s : ChunkStore} {pass : Option Int}

theorem rowidsOrdered (run : PassRun dims repo s pass) : RowidsOrdered s := by
  induction run with
  | empty => exact RowidsOrdered.empty dims
  | step op _ _ ord => exact ord.perform op

theorem dimensions (run : PassRun dims repo s pass) : s.dimensions = dims := by
  induction run with
  | empty => rfl
  | step op _ _ same => rw [ChunkStore.dimensions_perform, same]

theorem sql (run : PassRun dims repo s pass) : s.sql = .sqlite := by
  induction run with
  | empty => rfl
  | step op _ _ same => rw [ChunkStore.sql_perform, same]

end PassRun

/-! ### Stretches without a commit -/

/-- Operations that keep the discipline for `repo` and commit no pass of it: starts, writes
and failures of its open pass, and anything done to other repositories. -/
inductive QuietRun (repo : String) : ChunkStore → Option Int → ChunkStore → Option Int → Prop
  | refl (s : ChunkStore) (pass : Option Int) : QuietRun repo s pass s pass
  | step {s t : ChunkStore} {pass pass' : Option Int} (op : PassOp) :
      QuietRun repo s pass t pass' → op.Allowed repo pass' → op.commits repo = false →
      QuietRun repo s pass (t.perform op) (t.openPass repo pass' op)

/-- An allowed operation that commits no pass of `repo` keeps its current generation and that
generation's chunks. -/
theorem PassInvariant.quiet {repo : String} {s : ChunkStore} {pass : Option Int}
    (inv : PassInvariant repo s pass) {op : PassOp} (allowed : op.Allowed repo pass)
    (quiet : op.commits repo = false) :
    (s.perform op).generation repo = s.generation repo ∧
      (s.perform op).snapshot repo (s.generation repo) = s.snapshot repo (s.generation repo) := by
  refine ⟨by simpa [quiet] using (inv.step allowed).2, ?_⟩
  by_cases mine : op.repository = repo
  · cases op with
    | begin r =>
      obtain rfl : r = repo := mine
      simp [ChunkStore.snapshot_perform_begin]
    | insert r g cs =>
      obtain rfl : r = repo := mine
      have next := (inv.opened g (allowed rfl)).1
      exact ChunkStore.insert_frame.2 _ (.inr (by omega))
    | commit r g c =>
      obtain rfl : r = repo := mine
      simp [PassOp.commits] at quiet
    | fail r g e =>
      obtain rfl : r = repo := mine
      have next := (inv.opened g (allowed rfl)).1
      have fresh : s.generation r ≠ g := by omega
      simp [ChunkStore.snapshot_perform_fail, fresh]
  · exact (ChunkStore.perform_other mine).2 _

/-- A quiet stretch of a disciplined run is still a disciplined run, and leaves the current
generation and its chunks as they were. -/
theorem QuietRun.kept {dims : Nat} {repo : String} {s t : ChunkStore} {pass pass' : Option Int}
    (run : PassRun dims repo s pass) (quiet : QuietRun repo s pass t pass') :
    PassRun dims repo t pass' ∧ t.generation repo = s.generation repo ∧
      t.snapshot repo (s.generation repo) = s.snapshot repo (s.generation repo) := by
  induction quiet with
  | refl => exact ⟨run, rfl, rfl⟩
  | step op _ allowed notCommit ih =>
    obtain ⟨reached, sameGen, sameSnap⟩ := ih run
    obtain ⟨genStep, snapStep⟩ := reached.invariant.quiet allowed notCommit
    refine ⟨.step op reached allowed, genStep.trans sameGen, ?_⟩
    rw [← sameGen, snapStep, sameGen, sameSnap]

/-! ### Readers of one snapshot -/

namespace ChunkStore

variable {s : ChunkStore} {repo : String} {g : Int}

/-- The row ids of a generation of a repository. -/
abbrev rowids (s : ChunkStore) (repo : String) (g : Int) : List Int :=
  (s.snapshot repo g).map (·.rowid)

theorem currentGeneration?_eq :
    s.currentGeneration? repo =
      if 0 < s.generation repo then some (s.generation repo) else none := by
  cases found : s.record? repo with
  | none => simp [currentGeneration?, found, generation, recordOf]
  | some r => simp [currentGeneration?, found, generation_of_record? found]

theorem rowid_of_lexicalHit {terms : List String} {limit : Nat} {h : LexicalHit}
    (mem : h ∈ s.searchLexical repo g terms limit) : h.rowid ∈ s.rowids repo g := by
  simp only [searchLexical] at mem
  split at mem
  · cases mem
  · have found := (List.mergeSort_perm _ _).mem_iff.mp (List.mem_of_mem_take mem)
    obtain ⟨r, posted, made⟩ := List.mem_filterMap.mp found
    have snap := (List.mem_filter.mp posted).1
    split at made
    · cases made
    · cases made
      exact List.mem_map_of_mem snap

theorem rowid_of_vectorHit {query : List Float32} {minSimilarity : Float32} {limit : Nat}
    {hits : List VectorHit} (found : s.searchVectors repo g query minSimilarity limit = .ok hits)
    {h : VectorHit} (mem : h ∈ hits) : h.rowid ∈ s.rowids repo g := by
  simp only [searchVectors] at found
  split at found
  · cases found
    cases mem
  · split at found
    · cases found
    · cases found
      obtain ⟨⟨rowid, sim⟩, kept, rfl⟩ := List.mem_map.mp mem
      have scored := (List.mergeSort_perm _ _).mem_iff.mp (List.mem_of_mem_take kept)
      obtain ⟨⟨rowid', v⟩, stored, made⟩ := List.mem_filterMap.mp scored
      have same : rowid' = rowid := by
        split at made
        · cases made
        · split at made
          · cases made
            rfl
          · cases made
      subst same
      obtain ⟨r, snap, embedded⟩ := List.mem_filterMap.mp stored
      obtain ⟨v', -, pair⟩ := Option.map_eq_some_iff.mp embedded
      cases pair
      exact List.mem_map_of_mem snap

theorem rowid_of_symbolRow {terms : List String} {kinds : List SymbolKind} {row : SymbolRow}
    (mem : row ∈ s.findSymbols repo g terms kinds) : row.chunkRowid ∈ s.rowids repo g := by
  simp only [findSymbols] at mem
  split at mem
  · cases mem
  · obtain ⟨r, snap, listed⟩ := List.mem_flatMap.mp mem
    obtain ⟨sym, -, rfl⟩ := List.mem_map.mp listed
    exact List.mem_map_of_mem snap

theorem rowid_of_containing {phrases : List String} {rowid : Int}
    (mem : rowid ∈ s.chunksContaining repo g phrases) : rowid ∈ s.rowids repo g := by
  simp only [chunksContaining] at mem
  split at mem
  · cases mem
  · obtain ⟨r, kept, rfl⟩ := List.mem_map.mp mem
    exact List.mem_map_of_mem (List.mem_filter.mp kept).1

theorem rowid_of_forFiles {paths : List String} {rowid : Int}
    (mem : rowid ∈ s.chunksForFiles repo g paths) : rowid ∈ s.rowids repo g := by
  simp only [chunksForFiles] at mem
  obtain ⟨r, kept, rfl⟩ := List.mem_map.mp mem
  exact List.mem_map_of_mem (List.mem_filter.mp kept).1

/-- Loading rows of one snapshot by row id, over a table whose row ids are distinct, loads
from that snapshot alone. -/
theorem loadChunks_of_snapshot {ids : List Int} (distinct : (s.rows.map (·.rowid)).Nodup)
    (drawn : ∀ id ∈ ids, id ∈ s.rowids repo g) :
    s.loadChunks ids = (s.snapshot repo g).filter (fun r => ids.contains r.rowid) := by
  simp only [loadChunks, snapshot, List.filter_filter]
  refine List.filter_congr (fun r mem => ?_)
  by_cases asked : r.rowid ∈ ids
  · obtain ⟨r', kept, same⟩ := List.mem_map.mp (drawn _ asked)
    have identical : r' = r := List.inj_on_of_nodup_map distinct (List.mem_of_mem_filter kept) mem same
    subst identical
    simp [(List.mem_filter.mp kept).2]
  · simp [asked]

end ChunkStore

end RepoSearch.Store

namespace RepoSearch.Search

open RepoSearch.Store

/-! ### Gathering candidates -/

theorem touch_keys {cs : Candidates} {rowid : Int} {f : Candidate → Candidate} {x : Int × Candidate}
    (mem : x ∈ cs.touch rowid f) : x.1 = rowid ∨ x.1 ∈ cs.map Prod.fst := by
  simp only [Candidates.touch] at mem
  split at mem
  · obtain ⟨y, old, rfl⟩ := List.mem_map.mp mem
    have key : (if (y.1 == rowid) = true then (y.1, f y.2) else y).1 = y.1 := by split <;> rfl
    rw [key]
    exact .inr (List.mem_map_of_mem old)
  · rcases List.mem_append.mp mem with old | new
    · exact .inr (List.mem_map_of_mem old)
    · exact .inl (by simp at new; simp [new])

theorem keys_foldl {α β : Type} (keep : Int → Prop) (key : α → Int)
    (step : List (Int × β) → α → List (Int × β))
    (adds : ∀ cs a, ∀ x ∈ step cs a, x.1 = key a ∨ x.1 ∈ cs.map Prod.fst)
    (items : List α) (cs : List (Int × β)) (start : ∀ x ∈ cs, keep x.1)
    (drawn : ∀ a ∈ items, keep (key a)) : ∀ x ∈ items.foldl step cs, keep x.1 := by
  refine List.foldlRecOn (motive := fun cs : List (Int × β) => ∀ x ∈ cs, keep x.1) items step
    start ?_
  intro cs held a taken x mem
  rcases adds cs a x mem with new | old
  · exact new ▸ drawn a taken
  · obtain ⟨y, was, same⟩ := List.mem_map.mp old
    exact same ▸ held y was

theorem addEvidence_keys (w : Config.StructuralWeights) (q : QueryAnalysis)
    (acc : List (Int × StructuralMatch)) (row : SymbolRow) :
    ∀ x ∈ addEvidence w q acc row, x.1 = row.chunkRowid ∨ x.1 ∈ acc.map Prod.fst := by
  intro x mem
  simp only [addEvidence] at mem
  split at mem
  · exact .inr (List.mem_map_of_mem mem)
  · split at mem
    · obtain ⟨⟨id, m⟩, old, rfl⟩ := List.mem_map.mp mem
      have key : (if (id == row.chunkRowid) = true then
          (id, { score := m.score + symbolWeight w row.symbol.kind q,
                 symbols := m.symbols ++ [row.symbol.name] })
          else (id, m)).1 = id := by split <;> rfl
      rw [key]
      exact .inr (List.mem_map_of_mem old)
    · rcases List.mem_append.mp mem with old | new
      · exact .inr (List.mem_map_of_mem old)
      · exact .inl (by simp at new; simp [new])

theorem structuralTop_keys (w : Config.StructuralWeights) (rows : List SymbolRow)
    (q : QueryAnalysis) (limit : Nat) :
    ∀ x ∈ structuralTop w rows q limit, x.1 ∈ rows.map (·.chunkRowid) := by
  intro x mem
  have scored := (List.mergeSort_perm _ _).mem_iff.mp (List.mem_of_mem_take mem)
  exact keys_foldl _ _ _ (addEvidence_keys w q) rows [] (fun _ none => by cases none)
    (fun row mem => List.mem_map_of_mem mem) x scored

theorem bind_eq_ok {ε α β : Type} {m : Except ε α} {f : α → Except ε β} {b : β}
    (h : m >>= f = .ok b) : ∃ a, m = .ok a ∧ f a = .ok b := by
  cases m with
  | error => cases h
  | ok a => exact ⟨a, rfl, h⟩

namespace QueryEngine

variable {e : QueryEngine} {s t : ChunkStore} {repo : String} {g : Int} {q : QueryAnalysis}
  {v : Option (List Float32)} {limit : Nat}

theorem gather_congr (dims : s.dimensions = t.dimensions) (sql : s.sql = t.sql)
    (snap : s.snapshot repo g = t.snapshot repo g) :
    e.gather s repo g q v limit = e.gather t repo g q v limit := by
  simp only [gather, ChunkStore.searchLexical, ChunkStore.searchVectors, ChunkStore.findSymbols,
    ChunkStore.chunksContaining, ChunkStore.chunksForFiles, dims, sql, snap]

theorem gather_keys {cs : Candidates} (h : e.gather s repo g q v limit = .ok cs) :
    ∀ x ∈ cs, x.1 ∈ s.rowids repo g := by
  unfold gather at h
  extract_lets cfg cl lexical rows pinned finish at h
  have first : ∀ x ∈ lexical, x.1 ∈ s.rowids repo g :=
    keys_foldl _ LexicalHit.rowid _ (fun _ _ _ => touch_keys) _ [] (fun _ none => by cases none)
      (fun _ hit => ChunkStore.rowid_of_lexicalHit hit)
  -- only the vector search can fail; every stage after it adds candidates drawn from the snapshot
  have rest : ∀ hits : List VectorHit, (∀ hit ∈ hits, hit.rowid ∈ s.rowids repo g) →
      ∀ cs, finish hits = .ok cs → ∀ x ∈ cs, x.1 ∈ s.rowids repo g := by
    intro hits drawn cs done
    dsimp -zeta only [finish] at done
    extract_lets scored matched contained at done
    have second : ∀ x ∈ scored, x.1 ∈ s.rowids repo g :=
      keys_foldl _ VectorHit.rowid _ (fun _ _ _ => touch_keys) hits lexical first drawn
    have third : ∀ x ∈ matched, x.1 ∈ s.rowids repo g := by
      refine keys_foldl _ Prod.fst _ (fun _ _ _ => touch_keys) _ scored second ?_
      intro m mem
      obtain ⟨row, found, same⟩ := List.mem_map.mp (structuralTop_keys _ rows q cl m mem)
      exact same ▸ ChunkStore.rowid_of_symbolRow found
    have fourth : ∀ x ∈ contained, x.1 ∈ s.rowids repo g := by
      simp only [contained]
      split
      · exact third
      · exact keys_foldl _ id _ (fun _ _ _ => touch_keys) _ matched third
          (fun _ r => ChunkStore.rowid_of_containing r)
    split at done
    · obtain rfl := Except.ok.inj done
      exact fourth
    · obtain rfl := Except.ok.inj done
      exact keys_foldl _ id _ (fun _ _ _ => touch_keys) _ contained fourth
        (fun _ r => ChunkStore.rowid_of_forFiles r)
  split at h
  · split at h
    · obtain ⟨hits, found, done⟩ := bind_eq_ok h
      exact rest hits (fun _ hit => ChunkStore.rowid_of_vectorHit found hit) cs done
    · exact rest [] (fun _ none => by cases none) cs h
  · exact rest [] (fun _ none => by cases none) cs h

theorem search_congr {query : String} (dims : s.dimensions = t.dimensions) (sql : s.sql = t.sql)
    (current : s.currentGeneration? repo = t.currentGeneration? repo)
    (snap : ∀ g, t.currentGeneration? repo = some g → s.snapshot repo g = t.snapshot repo g)
    (sDistinct : (s.rows.map (·.rowid)).Nodup) (tDistinct : (t.rows.map (·.rowid)).Nodup) :
    e.search s repo query v limit = e.search t repo query v limit := by
  unfold search
  rw [current]
  split
  · rfl
  · split
    · rfl
    · next g found =>
      dsimp only
      rw [gather_congr dims sql (snap g found)]
      cases gathered : e.gather t repo g (QueryAnalysis.analyze query e.config.boosts.uiKeywords) v limit with
      | error msg => rfl
      | ok cs =>
        have drawn : ∀ id ∈ cs.map Prod.fst, id ∈ t.rowids repo g := by
          intro id mem
          obtain ⟨x, held, rfl⟩ := List.mem_map.mp mem
          exact gather_keys gathered x held
        have drawn' : ∀ id ∈ cs.map Prod.fst, id ∈ s.rowids repo g := by
          simpa only [ChunkStore.rowids, snap g found] using drawn
        simp only [bind, Except.bind]
        rw [ChunkStore.loadChunks_of_snapshot sDistinct drawn',
          ChunkStore.loadChunks_of_snapshot tDistinct drawn, snap g found]

theorem search_eq_of_snapshot {query : String} (dims : t.dimensions = s.dimensions) (sql : t.sql = s.sql)
    (sOrd : RowidsOrdered s) (tOrd : RowidsOrdered t)
    (sameGen : t.generation repo = s.generation repo)
    (sameSnap : t.snapshot repo (s.generation repo) = s.snapshot repo (s.generation repo)) :
    e.search t repo query v limit = e.search s repo query v limit := by
  refine search_congr dims sql (by rw [ChunkStore.currentGeneration?_eq, ChunkStore.currentGeneration?_eq,
    sameGen]) ?_ tOrd.nodup sOrd.nodup
  intro g found
  rw [ChunkStore.currentGeneration?_eq] at found
  split at found
  · cases found
    exact sameSnap
  · cases found

end QueryEngine

/-- Along a disciplined run, a search of `repo` is a function of `repo`'s current generation and
that generation's chunks: any two reachable stores that agree on them agree on every search,
and until a pass of `repo` commits, every search answers as it did. A search that runs between
two operations of a pass therefore sees the snapshot committed before it or the one its commit
makes, never rows of both. -/
theorem search_reads_committed_snapshot {dims : Nat} {repo : String} {s : ChunkStore}
    {pass : Option Int} (run : PassRun dims repo s pass) (e : QueryEngine) (query : String)
    (v : Option (List Float32)) (limit : Nat) :
    (∀ t pass', PassRun dims repo t pass' → t.generation repo = s.generation repo →
      t.snapshot repo (s.generation repo) = s.snapshot repo (s.generation repo) →
      e.search t repo query v limit = e.search s repo query v limit) ∧
    (∀ t pass', QuietRun repo s pass t pass' →
      e.search t repo query v limit = e.search s repo query v limit) := by
  have agree : ∀ t pass', PassRun dims repo t pass' → t.generation repo = s.generation repo →
      t.snapshot repo (s.generation repo) = s.snapshot repo (s.generation repo) →
      e.search t repo query v limit = e.search s repo query v limit := by
    intro t pass' reached sameGen sameSnap
    exact QueryEngine.search_eq_of_snapshot (reached.dimensions.trans run.dimensions.symm)
      (reached.sql.trans run.sql.symm) run.rowidsOrdered reached.rowidsOrdered sameGen sameSnap
  refine ⟨agree, fun t pass' quiet => ?_⟩
  obtain ⟨reached, sameGen, sameSnap⟩ := quiet.kept run
  exact agree t pass' reached sameGen sameSnap

/-- A committed repository is indexed again: while the new pass starts and writes a chunk,
searches still answer from the committed snapshot. -/
theorem search_during_reindex :
    let committed :=
      ((ChunkStore.empty 4).perform (.begin "acme/site")).perform (.commit "acme/site" 1 "c1")
    let engine : QueryEngine := ⟨{}, []⟩
    engine.search ((committed.perform (.begin "acme/site")).perform
        (.insert "acme/site" 2 [⟨default, none⟩])) "acme/site" "alpha" none 5 =
      engine.search committed "acme/site" "alpha" none 5 :=
  (search_reads_committed_snapshot
    (.step (.commit "acme/site" 1 "c1") (.step (.begin "acme/site") .empty trivial)
      (fun _ => by decide))
    ⟨{}, []⟩ "alpha" none 5).2 _ _
    (.step (.insert "acme/site" 2 [⟨default, none⟩])
      (.step (.begin "acme/site") (.refl _ _) trivial rfl) (fun _ => by decide) rfl)

end RepoSearch.Search
