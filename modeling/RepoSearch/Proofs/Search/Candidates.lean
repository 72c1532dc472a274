import RepoSearch.Proofs.Search.Isolation
import RepoSearch.Proofs.Store.Atomicity
/-! The candidates of a search. A search draws on five sources over one snapshot: its lexical
hits, its vector hits and the chunks with the strongest structural evidence, each cut to the
larger of the candidate limit and the limit asked for, the rows holding a quoted phrase and the
rows of pinned files. Gathering merges them by row id into one candidate per row, each starting
from zero signals. Measured against the sources themselves:

* gathering fails only where the vector search does (`gather_eq`), and that search answers on
  every store whose stored vectors have the store's width (`VectorsFit`), which every operation
  keeps;
* a row is a candidate exactly when a source names it, and then once; its signals are the score
  and terms of its lexical hit, the similarity of its vector hit and its structural evidence, zero
  where a source has none (`gather_lookup`). -/
namespace RepoSearch.Store

/-! ### Stored vectors fit the search -/

/-- Every stored vector has the width the store searches with. -/
structure VectorsFit (s : ChunkStore) : Prop where
  width : s.vectorWidth = s.dimensions
  stored : ∀ r ∈ s.rows, ∀ v ∈ r.embedding, v.length = s.dimensions

namespace ChunkStore

variable {s : ChunkStore} {name : String} {g : Int}

theorem vectorWidth_beginPass : (s.beginPass name).1.vectorWidth = s.vectorWidth := by
  simp only [beginPass]
  split <;> rfl

theorem length_of_insertProblem {e : EmbeddedChunk} {v : List Float32}
    (fits : s.insertProblem name e = none) (held : v ∈ e.embedding) : v.length = s.vectorWidth := by
  unfold insertProblem at fits
  rw [if_neg (by intro missing; rw [if_pos missing] at fits; cases fits), Option.mem_def.mp held,
    Option.bind_some] at fits
  unfold vectorProblem widthProblem at fits
  split at fits
  · cases fits
  · split at fits
    · cases fits
    · next fitting => simpa using fitting

theorem vectors_insertFileChunks {es : List EmbeddedChunk} {s' : ChunkStore} {n : Nat}
    (inserted : s.insertFileChunks name g es = .ok (s', n)) :
    s'.vectorWidth = s.vectorWidth ∧ ∃ added : List StoredChunk, s'.rows = s.rows ++ added ∧
      ∀ r ∈ added, ∀ v ∈ r.embedding, v.length = s.vectorWidth := by
  obtain ⟨added, rfl, -, entries, -⟩ := insertAll_ok inserted
  -- no chunk the insert writes has a problem, or the insert would have failed with its message
  have clean : (freshChunks ((s.snapshot name g).map (·.chunk.id)) es).findSome?
      (s.insertProblem name) = none := by
    cases found : (freshChunks ((s.snapshot name g).map (·.chunk.id)) es).findSome?
        (s.insertProblem name) with
    | none => rfl
    | some msg =>
      have failed : insertAll name g s 0 es = .error msg := insertAll_eq_error_iff.mpr found
      rw [insertFileChunks] at inserted
      rw [inserted] at failed
      cases failed
  refine ⟨rfl, added, rfl, fun r mem v held => ?_⟩
  rw [← entries] at clean
  have fits : s.insertProblem name r.entry = none :=
    List.findSome?_eq_none_iff.mp clean r.entry (List.mem_map_of_mem mem)
  exact length_of_insertProblem fits held

theorem vectorWidth_perform (op : PassOp) : (s.perform op).vectorWidth = s.vectorWidth := by
  cases op with
  | begin r => exact vectorWidth_beginPass
  | insert r g cs =>
    cases inserted : s.insertFileChunks r g cs with
    | error msg => rw [perform_insert_error inserted]
    | ok result =>
      obtain ⟨s', n⟩ := result
      rw [perform_insert_ok inserted]
      exact (vectors_insertFileChunks inserted).1
  | commit r g c => rfl
  | fail r g e => rfl

end ChunkStore

namespace VectorsFit

variable {s : ChunkStore}

theorem empty (dims : Nat) : VectorsFit (ChunkStore.empty dims) :=
  ⟨rfl, fun _ none => by cases none⟩

/-- Every operation keeps the stored vectors at the store's width: an insert checks each vector
it writes against the width, and the other operations only drop rows. -/
theorem perform (fit : VectorsFit s) (op : PassOp) : VectorsFit (s.perform op) where
  width := by rw [ChunkStore.vectorWidth_perform, ChunkStore.dimensions_perform, fit.width]
  stored := by
    rw [ChunkStore.dimensions_perform]
    intro r held v mem
    cases op with
    | begin name => exact fit.stored r (ChunkStore.rows_beginPass_sublist.subset held) v mem
    | insert name g es =>
      cases inserted : s.insertFileChunks name g es with
      | error msg =>
        rw [ChunkStore.perform_insert_error inserted] at held
        exact fit.stored r held v mem
      | ok result =>
        obtain ⟨s', n⟩ := result
        rw [ChunkStore.perform_insert_ok inserted] at held
        obtain ⟨-, added, rows, fits⟩ := ChunkStore.vectors_insertFileChunks inserted
        rw [rows] at held
        rcases List.mem_append.mp held with old | new
        · exact fit.stored r old v mem
        · rw [fits r new v mem, fit.width]
    | commit name g c =>
      exact fit.stored r ((ChunkStore.rows_commitSnapshot_sublist g c).subset held) v mem
    | fail name g e => exact fit.stored r ((ChunkStore.rows_markFailed_sublist g e).subset held) v mem

theorem run (fit : VectorsFit s) (ops : List PassOp) : VectorsFit (ops.foldl ChunkStore.perform s) := by
  induction ops generalizing s with
  | nil => exact fit
  | cons op rest ih => exact ih (fit.perform op)

end VectorsFit

namespace ChunkStore

variable {s : ChunkStore} {repository : String} {generation : Int}

theorem searchVectors_ok (fit : VectorsFit s)
    (query : List Float32) (minSimilarity : Float32) (limit : Nat) :
    ∃ hits, s.searchVectors repository generation query minSimilarity limit = .ok hits := by
  unfold searchVectors
  split
  · exact ⟨_, rfl⟩
  · next searched =>
    have width : query.length = s.dimensions := by
      simp only [Bool.or_eq_true, bne_iff_ne, ne_eq, not_or, not_not] at searched
      exact searched.1.2
    have none : ((s.snapshot repository generation).filterMap fun r =>
        r.embedding.map fun v => (r.rowid, v)).find? (fun e => e.2.length != query.length) = none := by
      refine List.find?_eq_none.mpr fun p mem => ?_
      obtain ⟨r, stored, made⟩ := List.mem_filterMap.mp mem
      obtain ⟨v, held, rfl⟩ := Option.map_eq_some_iff.mp made
      simp [fit.stored r (mem_snapshot.mp stored).1 v held, width]
    dsimp only
    rw [none]
    exact ⟨_, rfl⟩

/-! ### Each search names a row once -/

section

variable {α β γ : Type}

theorem sublist_map_filterMap {f : α → Option β} {key : β → γ} {key' : α → γ}
    (keeps : ∀ a b, f a = some b → key b = key' a) (l : List α) :
    ((l.filterMap f).map key).Sublist (l.map key') := by
  induction l with
  | nil => exact List.Sublist.slnil
  | cons a rest ih =>
    cases made : f a with
    | none =>
      rw [List.filterMap_cons_none made]
      exact ih.cons _
    | some b =>
      rw [List.filterMap_cons_some made, List.map_cons, List.map_cons, keeps a b made]
      exact ih.cons_cons _

theorem nodup_take_mergeSort {key : α → γ} (le : α → α → Bool) (n : Nat) {l : List α}
    (distinct : (l.map key).Nodup) : (((l.mergeSort le).take n).map key).Nodup :=
  (((List.mergeSort_perm l le).map key).nodup_iff.mpr distinct).sublist ((List.take_sublist _ _).map _)

end

theorem nodup_searchLexical (distinct : (s.rowids repository generation).Nodup)
    (terms : List String) (limit : Nat) :
    ((s.searchLexical repository generation terms limit).map (·.rowid)).Nodup := by
  simp only [searchLexical]
  split
  · exact List.nodup_nil
  · refine nodup_take_mergeSort _ _ (distinct.sublist ((sublist_map_filterMap ?_ _).trans
      ((List.filter_sublist).map _)))
    intro r h made
    split at made
    · cases made
    · cases made
      rfl

theorem nodup_searchVectors (distinct : (s.rowids repository generation).Nodup)
    {query : List Float32} {minSimilarity : Float32} {limit : Nat} {hits : List VectorHit}
    (found : s.searchVectors repository generation query minSimilarity limit = .ok hits) :
    (hits.map (·.rowid)).Nodup := by
  simp only [searchVectors] at found
  split at found
  · cases found
    exact List.nodup_nil
  · split at found
    · cases found
    · cases found
      have stored : (((s.snapshot repository generation).filterMap fun r =>
          r.embedding.map fun v => (r.rowid, v)).map Prod.fst).Sublist (s.rowids repository generation) :=
        sublist_map_filterMap (fun r p made => by
          obtain ⟨v, -, rfl⟩ := Option.map_eq_some_iff.mp made
          rfl) _
      rw [List.map_map]
      refine nodup_take_mergeSort _ _ (distinct.sublist ((sublist_map_filterMap ?_ _).trans stored))
      intro p pair made
      split at made
      · cases made
      · split at made
        · cases made
          rfl
        · cases made

end ChunkStore

end RepoSearch.Store

namespace RepoSearch.Search

open RepoSearch.Store

/-! ### Candidates by row id -/

theorem nodup_upsert {β : Type} {acc : List (Int × β)} {k : Int} (g : Int × β → Int × β) (v : β)
    (keeps : ∀ p, (g p).1 = p.1) (distinct : (acc.map Prod.fst).Nodup) :
    ((if acc.any (fun p => p.1 == k) then acc.map g else acc ++ [(k, v)]).map Prod.fst).Nodup := by
  split
  · have keys : Prod.fst ∘ g = Prod.fst := funext keeps
    rwa [List.map_map, keys]
  · next absent =>
    rw [List.map_append, List.nodup_append]
    refine ⟨distinct, List.nodup_singleton _, fun a old b new => ?_⟩
    rw [List.map_singleton, List.mem_singleton] at new
    obtain ⟨p, mem, rfl⟩ := List.mem_map.mp old
    exact fun same => absent (List.any_eq_true.mpr ⟨p, mem, by simp [same, new]⟩)

namespace Candidates

/-- The candidate of a row, if there is one. -/
def lookup (cs : Candidates) (rowid : Int) : Option Candidate :=
  (cs.find? (·.1 == rowid)).map (·.2)

variable {cs : Candidates} {rowid row : Int} {f : Candidate → Candidate}

theorem lookup_isSome_iff : (cs.lookup row).isSome ↔ row ∈ cs.map Prod.fst := by
  simp [lookup, List.find?_isSome]

theorem lookup_touch :
    (cs.touch rowid f).lookup row = if row = rowid then some (f ((cs.lookup row).getD {})) else
      cs.lookup row := by
  unfold touch
  split
  · next present =>
    have keys : ((fun e : Int × Candidate => e.1 == row) ∘
        fun e => if e.1 == rowid then (e.1, f e.2) else e) = fun e => e.1 == row := by
      funext e
      by_cases same : e.1 = rowid <;> simp [same]
    simp only [lookup, List.find?_map, keys, Option.map_map]
    cases found : cs.find? (·.1 == row) with
    | none =>
      have other : row ≠ rowid := by
        rintro rfl
        obtain ⟨e, mem, same⟩ := List.any_eq_true.mp present
        exact List.find?_eq_none.mp found e mem same
      simp [other]
    | some e =>
      have key : e.1 = row := by simpa using List.find?_some found
      by_cases mine : row = rowid <;> simp [key, mine]
  · next absent =>
    have missing : ∀ e ∈ cs, ¬(e.1 == rowid) = true := by
      simpa only [Bool.not_eq_true, List.any_eq_false] using absent
    simp only [lookup, List.find?_append, List.find?_cons, List.find?_nil]
    by_cases mine : row = rowid
    · subst mine
      simp [List.find?_eq_none.mpr missing]
    · have other : (rowid == row) = false := by simpa using Ne.symm mine
      simp [other, mine]

theorem nodup_touch (distinct : (cs.map Prod.fst).Nodup) :
    ((cs.touch rowid f).map Prod.fst).Nodup :=
  nodup_upsert _ _ (fun e => by by_cases same : e.1 = rowid <;> simp [same]) distinct

/-! ### Touching the rows of a list -/

section

variable {α : Type} (key : α → Int) (change : α → Candidate → Candidate)

theorem nodup_foldl_touch (items : List α) (distinct : (cs.map Prod.fst).Nodup) :
    ((items.foldl (fun cs x => cs.touch (key x) (change x)) cs).map Prod.fst).Nodup := by
  induction items generalizing cs with
  | nil => exact distinct
  | cons x rest ih => exact ih (nodup_touch distinct)

theorem lookup_foldl_touch_isSome (items : List α) :
    ((items.foldl (fun cs x => cs.touch (key x) (change x)) cs).lookup row).isSome ↔
      (cs.lookup row).isSome ∨ row ∈ items.map key := by
  induction items generalizing cs with
  | nil => simp
  | cons x rest ih =>
    rw [List.foldl_cons, ih, lookup_touch]
    by_cases mine : row = key x <;> simp [mine]

theorem lookup_foldl_touch_getD (items : List α) (distinct : (items.map key).Nodup) :
    ((items.foldl (fun cs x => cs.touch (key x) (change x)) cs).lookup row).getD {} =
      (items.find? (key · == row)).elim ((cs.lookup row).getD {})
        fun x => change x ((cs.lookup row).getD {}) := by
  induction items generalizing cs with
  | nil => rfl
  | cons x rest ih =>
    rw [List.map_cons, List.nodup_cons] at distinct
    rw [List.foldl_cons, ih distinct.2, lookup_touch, List.find?_cons]
    by_cases mine : key x = row
    · have later : rest.find? (key · == row) = none := by
        simp only [List.find?_eq_none, beq_iff_eq]
        exact fun y mem same => distinct.1 (List.mem_map.mpr ⟨y, mem, same.trans mine.symm⟩)
      simp [later, mine]
    · have other : (key x == row) = false := beq_false_of_ne mine
      simp [other, Ne.symm mine]

theorem lookup_foldl_touch_id_getD (rows : List Int) :
    ((rows.foldl (fun (cs : Candidates) r => cs.touch r id) cs).lookup rowid).getD {} =
      (cs.lookup rowid).getD {} := by
  induction rows generalizing cs with
  | nil => rfl
  | cons r rest ih =>
    rw [List.foldl_cons, ih, lookup_touch]
    by_cases mine : rowid = r <;> simp [mine]

end

end Candidates

/-! ### The sources of a search -/

/-- What a search gathers its candidates from: its lexical, vector and structural hits, the rows
holding a quoted phrase and the rows of pinned files. -/
structure Sources where
  lexical : List LexicalHit
  vector : List VectorHit
  structural : List (Int × StructuralMatch)
  phrases : List Int
  pinned : List Int

namespace Sources

/-- Every row a source names. -/
def rows (src : Sources) : List Int :=
  src.lexical.map (·.rowid) ++ src.vector.map (·.rowid) ++ src.structural.map (·.1) ++
    src.phrases ++ src.pinned

/-- The signals the sources give a row: the score and terms of its lexical hit, the similarity
of its vector hit and its structural evidence, zero where a source has none. -/
def signals (src : Sources) (rowid : Int) : Candidate :=
  { lexical := ((src.lexical.find? (·.rowid == rowid)).map (·.score)).getD 0,
    matchedTerms := ((src.lexical.find? (·.rowid == rowid)).map (·.matchedTerms)).getD [],
    vector := ((src.vector.find? (·.rowid == rowid)).map (·.similarity.toFloat)).getD 0,
    structural := ((src.structural.find? (·.1 == rowid)).map (·.2)).getD {} }

/-- The candidates the sources give, merged by row id in source order. -/
def merge (src : Sources) : Candidates :=
  let cs := src.lexical.foldl (fun (cs : Candidates) h => cs.touch h.rowid fun c =>
    { c with lexical := h.score, matchedTerms := h.matchedTerms }) []
  let cs := src.vector.foldl (fun (cs : Candidates) h => cs.touch h.rowid fun c =>
    { c with vector := h.similarity.toFloat }) cs
  let cs := src.structural.foldl (fun (cs : Candidates) m => cs.touch m.1 fun c =>
    { c with structural := m.2 }) cs
  let cs := src.phrases.foldl (fun (cs : Candidates) r => cs.touch r id) cs
  src.pinned.foldl (fun (cs : Candidates) r => cs.touch r id) cs

/-- No source of the three signals names a row twice. -/
structure Distinct (src : Sources) : Prop where
  lexical : (src.lexical.map (·.rowid)).Nodup
  vector : (src.vector.map (·.rowid)).Nodup
  structural : (src.structural.map (·.1)).Nodup

theorem merge_nodup (src : Sources) : (src.merge.map Prod.fst).Nodup :=
  Candidates.nodup_foldl_touch _ _ _ <| Candidates.nodup_foldl_touch _ _ _ <|
    Candidates.nodup_foldl_touch _ _ _ <| Candidates.nodup_foldl_touch _ _ _ <|
      Candidates.nodup_foldl_touch _ _ _ (List.nodup_nil : ([] : List Int).Nodup)

theorem merge_lookup_isSome (src : Sources) (rowid : Int) :
    (src.merge.lookup rowid).isSome ↔ rowid ∈ src.rows := by
  simp only [merge, Candidates.lookup_foldl_touch_isSome, rows, List.mem_append]
  simp [Candidates.lookup, or_assoc]

theorem merge_lookup_getD {src : Sources} (distinct : src.Distinct) (rowid : Int) :
    (src.merge.lookup rowid).getD {} = src.signals rowid := by
  simp only [merge, Candidates.lookup_foldl_touch_id_getD]
  rw [Candidates.lookup_foldl_touch_getD _ _ _ distinct.structural,
    Candidates.lookup_foldl_touch_getD _ _ _ distinct.vector,
    Candidates.lookup_foldl_touch_getD _ _ _ distinct.lexical]
  unfold signals
  cases src.lexical.find? (·.rowid == rowid) <;> cases src.vector.find? (·.rowid == rowid) <;>
    cases src.structural.find? (·.1 == rowid) <;> rfl

/-- A row is a candidate of the merged sources exactly when a source names it, with the signals the
sources give it. -/
theorem merge_lookup {src : Sources} (distinct : src.Distinct) (rowid : Int) :
    src.merge.lookup rowid = if rowid ∈ src.rows then some (src.signals rowid) else none := by
  by_cases named : rowid ∈ src.rows
  · obtain ⟨c, found⟩ := Option.isSome_iff_exists.mp ((merge_lookup_isSome src rowid).mpr named)
    have signals := merge_lookup_getD distinct rowid
    rw [found, Option.getD_some] at signals
    rw [if_pos named, found, signals]
  · rw [if_neg named]
    exact Option.not_isSome_iff_eq_none.mp fun found => named ((merge_lookup_isSome src rowid).mp found)

end Sources

section

variable {w : Config.StructuralWeights} {q : QueryAnalysis}

theorem nodup_addEvidence {acc : List (Int × StructuralMatch)} (row : SymbolRow)
    (distinct : (acc.map Prod.fst).Nodup) : ((addEvidence w q acc row).map Prod.fst).Nodup := by
  simp only [addEvidence]
  split
  · exact distinct
  · refine nodup_upsert _ _ (fun e => ?_) distinct
    obtain ⟨id, m⟩ := e
    dsimp only
    split <;> rfl

theorem nodup_structuralTop (rows : List SymbolRow) (limit : Nat) :
    ((structuralTop w rows q limit).map Prod.fst).Nodup := by
  refine ChunkStore.nodup_take_mergeSort _ _ ?_
  -- the evidence stays keyed by distinct chunks symbol row by symbol row
  suffices folded : ∀ acc : List (Int × StructuralMatch), (acc.map Prod.fst).Nodup →
      ((rows.foldl (addEvidence w q) acc).map Prod.fst).Nodup from
    folded [] List.nodup_nil
  induction rows with
  | nil => exact fun _ distinct => distinct
  | cons row rest ih => exact fun acc distinct => ih _ (nodup_addEvidence row distinct)

end

/-- The rules of a boost configuration pin the manifests exactly when the essential-config bonus
is positive. -/
theorem pinnedFiles_boostRules (b : Config.BoostConfig) (manifests : List String) :
    pinnedFiles (boostRules b manifests) = if b.essentialConfig > 0 then manifests else [] := by
  simp only [boostRules, pinnedFiles, List.flatMap_append]
  split_ifs <;> simp_all [BoostRule.pinnedFiles]

namespace QueryEngine

/-- The vector hits a search draws on: those of its query vector when that has the store's
width, none otherwise. -/
def vectorHits (e : QueryEngine) (s : ChunkStore) (repository : String) (generation : Int)
    (queryVector : Option (List Float32)) (limit : Nat) : Except String (List VectorHit) :=
  match queryVector with
  | some v =>
    if v.length == s.dimensions then
      s.searchVectors repository generation v e.config.minSimilarity (max e.config.candidateLimit limit)
    else pure []
  | none => pure []

/-- The sources of a search over a generation, given its vector hits: the lexical and structural
hits cut to the larger of the candidate limit and the limit, the rows holding a quoted phrase
when the query quotes one, and the rows of the pinned files when the rules pin any. -/
def sources (e : QueryEngine) (s : ChunkStore) (repository : String) (generation : Int)
    (q : QueryAnalysis) (vector : List VectorHit) (limit : Nat) : Sources :=
  let cl := max e.config.candidateLimit limit
  { lexical := s.searchLexical repository generation q.terms cl, vector,
    structural := structuralTop e.config.structural (s.findSymbols repository generation q.terms q.kinds)
      q cl,
    phrases := if q.phrases.isEmpty then [] else s.chunksContaining repository generation q.phrases,
    pinned := if (pinnedFiles e.rules).isEmpty then [] else
      s.chunksForFiles repository generation (pinnedFiles e.rules) }

variable {e : QueryEngine} {s : ChunkStore} {repository : String} {generation : Int}
  {q : QueryAnalysis} {queryVector : Option (List Float32)} {limit : Nat}

theorem gather_eq :
    e.gather s repository generation q queryVector limit =
      (e.vectorHits s repository generation queryVector limit) >>= fun hits =>
        pure (e.sources s repository generation q hits limit).merge := by
  unfold gather vectorHits
  dsimp only
  -- the vector search is the one step that can fail; after it every branch merges the same way
  rcases queryVector with _ | v <;> dsimp only
  on_goal 2 => split
  all_goals
    refine bind_congr fun hits => ?_
    unfold sources Sources.merge
    by_cases quoted : q.phrases.isEmpty <;> by_cases pinned : (pinnedFiles e.rules).isEmpty <;>
      simp [quoted, pinned]

theorem vectorHits_ok (fit : VectorsFit s) :
    ∃ hits, e.vectorHits s repository generation queryVector limit = .ok hits := by
  unfold vectorHits
  rcases queryVector with _ | v
  · exact ⟨[], rfl⟩
  · dsimp only
    split
    · exact ChunkStore.searchVectors_ok fit _ _ _
    · exact ⟨[], rfl⟩

theorem nodup_vectorHits (distinct : (s.rowids repository generation).Nodup) {hits : List VectorHit}
    (found : e.vectorHits s repository generation queryVector limit = .ok hits) :
    (hits.map (·.rowid)).Nodup := by
  unfold vectorHits at found
  rcases queryVector with _ | v
  · cases found
    exact List.nodup_nil
  · dsimp only at found
    split at found
    · exact ChunkStore.nodup_searchVectors distinct found
    · cases found
      exact List.nodup_nil

theorem sources_distinct (distinct : (s.rowids repository generation).Nodup) {hits : List VectorHit}
    (found : e.vectorHits s repository generation queryVector limit = .ok hits) :
    (e.sources s repository generation q hits limit).Distinct where
  lexical := ChunkStore.nodup_searchLexical distinct _ _
  vector := nodup_vectorHits distinct found
  structural := nodup_structuralTop _ _

theorem gather_lookup (fit : VectorsFit s) (distinct : (s.rowids repository generation).Nodup) :
    ∃ hits cs, e.vectorHits s repository generation queryVector limit = .ok hits ∧
      e.gather s repository generation q queryVector limit = .ok cs ∧ (cs.map Prod.fst).Nodup ∧
      ∀ row, cs.lookup row =
        if row ∈ (e.sources s repository generation q hits limit).rows then
          some ((e.sources s repository generation q hits limit).signals row)
        else none := by
  obtain ⟨hits, found⟩ : ∃ hits, e.vectorHits s repository generation queryVector limit = .ok hits :=
    vectorHits_ok fit
  have named : (e.sources s repository generation q hits limit).Distinct := sources_distinct distinct found
  refine ⟨hits, _, found, ?_, Sources.merge_nodup _, Sources.merge_lookup named⟩
  rw [gather_eq, found]
  rfl

end QueryEngine

end RepoSearch.Search
