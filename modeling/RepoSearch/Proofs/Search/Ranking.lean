import RepoSearch.Proofs.Search.Candidates
import Mathlib.Data.String.Basic
/-! The ranking of a search. Every candidate row of the repository's current snapshot is scored:
its signals fused by the configured weights, plus the boosts its chunk earns, summed from a
negative zero. A candidate scoring at or below the minimum score is left out, and the rest come
best first, cut to the limit. "Best first" is the total order of doubles on scores, in which
`-0.0` ranks below `0.0` although the two are equal as numbers, and then ascending chunk id;
within one snapshot chunk ids are distinct, so the order is strict and the results are the
first `n` of the one list of candidate results that it sorts (`search_ranks_candidates`). Two
results scoring `0.0` and `-0.0` are therefore never ordered by chunk id. -/
namespace RepoSearch.Search

open RepoSearch.Store RepoSearch.Number RepoSearch.Text

/-! ### The order of results -/

/-- A result ranks above another with a higher score in the total order of doubles, or with the
same score and a smaller chunk id. -/
def RanksAbove (a b : SearchResult) : Prop :=
  totalKey b.score < totalKey a.score ∨
    (totalKey a.score = totalKey b.score ∧ a.chunk.id < b.chunk.id)

theorem resultBefore_iff {a b : SearchResult} :
    resultBefore a b = true ↔ totalKey b.score < totalKey a.score ∨
      (totalKey a.score = totalKey b.score ∧ a.chunk.id ≤ b.chunk.id) := by
  unfold resultBefore totalCompare
  rcases lt_trichotomy (totalKey b.score) (totalKey a.score) with lt | eq | gt
  · rw [compare_lt_iff_lt.mpr lt]
    exact iff_of_true rfl (.inl lt)
  · rw [compare_eq_iff_eq.mpr eq, eq]
    simp only [Bool.not_eq_eq_eq_not, Bool.not_true, decide_eq_false_iff_not, not_lt, lt_irrefl,
      true_and, false_or]
  · rw [compare_gt_iff_gt.mpr gt]
    exact iff_of_false Bool.false_ne_true (by omega)

theorem resultBefore_trans (a b c : SearchResult) :
    resultBefore a b = true → resultBefore b c = true → resultBefore a c = true := by
  simp only [resultBefore_iff]
  rintro (ab | ⟨ab, ids⟩) (bc | ⟨bc, ids'⟩)
  · exact .inl (by omega)
  · exact .inl (by omega)
  · exact .inl (by omega)
  · exact .inr ⟨ab.trans bc, ids.trans ids'⟩

theorem resultBefore_total (a b : SearchResult) : (resultBefore a b || resultBefore b a) = true := by
  rw [Bool.or_eq_true, resultBefore_iff, resultBefore_iff]
  rcases lt_trichotomy (totalKey b.score) (totalKey a.score) with lt | eq | gt
  · exact .inl (.inl lt)
  · rcases le_total a.chunk.id b.chunk.id with ids | ids
    · exact .inl (.inr ⟨eq.symm, ids⟩)
    · exact .inr (.inr ⟨eq, ids⟩)
  · exact .inr (.inl gt)

theorem pairwise_ranksAbove_mergeSort {l : List SearchResult} (distinct : (l.map (·.chunk.id)).Nodup) :
    (l.mergeSort resultBefore).Pairwise RanksAbove := by
  have sorted := List.pairwise_mergeSort resultBefore_trans resultBefore_total l
  have apart : (l.mergeSort resultBefore).Pairwise fun a b => a.chunk.id ≠ b.chunk.id :=
    List.pairwise_map.mp (((List.mergeSort_perm l _).map _).nodup_iff.mpr distinct)
  refine (sorted.and apart).imp fun ⟨before, other⟩ => ?_
  rcases resultBefore_iff.mp before with lt | ⟨eq, ids⟩
  · exact .inl lt
  · exact .inr ⟨eq, lt_of_le_of_ne ids other⟩

theorem RanksAbove.asymm {a b : SearchResult} (above : RanksAbove a b) : ¬ RanksAbove b a := by
  rcases above with lt | ⟨eq, ids⟩ <;> rintro (lt' | ⟨eq', ids'⟩)
  · omega
  · omega
  · omega
  · exact lt_asymm ids ids'

theorem eq_of_perm_of_ranked {l l' : List SearchResult} (ranked : l.Pairwise RanksAbove)
    (ranked' : l'.Pairwise RanksAbove) (perm : l.Perm l') : l = l' :=
  perm.eq_of_pairwise (fun _ _ _ _ above below => (above.asymm below).elim) ranked ranked'

/-! ### Scoring a candidate -/

/-- The score of a candidate: its fused signals plus its chunk's boosts, summed from `-0.0`. -/
def QueryEngine.score (e : QueryEngine) (q : QueryAnalysis) (chunk : Chunk) (c : Candidate) : Float :=
  fuse e.config.weights e.config.lexicalCeiling c.lexical c.vector c.structural.score +
    (applyBoosts e.rules q chunk).foldl (fun acc b => acc + b.score) (-0.0)

theorem rank_eq_some {e : QueryEngine} {q : QueryAnalysis} {chunk : Chunk} {c : Candidate}
    {res : SearchResult} (ranked : e.rank q chunk c = some res) :
    res.chunk = chunk ∧ res.score = e.score q chunk c ∧ ¬ res.score ≤ e.config.minScore := by
  unfold QueryEngine.rank at ranked
  dsimp only at ranked
  split at ranked
  · cases ranked
  · next above =>
    cases ranked
    exact ⟨rfl, rfl, above⟩

theorem rank_isSome_iff {e : QueryEngine} {q : QueryAnalysis} {chunk : Chunk} {c : Candidate} :
    (e.rank q chunk c).isSome ↔ ¬ e.score q chunk c ≤ e.config.minScore := by
  unfold QueryEngine.rank
  dsimp only
  split
  · next low => exact iff_of_false Bool.false_ne_true (not_not.mpr low)
  · next high => exact iff_of_true rfl high

theorem fuse_of_nonpos_ceiling {w : FusionWeights} {ceiling : Float} (nonpos : ceiling ≤ 0)
    (lexical vector structural : Float) :
    fuse w ceiling lexical vector structural = fuse w ceiling 0 vector structural := by
  simp only [fuse, normalize, nonpos, decide_true, Bool.true_or, if_true]

/-- The results the candidates of a search give: every candidate row of the snapshot scored with
the signals the sources give it, in row order, the rows at or below the minimum score left out. -/
def candidateResults (e : QueryEngine) (q : QueryAnalysis) (rows : List StoredChunk) (src : Sources) :
    List SearchResult :=
  (rows.filter (·.rowid ∈ src.rows)).filterMap fun r => e.rank q r.chunk (src.signals r.rowid)

theorem nodup_snapshot_ids {s : ChunkStore} (apart : (s.rows.map StoredChunk.slot).Nodup)
    (repository : String) (generation : Int) :
    ((s.snapshot repository generation).map (·.chunk.id)).Nodup := by
  have slots : ((s.snapshot repository generation).map (·.chunk.id)).map
      (fun id => (repository, generation, id)) = (s.snapshot repository generation).map StoredChunk.slot := by
    rw [List.map_map]
    refine List.map_congr_left fun r mem => ?_
    obtain ⟨-, owner, gen⟩ := ChunkStore.mem_snapshot.mp mem
    simp [StoredChunk.slot, owner, gen]
  refine List.Nodup.of_map (fun id => (repository, generation, id)) ?_
  rw [slots]
  exact apart.sublist (List.filter_sublist.map _)

theorem nodup_candidateResults_ids {e : QueryEngine} {q : QueryAnalysis} {rows : List StoredChunk}
    {src : Sources} (distinct : (rows.map (·.chunk.id)).Nodup) :
    ((candidateResults e q rows src).map (·.chunk.id)).Nodup := by
  unfold candidateResults
  refine distinct.sublist ((ChunkStore.sublist_map_filterMap ?_ _).trans (List.filter_sublist.map _))
  intro r res ranked
  exact congrArg Chunk.id (rank_eq_some ranked).1

/-! ### The results of a search -/

section

variable {e : QueryEngine} {s : ChunkStore} {repository query : String}
  {queryVector : Option (List Float32)} {n : Nat} {g : Int}

theorem search_eq_sorted (agree : TablesAgree s)
    (current : s.currentGeneration? repository = some g) (text : isBlankText query = false)
    (positive : 0 < n) {hits : List VectorHit}
    (found : e.vectorHits s repository g queryVector n = .ok hits) :
    e.search s repository query queryVector n =
      .ok (((candidateResults e (QueryAnalysis.analyze query e.config.boosts.uiKeywords)
        (s.snapshot repository g) (e.sources s repository g
          (QueryAnalysis.analyze query e.config.boosts.uiKeywords) hits n)).mergeSort
            resultBefore).take n) := by
  have distinct : (s.rowids repository g).Nodup :=
    agree.ordered.nodup.sublist (List.filter_sublist.map _)
  unfold QueryEngine.search
  rw [if_neg (by simp [text, Nat.pos_iff_ne_zero.mp positive]), current]
  dsimp only
  generalize QueryAnalysis.analyze query e.config.boosts.uiKeywords = q
  have named : (e.sources s repository g q hits n).Distinct := QueryEngine.sources_distinct distinct found
  have gathered : e.gather s repository g q queryVector n =
      .ok (e.sources s repository g q hits n).merge := by
    rw [QueryEngine.gather_eq, found]
    rfl
  have drawn : ∀ id ∈ (e.sources s repository g q hits n).merge.map Prod.fst,
      id ∈ s.rowids repository g := by
    intro id mem
    obtain ⟨x, held, rfl⟩ := List.mem_map.mp mem
    exact QueryEngine.gather_keys gathered x held
  rw [gathered]
  simp only [bind, Except.bind, pure, Except.pure]
  rw [ChunkStore.loadChunks_of_snapshot agree.ordered.nodup drawn]
  unfold candidateResults
  congr 3
  -- a row is loaded exactly when a source names it
  have loaded : ∀ r : StoredChunk, ((e.sources s repository g q hits n).merge.map Prod.fst).contains
      r.rowid = decide (r.rowid ∈ (e.sources s repository g q hits n).rows) := by
    intro r
    rw [Bool.eq_iff_iff, List.contains_iff_mem, decide_eq_true_iff, ← Candidates.lookup_isSome_iff,
      Sources.merge_lookup_isSome]
  rw [List.filter_congr fun r _ => loaded r]
  refine List.filterMap_congr fun r mem => ?_
  have look := Sources.merge_lookup named r.rowid
  rw [if_pos (of_decide_eq_true (List.mem_filter.mp mem).2), Candidates.lookup] at look
  obtain ⟨⟨k, c⟩, entry, same⟩ := Option.map_eq_some_iff.mp look
  subst same
  simp only [entry]

theorem search_eq_of_ranked (agree : TablesAgree s)
    (current : s.currentGeneration? repository = some g) (text : isBlankText query = false)
    (positive : 0 < n) {hits : List VectorHit}
    (found : e.vectorHits s repository g queryVector n = .ok hits) {ranked : List SearchResult}
    (perm : ranked.Perm (candidateResults e (QueryAnalysis.analyze query e.config.boosts.uiKeywords)
      (s.snapshot repository g) (e.sources s repository g
        (QueryAnalysis.analyze query e.config.boosts.uiKeywords) hits n)))
    (order : ranked.Pairwise RanksAbove) :
    e.search s repository query queryVector n = .ok (ranked.take n) := by
  rw [search_eq_sorted agree current text positive found]
  generalize QueryAnalysis.analyze query e.config.boosts.uiKeywords = q at perm ⊢
  have distinct : ((candidateResults e q (s.snapshot repository g)
      (e.sources s repository g q hits n)).map (·.chunk.id)).Nodup :=
    nodup_candidateResults_ids (nodup_snapshot_ids agree.apart repository g)
  rw [eq_of_perm_of_ranked (pairwise_ranksAbove_mergeSort distinct) order
    ((List.mergeSort_perm _ _).trans perm.symm)]

end

/-- On every store the pass operations reach from an empty one, a search of a repository with a
current generation, for a non-blank query and a positive limit `n`, answers. Its candidates are the
rows of the snapshot that the lexical, vector and structural hits (each cut to the larger of the
candidate limit and `n`), the rows holding a quoted phrase and the rows of pinned files name. Each
result is a candidate scored with its fused signals plus its boosts, above the minimum score; the
results have distinct chunk ids, and they are the first `n`, best first, of all candidates
scoring above the minimum: by score in the total order of doubles, then by ascending chunk id. -/
theorem search_ranks_candidates (dims : Nat) (ops : List PassOp) (e : QueryEngine)
    (repository query : String) (queryVector : Option (List Float32)) (n : Nat) (g : Int) :
    let s := ops.foldl ChunkStore.perform (ChunkStore.empty dims)
    let q := QueryAnalysis.analyze query e.config.boosts.uiKeywords
    s.currentGeneration? repository = some g → isBlankText query = false → 0 < n →
    ∃ hits results, e.vectorHits s repository g queryVector n = .ok hits ∧
      e.search s repository query queryVector n = .ok results ∧
      (∃ sorted : List SearchResult,
        sorted.Perm (candidateResults e q (s.snapshot repository g) (e.sources s repository g q hits n)) ∧
        sorted.Pairwise RanksAbove ∧ results = sorted.take n) ∧
      results.length ≤ n ∧ (results.map (·.chunk.id)).Nodup ∧
      ∀ res ∈ results, ∃ r ∈ s.snapshot repository g,
        r.rowid ∈ (e.sources s repository g q hits n).rows ∧ res.chunk = r.chunk ∧
        res.score = e.score q r.chunk ((e.sources s repository g q hits n).signals r.rowid) ∧
        ¬ res.score ≤ e.config.minScore := by
  intro s q current text positive
  have agree : TablesAgree s := (TablesAgree.empty dims).run ops
  obtain ⟨hits, found⟩ : ∃ hits, e.vectorHits s repository g queryVector n = .ok hits :=
    QueryEngine.vectorHits_ok ((VectorsFit.empty dims).run ops)
  have distinct : ((candidateResults e q (s.snapshot repository g)
      (e.sources s repository g q hits n)).map (·.chunk.id)).Nodup :=
    nodup_candidateResults_ids (nodup_snapshot_ids agree.apart repository g)
  refine ⟨hits, _, found, search_eq_sorted agree current text positive found,
    ⟨_, List.mergeSort_perm _ _, pairwise_ranksAbove_mergeSort distinct, rfl⟩, List.length_take_le _ _,
    ChunkStore.nodup_take_mergeSort _ _ distinct, fun res mem => ?_⟩
  have listed := (List.mergeSort_perm _ _).mem_iff.mp (List.mem_of_mem_take mem)
  obtain ⟨r, candidate, ranked⟩ := List.mem_filterMap.mp listed
  obtain ⟨stored, named⟩ := List.mem_filter.mp candidate
  obtain ⟨chunk, score, above⟩ := rank_eq_some ranked
  exact ⟨r, stored, of_decide_eq_true named, chunk, score, above⟩

/-- Two committed chunks, `alpha beta` and `gamma`, searched for `alpha` with a limit of five. -/
theorem two_chunks_ranked_for_alpha :
    let ops := [PassOp.begin "acme/site", .insert "acme/site" 1
      [⟨Chunk.build "a.txt" "alpha beta" "text" .block 1 1 [], none⟩,
       ⟨Chunk.build "b.txt" "gamma" "text" .block 1 1 [], none⟩], .commit "acme/site" 1 "c1"]
    let s := ops.foldl ChunkStore.perform (ChunkStore.empty 4)
    let e : QueryEngine := ⟨{}, []⟩
    let q := QueryAnalysis.analyze "alpha" e.config.boosts.uiKeywords
    s.currentGeneration? "acme/site" = some 1 ∧ isBlankText "alpha" = false ∧ 0 < 5 ∧
    ∃ hits results, e.vectorHits s "acme/site" 1 none 5 = .ok hits ∧
      e.search s "acme/site" "alpha" none 5 = .ok results ∧
      (∃ sorted : List SearchResult,
        sorted.Perm (candidateResults e q (s.snapshot "acme/site" 1) (e.sources s "acme/site" 1 q hits 5)) ∧
        sorted.Pairwise RanksAbove ∧ results = sorted.take 5) ∧
      results.length ≤ 5 ∧ (results.map (·.chunk.id)).Nodup ∧
      ∀ res ∈ results, ∃ r ∈ s.snapshot "acme/site" 1,
        r.rowid ∈ (e.sources s "acme/site" 1 q hits 5).rows ∧ res.chunk = r.chunk ∧
        res.score = e.score q r.chunk ((e.sources s "acme/site" 1 q hits 5).signals r.rowid) ∧
        ¬ res.score ≤ e.config.minScore := by
  intro ops s e q
  have current : s.currentGeneration? "acme/site" = some 1 := by decide
  have text : isBlankText "alpha" = false := by decide
  exact ⟨current, text, by decide,
    search_ranks_candidates 4 ops e "acme/site" "alpha" none 5 1 current text (by decide)⟩

set_option maxRecDepth 20000 in
/-- Two committed chunks with equal scores as numbers: `alpha`, held by the quoted phrase and
scoring `-0.0`, and `beta`, pinned and with a function symbol whose weighted evidence cancels its
bonus, scoring `0.0`. The search puts `beta` first, though `alpha` has the smaller chunk id. -/
theorem negative_zero_ranks_below_zero :
    let chunk (id path content : String) (symbols : List Symbol) : Chunk :=
      { (default : Chunk) with id, filePath := path, content, symbols }
    let a := chunk "a.txt:1-1:block" "a.txt" "alpha" []
    let b := chunk "b.txt:1-1:block" "b.txt" "beta" [⟨"beta", .function, 1, 1, 1, 5, ""⟩]
    let ops := [PassOp.begin "acme/site", .insert "acme/site" 1 [⟨a, none⟩, ⟨b, none⟩],
      .commit "acme/site" 1 "c1"]
    let s := ops.foldl ChunkStore.perform (ChunkStore.empty 4)
    let boosts : Config.BoostConfig := { quotedText := 0, uiMarkup := 0, essentialConfig := 2 }
    let e := QueryEngine.new { weights := ⟨-1, -1, -4⟩, lexicalCeiling := 0, minScore := -1, boosts }
      ["b.txt"]
    a.id < b.id ∧ ∃ ra rb, e.search s "acme/site" "\"alpha\" beta" none 10 = .ok [rb, ra] ∧
      ra.chunk = a ∧ rb.chunk = b ∧ (ra.score == rb.score) = true := by
  intro chunk a b ops s boosts e
  set q := QueryAnalysis.analyze "\"alpha\" beta" e.config.boosts.uiKeywords
  set src := e.sources s "acme/site" 1 q [] 10 with hsrc
  -- what the query asks for: the phrase `alpha` and the terms `alpha` and `beta`, no kind
  have qPhrases : q.phrases = ["alpha"] := by
    show quotedPhrases _ = _
    decide +kernel
  have qTerms : q.terms = ["alpha", "beta"] := by
    show Lexicon.queryTerms _ = _
    decide +kernel
  have qKinds : q.kinds = [] := by
    show (q.terms.filterMap kindKeyword).foldl _ [] = []
    rw [qTerms, show ["alpha", "beta"].filterMap kindKeyword = [] by decide]
    rfl
  have qFunction : q.mentionsFunction = false := by
    show q.kinds.contains .function = false
    rw [qKinds]
    rfl
  have snap : s.snapshot "acme/site" 1 = [⟨1, "acme/site", 1, a, none⟩, ⟨2, "acme/site", 1, b, none⟩] := by
    rfl
  have rules : e.rules = [.essentialConfig 2 ["b.txt"]] := by
    show boostRules boosts ["b.txt"] = _
    simp only [boostRules]
    rw [if_neg (by decide), if_neg (by decide), if_pos (by decide)]
    rfl
  have phrases : src.phrases = [1] := by
    simp only [hsrc, QueryEngine.sources, qPhrases, ChunkStore.chunksContaining, snap]
    decide +kernel
  have pinned : src.pinned = [2] := by
    simp only [hsrc, QueryEngine.sources, rules, pinnedFiles, List.flatMap_cons, List.flatMap_nil,
      BoostRule.pinnedFiles, List.append_nil, ChunkStore.chunksForFiles, snap]
    decide
  have symbolRows : s.findSymbols "acme/site" 1 q.terms q.kinds =
      [⟨2, ⟨"beta", .function, 1, 1, 1, 5, ""⟩⟩] := by
    simp only [ChunkStore.findSymbols, qTerms, qKinds, snap]
    cbv
  have matched : symbolMatches ⟨"beta", .function, 1, 1, 1, 5, ""⟩ q = true := by
    simp only [symbolMatches, qTerms, qKinds]
    decide +kernel
  have weight : symbolWeight e.config.structural .function q = 0.5 := by
    simp only [symbolWeight, qFunction, Bool.false_eq_true, if_false]
    rfl
  have structural : src.structural = [(2, ⟨0 + 0.5, ["beta"]⟩)] := by
    simp only [hsrc, QueryEngine.sources, symbolRows, structuralTop, structuralScores,
      List.foldl_cons, List.foldl_nil, addEvidence, matched, weight, Bool.not_true,
      Bool.false_eq_true, if_false, List.any_nil, List.nil_append, List.mergeSort_singleton]
    rfl
  have lowCeiling : e.config.lexicalCeiling ≤ 0 := (by decide : (0 : Float) ≤ 0)
  have noVector : src.vector = [] := rfl
  have scoreA : e.score q a (src.signals 1) = fuse ⟨-1, -1, -4⟩ 0 0 0 0 + -0.0 := by
    have boosted : applyBoosts e.rules q a = [] := by
      rw [rules]
      rfl
    simp only [QueryEngine.score, boosted, List.foldl_nil, Sources.signals, structural,
      noVector, fuse_of_nonpos_ceiling lowCeiling, List.find?_nil, List.find?_cons,
      Option.map_none, Option.getD_none]
    rfl
  have scoreB : e.score q b (src.signals 2) = fuse ⟨-1, -1, -4⟩ 0 0 0 (0 + 0.5) + (-0.0 + 2) := by
    have boosted : applyBoosts e.rules q b = [⟨"essential_config", 2, "essential project config"⟩] := by
      rw [rules]
      rfl
    simp only [QueryEngine.score, boosted, List.foldl_cons, List.foldl_nil, Sources.signals,
      structural, noVector, fuse_of_nonpos_ceiling lowCeiling, List.find?_nil, List.find?_cons,
      Option.map_none, Option.getD_none]
    rfl
  have aboveA : ¬ e.score q a (src.signals 1) ≤ e.config.minScore := by
    rw [scoreA]
    show ¬ _ ≤ (-1 : Float)
    decide
  have aboveB : ¬ e.score q b (src.signals 2) ≤ e.config.minScore := by
    rw [scoreB]
    show ¬ _ ≤ (-1 : Float)
    decide
  obtain ⟨ra, rankA⟩ := Option.isSome_iff_exists.mp (rank_isSome_iff.mpr aboveA)
  obtain ⟨rb, rankB⟩ := Option.isSome_iff_exists.mp (rank_isSome_iff.mpr aboveB)
  have listed : candidateResults e q (s.snapshot "acme/site" 1) src = [ra, rb] := by
    have namedA : (1 : Int) ∈ src.rows := by simp [Sources.rows, phrases]
    have namedB : (2 : Int) ∈ src.rows := by simp [Sources.rows, pinned]
    simp only [candidateResults, snap, List.filter_cons, namedA, namedB, decide_true, if_true,
      List.filter_nil, List.filterMap_cons, rankA, rankB, List.filterMap_nil]
  -- `0.0` is above `-0.0` in the total order, so `beta` comes first
  have keyA : totalKey ra.score = -1 := by
    rw [(rank_eq_some rankA).2.1, scoreA]
    decide
  have keyB : totalKey rb.score = 0 := by
    rw [(rank_eq_some rankB).2.1, scoreB]
    decide
  have pair : [rb, ra].Pairwise RanksAbove :=
    List.pairwise_pair.mpr (.inl (by rw [keyA, keyB]; decide))
  have searched : e.search s "acme/site" "\"alpha\" beta" none 10 = .ok [rb, ra] :=
    search_eq_of_ranked ((TablesAgree.empty 4).run ops) (by decide) (by decide) (by decide) rfl
      (listed ▸ List.Perm.swap ra rb []) pair
  refine ⟨?_, ra, rb, searched, (rank_eq_some rankA).1, (rank_eq_some rankB).1, ?_⟩
  · show "a.txt:1-1:block" < "b.txt:1-1:block"
    decide
  · rw [(rank_eq_some rankA).2.1, (rank_eq_some rankB).2.1, scoreA, scoreB]
    decide

end RepoSearch.Search
