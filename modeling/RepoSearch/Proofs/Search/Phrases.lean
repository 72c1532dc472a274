import RepoSearch.Proofs.Search.Candidates
import Mathlib.Data.List.DropRight
/-! Quoted phrases as candidates. A query's quoted phrases make two tests: the rows holding a
phrase, ignoring ASCII case, are candidates of the search, and the quoted-text boost rewards a
chunk whose content holds a phrase once both are lowercased in full. The phrases a query quotes
are trimmed and never empty, so the two tests read the same phrases; they agree on a chunk whose
content, like the phrases, lowercases the same with ASCII letters folded as in full. Then a chunk
the boost rewards is a candidate, whatever the candidate limit and the limit asked for
(`boosted_chunk_is_candidate`). A capital outside ASCII breaks the agreement: content `XÜBERX`
holds the quoted `über` for the boost but not for the lookup, and is never a candidate. -/
namespace RepoSearch.Text

/-! ### Trimming twice -/

theorem trimBlankList_prefix (cs : List Char) : trimBlankList cs <+: cs.dropWhile isBlank := by
  have suffix : (cs.dropWhile isBlank).reverse.dropWhile isBlank <:+ (cs.dropWhile isBlank).reverse :=
    List.dropWhile_suffix isBlank
  unfold trimBlankList
  simpa only [List.reverse_reverse] using List.reverse_prefix.mpr suffix

theorem dropWhile_trimBlankList (cs : List Char) :
    (trimBlankList cs).dropWhile isBlank = trimBlankList cs := by
  obtain ⟨rest, whole⟩ := trimBlankList_prefix cs
  have front := List.head?_dropWhile_not isBlank cs
  rw [← whole] at front
  generalize trimBlankList cs = t at front ⊢
  cases t with
  | nil => rfl
  | cons c t =>
    simp only [List.cons_append, List.head?_cons] at front
    rw [List.dropWhile_cons_of_neg (by simp [front])]

theorem reverse_dropWhile_trimBlankList (cs : List Char) :
    (trimBlankList cs).reverse.dropWhile isBlank = (trimBlankList cs).reverse := by
  unfold trimBlankList
  rw [List.reverse_reverse, List.dropWhile_idempotent]

@[simp] theorem trimBlankList_trimBlankList (cs : List Char) :
    trimBlankList (trimBlankList cs) = trimBlankList cs := by
  have front := dropWhile_trimBlankList cs
  have back := reverse_dropWhile_trimBlankList cs
  generalize trimBlankList cs = t at front back ⊢
  unfold trimBlankList
  rw [front, back, List.reverse_reverse]

@[simp] theorem trimBlank_trimBlank (s : String) : trimBlank (trimBlank s) = trimBlank s := by
  simp [trimBlank, String.toList_ofList]

end RepoSearch.Text

namespace RepoSearch.Search

open RepoSearch.Store RepoSearch.Text

/-! ### The phrases of a query -/

theorem trimBlank_of_quotedPhrases {query p : String} (quoted : p ∈ quotedPhrases query) :
    trimBlank p = p ∧ p ≠ "" := by
  unfold quotedPhrases at quoted
  obtain ⟨m, -, made⟩ := List.mem_filterMap.mp quoted
  obtain ⟨⟨a, b⟩, -, trimmed⟩ := Option.bind_eq_some_iff.mp made
  dsimp only at trimmed
  split at trimmed
  · exact absurd trimmed (Option.some_ne_none p).symm
  · next nonempty =>
    obtain rfl := Option.some.inj trimmed
    exact ⟨trimBlank_trimBlank _, fun empty => nonempty (String.isEmpty_iff.mpr empty)⟩

theorem quotedText_isSome_iff (bonus : Float) (q : QueryAnalysis) (c : Chunk) :
    ((BoostRule.quotedText bonus).apply q c).isSome ↔
      ∃ p ∈ q.phrases, containsText (lowerFull c.content) (lowerFull p) = true := by
  rw [BoostRule.apply]
  split
  · next none =>
    rw [List.isEmpty_iff.mp none]
    simp
  · dsimp only
    split
    · next none =>
      simpa [List.filter_eq_nil_iff] using List.isEmpty_iff.mp none
    · next found =>
      obtain ⟨p, listed⟩ :=
        List.exists_mem_of_ne_nil _ (fun empty => found (List.isEmpty_iff.mpr empty))
      obtain ⟨quoted, held⟩ := List.mem_filter.mp listed
      exact iff_of_true Option.isSome_some ⟨p, quoted, held⟩

/-! ### The rows holding a phrase -/

section

variable {s : ChunkStore} {repository : String} {generation : Int}

theorem mem_chunksContaining {phrases : List String} (trimmed : ∀ p ∈ phrases, trimBlank p = p ∧ p ≠ "")
    {r : StoredChunk} (stored : r ∈ s.snapshot repository generation) {p : String} (listed : p ∈ phrases)
    (held : containsText (asciiLower r.chunk.content) (asciiLower p) = true) :
    r.rowid ∈ s.chunksContaining repository generation phrases := by
  have wanted : asciiLower p ∈
      (phrases.map fun p => asciiLower (trimBlank p)).filter fun p => !p.isEmpty := by
    refine List.mem_filter.mpr ⟨List.mem_map.mpr ⟨p, listed, by rw [(trimmed p listed).1]⟩, ?_⟩
    simpa [String.isEmpty_iff, asciiLower, String.map_eq_empty] using (trimmed p listed).2
  unfold ChunkStore.chunksContaining
  dsimp only
  rw [if_neg (fun none => List.not_mem_nil (List.isEmpty_iff.mp none ▸ wanted))]
  exact List.mem_map_of_mem (List.mem_filter.mpr ⟨stored, List.any_eq_true.mpr ⟨_, wanted, held⟩⟩)

end

/-! ### Phrase rows are candidates -/

section

variable {e : QueryEngine} {s : ChunkStore} {repository : String} {generation : Int}
  {q : QueryAnalysis} {queryVector : Option (List Float32)} {limit : Nat}

theorem phrase_of_lexicalHit {terms : List String} {h : LexicalHit}
    (mem : h ∈ s.searchLexical repository generation terms limit) :
    ∃ r ∈ s.snapshot repository generation, r.rowid = h.rowid ∧
      terms.any (s.sql.phraseMatch r.chunk.content) = true := by
  simp only [ChunkStore.searchLexical] at mem
  split at mem
  · cases mem
  · have found := (List.mergeSort_perm _ _).mem_iff.mp (List.mem_of_mem_take mem)
    obtain ⟨r, posted, made⟩ := List.mem_filterMap.mp found
    obtain ⟨stored, proposed⟩ := List.mem_filter.mp posted
    refine ⟨r, stored, ?_, proposed⟩
    split at made
    · cases made
    · cases made
      rfl

theorem mem_gather_of_chunksContaining (fit : VectorsFit s) {rowid : Int}
    (quoted : rowid ∈ s.chunksContaining repository generation q.phrases) :
    ∃ cs, e.gather s repository generation q queryVector limit = .ok cs ∧ rowid ∈ cs.map Prod.fst := by
  obtain ⟨hits, found⟩ : ∃ hits, e.vectorHits s repository generation queryVector limit = .ok hits :=
    QueryEngine.vectorHits_ok fit
  refine ⟨_, by rw [QueryEngine.gather_eq, found]; rfl, ?_⟩
  rw [← Candidates.lookup_isSome_iff, Sources.merge_lookup_isSome]
  -- the query quotes a phrase, or the lookup would have returned nothing
  have phrase : rowid ∈ (e.sources s repository generation q hits limit).phrases := by
    unfold QueryEngine.sources
    dsimp only
    split
    · next none =>
      rw [List.isEmpty_iff.mp none] at quoted
      simp [ChunkStore.chunksContaining] at quoted
    · exact quoted
  simp [Sources.rows, phrase]

end

/-- On every store the operations reach, a chunk that the quoted-text boost rewards for a query is
a candidate of the search for it, whatever the candidate limit and the limit asked for, when its
content and the query's phrases lowercase the same with ASCII letters folded as in full. -/
theorem boosted_chunk_is_candidate (dims : Nat) (ops : List PassOp) (e : QueryEngine)
    (repository : String) (generation : Int) (query : String) (queryVector : Option (List Float32))
    (limit : Nat) (bonus : Float) (r : StoredChunk) :
    let s := ops.foldl ChunkStore.perform (ChunkStore.empty dims)
    let q := QueryAnalysis.analyze query e.config.boosts.uiKeywords
    r ∈ s.snapshot repository generation →
    lowerFull r.chunk.content = asciiLower r.chunk.content →
    (∀ p ∈ q.phrases, lowerFull p = asciiLower p) →
    ((BoostRule.quotedText bonus).apply q r.chunk).isSome →
    ∃ cs, e.gather s repository generation q queryVector limit = .ok cs ∧ r.rowid ∈ cs.map Prod.fst := by
  intro s q stored folded phrasesFolded boosted
  obtain ⟨p, quoted, held⟩ := (quotedText_isSome_iff bonus q r.chunk).mp boosted
  rw [folded, phrasesFolded p quoted] at held
  have trimmed : ∀ p ∈ q.phrases, trimBlank p = p ∧ p ≠ "" := fun _ mem => trimBlank_of_quotedPhrases mem
  exact mem_gather_of_chunksContaining ((VectorsFit.empty dims).run ops)
    (mem_chunksContaining trimmed stored quoted held)

/-- A committed chunk holding `alpha beta` is a candidate of a search quoting `alpha beta` under a
candidate limit of one. -/
theorem quoted_phrase_found_at_candidate_limit_one :
    let c := Chunk.build "a.txt" "alpha beta" "text" .block 1 1 []
    let ops := [PassOp.begin "acme/site", .insert "acme/site" 1 [⟨c, none⟩], .commit "acme/site" 1 "c1"]
    let s := ops.foldl ChunkStore.perform (ChunkStore.empty 4)
    let e := QueryEngine.new { candidateLimit := 1 } []
    let q := QueryAnalysis.analyze "\"alpha beta\"" e.config.boosts.uiKeywords
    ∃ r ∈ s.snapshot "acme/site" 1, r.chunk = c ∧
      lowerFull r.chunk.content = asciiLower r.chunk.content ∧
      (∀ p ∈ q.phrases, lowerFull p = asciiLower p) ∧
      ((BoostRule.quotedText 2).apply q r.chunk).isSome ∧
      ∃ cs, e.gather s "acme/site" 1 q none 1 = .ok cs ∧ r.rowid ∈ cs.map Prod.fst := by
  intro c ops s e q
  have chunks : (s.snapshot "acme/site" 1).map (·.chunk) = [c] := rfl
  obtain ⟨r, stored, same⟩ := List.mem_map.mp (chunks ▸ List.mem_singleton_self c)
  have phrases : q.phrases = ["alpha beta"] := by
    show quotedPhrases _ = _
    decide +kernel
  have folded : lowerFull r.chunk.content = asciiLower r.chunk.content := by
    rw [same]
    decide +kernel
  have phrasesFolded : ∀ p ∈ q.phrases, lowerFull p = asciiLower p := by
    rw [phrases]
    simp only [List.mem_singleton, forall_eq]
    decide +kernel
  have boosted : ((BoostRule.quotedText 2).apply q r.chunk).isSome := by
    refine (quotedText_isSome_iff 2 q r.chunk).mpr ⟨"alpha beta", by rw [phrases]; simp, ?_⟩
    rw [same]
    decide +kernel
  exact ⟨r, stored, same, folded, phrasesFolded, boosted,
    boosted_chunk_is_candidate 4 ops e "acme/site" 1 "\"alpha beta\"" none 1 2 r stored folded
      phrasesFolded boosted⟩

/-- The committed content `XÜBERX` holds the quoted `über` once both are lowercased in full, so the
quoted-text boost rewards it; but the phrase lookup folds ASCII letters only, and no other source
names the row, so the search gathers no candidate at all. -/
theorem capital_umlaut_phrase_never_gathered :
    let chunk : Chunk := { (default : Chunk) with filePath := "a.txt", content := "XÜBERX" }
    let s := [PassOp.begin "acme/site", .insert "acme/site" 1 [⟨chunk, none⟩],
      .commit "acme/site" 1 "c1"].foldl ChunkStore.perform (ChunkStore.empty 4)
    let e := QueryEngine.new {} []
    let q := QueryAnalysis.analyze "\"über\"" e.config.boosts.uiKeywords
    (∃ r ∈ s.snapshot "acme/site" 1, r.chunk = chunk) ∧
      ((BoostRule.quotedText e.config.boosts.quotedText).apply q chunk).isSome ∧
      e.gather s "acme/site" 1 q none e.config.defaultLimit = .ok [] := by
  intro chunk s e q
  have chunks : (s.snapshot "acme/site" 1).map (·.chunk) = [chunk] := rfl
  have phrases : q.phrases = ["über"] := by
    show quotedPhrases _ = _
    decide +kernel
  have terms : q.terms = ["über"] := by
    show Lexicon.queryTerms _ = _
    decide +kernel
  have kinds : q.kinds = [] := by
    show (q.terms.filterMap kindKeyword).foldl _ [] = []
    rw [terms, show ["über"].filterMap kindKeyword = [] by decide]
    rfl
  have pinned : pinnedFiles e.rules = [] := (pinnedFiles_boostRules _ []).trans (ite_self _)
  -- no source names the row: its text holds no term as a phrase, it has no symbols, and the
  -- phrase lookup misses it
  have lexical :
      s.searchLexical "acme/site" 1 q.terms (max e.config.candidateLimit e.config.defaultLimit) = [] := by
    refine List.eq_nil_iff_forall_not_mem.mpr fun h mem => ?_
    obtain ⟨r, stored, -, proposed⟩ := phrase_of_lexicalHit mem
    have listed : r.chunk ∈ [chunk] := chunks ▸ List.mem_map_of_mem stored
    have opened : s.sql = .sqlite := rfl
    have absent : ["über"].any (SqlExtensions.sqlite.phraseMatch chunk.content) = false := by
      decide +kernel
    rw [List.mem_singleton.mp listed, terms, opened, absent] at proposed
    cases proposed
  have structural : s.findSymbols "acme/site" 1 q.terms q.kinds = [] := by rw [terms, kinds]; cbv
  have quoted : s.chunksContaining "acme/site" 1 q.phrases = [] := by
    rw [phrases]
    decide +kernel
  refine ⟨?_, ?_, ?_⟩
  · obtain ⟨r, stored, same⟩ := List.mem_map.mp (chunks ▸ List.mem_singleton_self chunk)
    exact ⟨r, stored, same⟩
  · refine (quotedText_isSome_iff _ q chunk).mpr ⟨"über", by rw [phrases]; simp, ?_⟩
    decide +kernel
  · rw [QueryEngine.gather_eq]
    simp only [QueryEngine.vectorHits, QueryEngine.sources, lexical, structural, quoted, pinned,
      ite_self, List.isEmpty_nil, if_true, pure_bind, structuralTop, structuralScores, List.foldl_nil,
      List.mergeSort_nil, List.take_nil]
    rfl

end RepoSearch.Search
