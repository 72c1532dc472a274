import RepoSearch.Proofs.Store.Passes
import RepoSearch.Store.Lexical
import Mathlib
/-! The lexical ranking of a snapshot, measured against its definition by BM25. The full-text
index, an extension of the store, only proposes candidates: rows whose content it matches for a
term read as a phrase. When it proposes
every row whose term counts hold one of the terms, the ranking is the reference one for distinct
terms. Every row holding a term is a hit, scored by the BM25 contributions of the terms it holds,
summed in term order, with the document frequency of each term counted over the whole snapshot
and the snapshot's size and mean length as corpus figures; hits come by score descending and then
row id, cut to the limit.

Main statement: `searchLexical_eq_lexicalRanking`. -/
namespace RepoSearch.Store

/-- The BM25 hit of a row for distinct terms over the rows of `corpus`: the contributions of the
terms the row's counts hold, summed in term order, and those terms. A term's document frequency
is the number of rows of the corpus holding it, and the corpus figures are its size and the mean
of its token counts. -/
def bm25Hit (corpus : List StoredChunk) (terms : List String) (r : StoredChunk) : LexicalHit :=
  let nDocs := Float.ofNat corpus.length
  let avgLen := Float.ofNat (corpus.map (·.chunk.tokenCount)).sum / nDocs
  let df (t : String) := Float.ofNat (corpus.countP (·.chunk.termFreqs.mentions t))
  let matched := terms.filter r.chunk.termFreqs.mentions
  { rowid := r.rowid,
    score := (matched.map fun t => bm25Term (Float.ofNat (r.chunk.termFreqs.count t)) (df t) nDocs
      (Float.ofNat r.chunk.tokenCount) avgLen).foldl (· + ·) 0,
    matchedTerms := matched }

/-- The reference ranking of a snapshot's rows for distinct terms: the BM25 hit of every row
whose counts hold one of the terms, by score descending (in the total order of doubles) and then
row id, cut to the limit; nothing for no terms, a zero limit or an empty snapshot. -/
def lexicalRanking (rows : List StoredChunk) (terms : List String) (limit : Nat) :
    List LexicalHit :=
  if terms.isEmpty || limit == 0 || rows.isEmpty then []
  else
    (((rows.filter fun r => terms.any r.chunk.termFreqs.mentions).map (bm25Hit rows terms)).mergeSort
      lexicalBefore).take limit

theorem foldl_contributions (holds : String → Bool) (contribution : String → Float)
    (terms : List String) (score : Float) (matched : List String) :
    terms.foldl (fun (acc : Float × List String) t =>
        if holds t then (acc.1 + contribution t, acc.2 ++ [t]) else acc) (score, matched) =
      (((terms.filter holds).map contribution).foldl (· + ·) score, matched ++ terms.filter holds) := by
  induction terms generalizing score matched with
  | nil => simp
  | cons t rest ih =>
    cases held : holds t <;> simp [held, ih]

theorem foldl_tokenCount (rows : List StoredChunk) :
    rows.foldl (fun n r => n + r.chunk.tokenCount) 0 = (rows.map (·.chunk.tokenCount)).sum := by
  rw [List.sum_eq_foldl_nat, List.foldl_map]

section

variable {sql : SqlExtensions} {rows : List StoredChunk} {terms : List String}

/-- The full-text index proposes every row whose counts hold one of the terms. -/
def ProposesHolders (sql : SqlExtensions) (rows : List StoredChunk) (terms : List String) : Prop :=
  ∀ r ∈ rows, terms.any r.chunk.termFreqs.mentions → terms.any (sql.phraseMatch r.chunk.content)

theorem filter_postings (proposes : ProposesHolders sql rows terms) (holds : StoredChunk → Bool)
    (within : ∀ r ∈ rows, holds r → terms.any r.chunk.termFreqs.mentions) :
    (rows.filter fun r => terms.any (sql.phraseMatch r.chunk.content)).filter holds =
      rows.filter holds := by
  rw [List.filter_filter]
  refine List.filter_congr fun r mem => ?_
  cases held : holds r
  · simp
  · simp [proposes r mem (within r mem held)]

theorem documentFrequency_postings (proposes : ProposesHolders sql rows terms) (distinct : terms.Nodup)
    {t : String} (listed : t ∈ terms) :
    ((rows.filter fun r => terms.any (sql.phraseMatch r.chunk.content)).filter
        (·.chunk.termFreqs.mentions t)).length * terms.count t =
      rows.countP (·.chunk.termFreqs.mentions t) := by
  have within : ∀ r ∈ rows, r.chunk.termFreqs.mentions t → terms.any r.chunk.termFreqs.mentions :=
    fun _ _ held => List.any_eq_true.mpr ⟨t, listed, held⟩
  rw [filter_postings proposes _ within, List.count_eq_one_of_mem distinct listed, Nat.mul_one,
    List.countP_eq_length_filter]

end

/-- The lexical ranking of a snapshot is the reference BM25 ranking, for distinct terms and an
index that proposes every row whose counts hold one of them: every row holding a term is a hit,
scored by the contributions of the terms it holds in term order with each term's document
frequency counted over the whole snapshot and the snapshot's size and mean token count as corpus
figures, and hits come by score descending and then row id, cut to the limit. No terms, a zero
limit or an empty snapshot give no hits. -/
theorem searchLexical_eq_lexicalRanking (s : ChunkStore) (repository : String) (g : Int)
    (terms : List String) (limit : Nat) (distinct : terms.Nodup)
    (proposes : ProposesHolders s.sql (s.snapshot repository g) terms) :
    s.searchLexical repository g terms limit = lexicalRanking (s.snapshot repository g) terms limit ∧
      (terms = [] ∨ limit = 0 ∨ s.snapshot repository g = [] →
        s.searchLexical repository g terms limit = []) := by
  have ranked : s.searchLexical repository g terms limit =
      lexicalRanking (s.snapshot repository g) terms limit := by
    unfold ChunkStore.searchLexical lexicalRanking
    dsimp only
    split
    · rfl
    · congr 2
      -- the index's candidates holding a term are the snapshot's rows holding one
      conv_rhs => rw [← filter_postings proposes (fun r => terms.any r.chunk.termFreqs.mentions)
          (fun _ _ held => held), ← List.filterMap_eq_map, List.filterMap_filter]
      refine List.filterMap_congr fun r _ => ?_
      simp only [foldl_contributions, List.nil_append]
      have matched : (terms.filter r.chunk.termFreqs.mentions).isEmpty =
          !terms.any r.chunk.termFreqs.mentions := by
        cases holds : terms.any r.chunk.termFreqs.mentions
        · simpa [List.filter_eq_nil_iff] using holds
        · obtain ⟨t, listed, held⟩ := List.any_eq_true.mp holds
          simpa [List.isEmpty_iff, List.filter_eq_nil_iff] using ⟨t, listed, held⟩
      rw [matched]
      cases holds : terms.any r.chunk.termFreqs.mentions
      · rfl
      · simp only [Bool.not_true, Bool.false_eq_true, if_false, if_true, Function.comp_apply,
          bm25Hit, foldl_tokenCount]
        congr 3
        refine List.map_congr_left fun t held => ?_
        rw [documentFrequency_postings proposes distinct (List.mem_of_mem_filter held)]
  refine ⟨ranked, fun empty => ?_⟩
  rw [ranked, lexicalRanking, if_pos]
  rcases empty with none | zero | nothing
  · simp [none]
  · simp [zero]
  · simp [nothing]

end RepoSearch.Store

namespace RepoSearch.Store

set_option maxRecDepth 20000 in
/-- A committed snapshot of one chunk, `alpha beta`, searched for `alpha`. -/
theorem one_chunk_ranked_by_reference :
    let c := Chunk.build "a.txt" "alpha beta" "text" .block 1 1 []
    let s := (((ChunkStore.empty 4).perform (.begin "acme/site")).perform
        (.insert "acme/site" 1 [⟨c, none⟩])).perform (.commit "acme/site" 1 "c1")
    ["alpha"].Nodup ∧ ProposesHolders s.sql (s.snapshot "acme/site" 1) ["alpha"] ∧
      (s.searchLexical "acme/site" 1 ["alpha"] 5 = lexicalRanking (s.snapshot "acme/site" 1) ["alpha"] 5 ∧
        (["alpha"] = [] ∨ 5 = 0 ∨ s.snapshot "acme/site" 1 = [] →
          s.searchLexical "acme/site" 1 ["alpha"] 5 = [])) := by
  intro c s
  have chunks : (s.snapshot "acme/site" 1).map (·.chunk.content) = ["alpha beta"] := by
    cbv
  have proposes : ProposesHolders s.sql (s.snapshot "acme/site" 1) ["alpha"] := by
    intro r stored _
    have listed : r.chunk.content ∈ ["alpha beta"] := chunks ▸ List.mem_map_of_mem stored
    rw [List.mem_singleton.mp listed]
    cbv
  exact ⟨by decide, proposes,
    searchLexical_eq_lexicalRanking s "acme/site" 1 ["alpha"] 5 (by decide) proposes⟩

end RepoSearch.Store
