import RepoSearch.Proofs.Search.Isolation
import RepoSearch.Proofs.Lexicon.QueryTerms
import Mathlib.Data.List.Induction
import Mathlib
/-! The structural stage of a search scores each chunk of a snapshot by the symbols the store's
symbol lookup returns. Measured here against the evidence of every stored symbol of each chunk:

* the scorer ignores a symbol that does not match the query, so it reads only the lookup's
  matching rows (`structuralScores_filter`);
* from the symbol rows of a whole snapshot with distinct row ids it gives each chunk with a
  matching symbol the weights of its matching symbols summed in storage order, and their names
  (`structuralScores_symbolRows`);
* the lookup keeps every matching symbol when names and contexts lowercase the same with ASCII
  letters folded as with full lowercasing, and the query's terms are lowercase
  (`symbolWanted_of_symbolMatches`). A name with a capital outside ASCII, such as `ÜBER`, is lost
  to a query for `über`. -/
namespace RepoSearch.Search

open RepoSearch.Store RepoSearch.Text RepoSearch.Config

/-- The structural evidence of a chunk from all of its symbols: the weights of the symbols that
match the query summed in storage order, and their names. -/
def chunkEvidence (w : StructuralWeights) (q : QueryAnalysis) (symbols : List Symbol) :
    StructuralMatch :=
  let hits := symbols.filter (symbolMatches · q)
  { score := (hits.map (fun sym => symbolWeight w sym.kind q)).foldl (· + ·) 0,
    symbols := hits.map (·.name) }

/-- The evidence of every stored chunk with a symbol that matches the query, in storage order. -/
def snapshotEvidence (w : StructuralWeights) (q : QueryAnalysis) (rows : List StoredChunk) :
    List (Int × StructuralMatch) :=
  rows.filterMap fun r =>
    if r.chunk.symbols.any (symbolMatches · q) then some (r.rowid, chunkEvidence w q r.chunk.symbols)
    else none

/-- Every symbol of stored chunks with its chunk's row id, chunk by chunk in storage order. -/
def symbolRows (rows : List StoredChunk) : List SymbolRow :=
  rows.flatMap fun r => r.chunk.symbols.map (⟨r.rowid, ·⟩)

section

variable {w : StructuralWeights} {q : QueryAnalysis}

/-! ### The scorer reads matching symbols only -/

theorem addEvidence_of_not_matches {acc : List (Int × StructuralMatch)} {row : SymbolRow}
    (other : symbolMatches row.symbol q = false) : addEvidence w q acc row = acc := by
  simp [addEvidence, other]

theorem foldl_addEvidence_filter (rows : List SymbolRow) (acc : List (Int × StructuralMatch)) :
    rows.foldl (addEvidence w q) acc =
      (rows.filter (symbolMatches ·.symbol q)).foldl (addEvidence w q) acc := by
  induction rows generalizing acc with
  | nil => rfl
  | cons row rest ih =>
    cases matched : symbolMatches row.symbol q
    · rw [List.foldl_cons, addEvidence_of_not_matches matched, ih]
      simp [matched]
    · rw [List.foldl_cons, ih]
      simp [matched]

theorem structuralScores_filter (rows : List SymbolRow) :
    structuralScores w rows q = structuralScores w (rows.filter (symbolMatches ·.symbol q)) q :=
  foldl_addEvidence_filter rows []

/-! ### Evidence of whole chunks -/

theorem chunkEvidence_append_of_not_matches {symbols : List Symbol} {sym : Symbol}
    (other : symbolMatches sym q = false) :
    chunkEvidence w q (symbols ++ [sym]) = chunkEvidence w q symbols := by
  simp [chunkEvidence, List.filter_append, other]

theorem chunkEvidence_append_of_matches {symbols : List Symbol} {sym : Symbol}
    (matched : symbolMatches sym q = true) :
    chunkEvidence w q (symbols ++ [sym]) =
      { score := (chunkEvidence w q symbols).score + symbolWeight w sym.kind q,
        symbols := (chunkEvidence w q symbols).symbols ++ [sym.name] } := by
  simp [chunkEvidence, List.filter_append, matched]

theorem chunkEvidence_of_none {symbols : List Symbol} (none : symbols.any (symbolMatches · q) = false) :
    chunkEvidence w q symbols = { score := 0, symbols := [] } := by
  have empty : symbols.filter (symbolMatches · q) = [] := by
    simpa [List.filter_eq_nil_iff] using none
  simp [chunkEvidence, empty]

theorem addEvidence_new {acc : List (Int × StructuralMatch)} {row : SymbolRow}
    (matched : symbolMatches row.symbol q = true) (fresh : ∀ e ∈ acc, e.1 ≠ row.chunkRowid) :
    addEvidence w q acc row =
      acc ++ [(row.chunkRowid,
        { score := 0 + symbolWeight w row.symbol.kind q, symbols := [row.symbol.name] })] := by
  have absent : acc.any (fun e => e.1 == row.chunkRowid) = false := by
    simpa using fresh
  simp [addEvidence, matched, absent]

theorem addEvidence_last {acc : List (Int × StructuralMatch)} {rowid : Int} {m : StructuralMatch}
    {sym : Symbol} (matched : symbolMatches sym q = true) (fresh : ∀ e ∈ acc, e.1 ≠ rowid) :
    addEvidence w q (acc ++ [(rowid, m)]) ⟨rowid, sym⟩ =
      acc ++ [(rowid,
        { score := m.score + symbolWeight w sym.kind q, symbols := m.symbols ++ [sym.name] })] := by
  have others : ∀ e ∈ acc, (e.1 == rowid) = false := fun e mem => beq_false_of_ne (fresh e mem)
  simp only [addEvidence, matched, Bool.not_true, Bool.false_eq_true, if_false, List.any_append,
    List.any_cons, beq_self_eq_true, Bool.true_or, Bool.or_true, if_true, List.map_append, List.map_cons,
    List.map_nil]
  congr 1
  refine (List.map_congr_left fun e mem => ?_).trans (List.map_id acc)
  simp [others e mem]

theorem foldl_addEvidence_chunk {rowid : Int} {acc : List (Int × StructuralMatch)}
    (fresh : ∀ e ∈ acc, e.1 ≠ rowid) (symbols : List Symbol) :
    (symbols.map (⟨rowid, ·⟩)).foldl (addEvidence w q) acc =
      acc ++ (if symbols.any (symbolMatches · q) then [(rowid, chunkEvidence w q symbols)] else []) := by
  induction symbols using List.reverseRecOn with
  | nil => simp
  | append_singleton symbols sym ih =>
    rw [List.map_append, List.foldl_append, ih, List.map_singleton, List.foldl_cons, List.foldl_nil]
    cases matched : symbolMatches sym q
    · rw [addEvidence_of_not_matches matched, chunkEvidence_append_of_not_matches matched]
      simp [matched]
    · have later : (symbols ++ [sym]).any (symbolMatches · q) = true := by simp [matched]
      rw [if_pos later, chunkEvidence_append_of_matches matched]
      cases earlier : symbols.any (symbolMatches · q)
      · rw [if_neg (by simp), List.append_nil, addEvidence_new matched fresh, chunkEvidence_of_none earlier]
        rfl
      · rw [if_pos rfl, addEvidence_last matched fresh]

theorem key_mem_of_snapshotEvidence {rows : List StoredChunk} {e : Int × StructuralMatch}
    (mem : e ∈ snapshotEvidence w q rows) : e.1 ∈ rows.map (·.rowid) := by
  obtain ⟨r, stored, made⟩ := List.mem_filterMap.mp mem
  split at made
  · cases made
    exact List.mem_map_of_mem stored
  · cases made

theorem structuralScores_symbolRows {rows : List StoredChunk} (distinct : (rows.map (·.rowid)).Nodup) :
    structuralScores w (symbolRows rows) q = snapshotEvidence w q rows := by
  induction rows using List.reverseRecOn with
  | nil => rfl
  | append_singleton rows r ih =>
    rw [List.map_append, List.nodup_append] at distinct
    obtain ⟨before, -, apart⟩ := distinct
    -- the chunk's row id is not among the earlier chunks' evidence
    have fresh : ∀ e ∈ snapshotEvidence w q rows, e.1 ≠ r.rowid := fun e mem same =>
      apart e.1 (key_mem_of_snapshotEvidence mem) r.rowid (by simp) same
    rw [structuralScores, symbolRows, List.flatMap_append, List.foldl_append, ← symbolRows,
      ← structuralScores, ih before, List.flatMap_singleton, foldl_addEvidence_chunk fresh]
    simp only [snapshotEvidence, List.filterMap_append, List.filterMap_cons, List.filterMap_nil]
    split <;> rfl

/-! ### The lookup keeps every matching symbol of ASCII-folded text -/

theorem findSymbols_eq (s : ChunkStore) (repository : String) (generation : Int)
    (terms : List String) (kinds : List SymbolKind) :
    s.findSymbols repository generation terms kinds =
      if terms.isEmpty && kinds.isEmpty then []
      else (symbolRows (s.snapshot repository generation)).filter
        (symbolWanted (terms.map lowerFull) kinds ·.symbol) := by
  simp [ChunkStore.findSymbols, symbolRows, List.filter_flatMap, List.filter_map, Function.comp_def]

theorem mem_symbolRows {rows : List StoredChunk} {row : SymbolRow} (mem : row ∈ symbolRows rows) :
    ∃ r ∈ rows, row.symbol ∈ r.chunk.symbols := by
  obtain ⟨r, stored, listed⟩ := List.mem_flatMap.mp mem
  obtain ⟨sym, held, rfl⟩ := List.mem_map.mp listed
  exact ⟨r, stored, held⟩

theorem symbolWanted_of_symbolMatches {sym : Symbol}
    (folded : lowerFull sym.name = asciiLower sym.name ∧ lowerFull sym.context = asciiLower sym.context)
    (lowered : ∀ t ∈ q.terms, lowerFull t = t) (matched : symbolMatches sym q = true) :
    symbolWanted (q.terms.map lowerFull) q.kinds sym = true := by
  simp only [symbolMatches, folded.1, folded.2, Bool.or_eq_true, List.any_eq_true] at matched
  simp only [symbolWanted, List.any_map, Bool.or_eq_true, List.any_eq_true, Function.comp_apply]
  rcases matched with kind | ⟨t, listed, found⟩
  · exact .inr kind
  · exact .inl ⟨t, listed, by rw [lowered t listed]; exact found⟩

theorem findSymbols_filter_matches {s : ChunkStore} {repository : String} {generation : Int}
    (folded : ∀ r ∈ s.snapshot repository generation, ∀ sym ∈ r.chunk.symbols,
      lowerFull sym.name = asciiLower sym.name ∧ lowerFull sym.context = asciiLower sym.context)
    (lowered : ∀ t ∈ q.terms, lowerFull t = t) :
    (s.findSymbols repository generation q.terms q.kinds).filter (symbolMatches ·.symbol q) =
      (symbolRows (s.snapshot repository generation)).filter (symbolMatches ·.symbol q) := by
  rw [findSymbols_eq]
  split
  · -- with neither terms nor kinds no symbol matches
    rename_i nothing
    simp only [Bool.and_eq_true, List.isEmpty_iff] at nothing
    symm
    rw [List.filter_nil, List.filter_eq_nil_iff]
    intro row _
    simp [symbolMatches, nothing.1, nothing.2]
  · rw [List.filter_filter]
    refine List.filter_congr fun row mem => ?_
    obtain ⟨r, stored, held⟩ := mem_symbolRows mem
    cases matched : symbolMatches row.symbol q
    · simp
    · simp [symbolWanted_of_symbolMatches (folded r stored row.symbol held) lowered matched]

end

/-- The structural stage scores the rows of the store's symbol lookup. When the names and
contexts of a snapshot's symbols lowercase the same with ASCII letters folded as with full
lowercasing, and the query's terms are lowercase (as those of every analysed query are,
`analyze_terms_lowered`), the lookup returns every stored symbol that
matches the query, and the evidence of each chunk is that of all its stored symbols: the weights
of its matching symbols summed in storage order and their names, the `limit` strongest chunks
kept by score and then row id. Row ids are ordered in every store the operations reach. -/
theorem structural_evidence_of_stored_symbols {s : ChunkStore} (ordered : RowidsOrdered s)
    (w : StructuralWeights) (q : QueryAnalysis) (repository : String) (generation : Int)
    (limit : Nat)
    (folded : ∀ r ∈ s.snapshot repository generation, ∀ sym ∈ r.chunk.symbols,
      lowerFull sym.name = asciiLower sym.name ∧ lowerFull sym.context = asciiLower sym.context)
    (lowered : ∀ t ∈ q.terms, lowerFull t = t) :
    (∀ r ∈ s.snapshot repository generation, ∀ sym ∈ r.chunk.symbols, symbolMatches sym q = true →
      ⟨r.rowid, sym⟩ ∈ s.findSymbols repository generation q.terms q.kinds) ∧
    structuralTop w (s.findSymbols repository generation q.terms q.kinds) q limit =
      ((snapshotEvidence w q (s.snapshot repository generation)).mergeSort evidenceBefore).take
        limit := by
  have same := findSymbols_filter_matches folded lowered
  constructor
  · intro r stored sym held matched
    have listed : (⟨r.rowid, sym⟩ : SymbolRow) ∈
        (symbolRows (s.snapshot repository generation)).filter (symbolMatches ·.symbol q) :=
      List.mem_filter.mpr ⟨List.mem_flatMap.mpr ⟨r, stored, List.mem_map.mpr ⟨sym, held, rfl⟩⟩, matched⟩
    rw [← same] at listed
    exact (List.mem_filter.mp listed).1
  · have distinct : ((s.snapshot repository generation).map (·.rowid)).Nodup :=
      ordered.nodup.sublist (List.filter_sublist.map _)
    rw [structuralTop, structuralScores_filter, same, ← structuralScores_filter,
      structuralScores_symbolRows distinct]

set_option maxRecDepth 20000 in
/-- A chunk with the function `renderNav`, searched for `render` as the engine analyses it. -/
theorem render_query_reads_every_match :
    let render : Symbol := ⟨"renderNav", .function, 1, 1, 1, 10, "function renderNav() \x7b"⟩
    let nav : Chunk := { (default : Chunk) with filePath := "src/nav.js", symbols := [render] }
    let s := (((ChunkStore.empty 4).perform (.begin "acme/site")).perform
        (.insert "acme/site" 1 [⟨nav, none⟩])).perform (.commit "acme/site" 1 "c1")
    let q := QueryAnalysis.analyze "render" []
    RowidsOrdered s ∧
      (∀ r ∈ s.snapshot "acme/site" 1, ∀ sym ∈ r.chunk.symbols,
        lowerFull sym.name = asciiLower sym.name ∧ lowerFull sym.context = asciiLower sym.context) ∧
      (∀ t ∈ q.terms, lowerFull t = t) ∧
      (∀ r ∈ s.snapshot "acme/site" 1, ∀ sym ∈ r.chunk.symbols, symbolMatches sym q = true →
        ⟨r.rowid, sym⟩ ∈ s.findSymbols "acme/site" 1 q.terms q.kinds) ∧
      structuralTop {} (s.findSymbols "acme/site" 1 q.terms q.kinds) q 5 =
        ((snapshotEvidence {} q (s.snapshot "acme/site" 1)).mergeSort evidenceBefore).take 5 := by
  intro render nav s q
  have ordered : RowidsOrdered s := (((RowidsOrdered.empty 4).perform _).perform _).perform _
  have symbols : (s.snapshot "acme/site" 1).map (·.chunk.symbols) = [[render]] := by
    cbv
  have folded : ∀ r ∈ s.snapshot "acme/site" 1, ∀ sym ∈ r.chunk.symbols,
      lowerFull sym.name = asciiLower sym.name ∧ lowerFull sym.context = asciiLower sym.context := by
    intro r stored sym held
    have listed : r.chunk.symbols ∈ [[render]] := symbols ▸ List.mem_map_of_mem stored
    rw [List.mem_singleton.mp listed, List.mem_singleton] at held
    subst held
    exact ⟨by cbv, by cbv⟩
  have lowered : ∀ t ∈ q.terms, lowerFull t = t := Lexicon.analyze_terms_lowered "render" []
  exact ⟨ordered, folded, lowered,
    structural_evidence_of_stored_symbols ordered {} q "acme/site" 1 5 folded lowered⟩

set_option maxRecDepth 20000 in
/-- The function `ÜBER` of a committed snapshot matches the query term `über`, but the symbol
lookup, which folds ASCII letters only, does not return it. -/
theorem capital_umlaut_lost_to_lookup :
    let uber : Symbol := ⟨"ÜBER", .function, 1, 1, 1, 5, ""⟩
    let chunk : Chunk := { (default : Chunk) with filePath := "a.js", content := "x", symbols := [uber] }
    let s := (((ChunkStore.empty 4).perform (.begin "acme/site")).perform
        (.insert "acme/site" 1 [⟨chunk, none⟩])).perform (.commit "acme/site" 1 "c1")
    let q : QueryAnalysis := ⟨"über", ["über"], [], [], false, false, false⟩
    (∃ r ∈ s.snapshot "acme/site" 1, uber ∈ r.chunk.symbols) ∧ symbolMatches uber q = true ∧
      s.findSymbols "acme/site" 1 q.terms q.kinds = [] := by
  intro uber chunk s q
  have symbols : (s.snapshot "acme/site" 1).map (·.chunk.symbols) = [[uber]] := by
    cbv
  obtain ⟨r, stored, held⟩ := List.mem_map.mp (symbols ▸ List.mem_singleton_self [uber])
  exact ⟨⟨r, stored, held ▸ List.mem_singleton_self uber⟩, by cbv, by cbv⟩

end RepoSearch.Search
