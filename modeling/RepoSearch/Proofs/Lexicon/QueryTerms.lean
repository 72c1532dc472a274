import RepoSearch.Proofs.Text.Lowercase
import RepoSearch.Search.Query
import Mathlib
/-! Query terms. A stopword lookup is a binary search of the stopwords, and the stopwords are
sorted, so the lookup finds exactly the stopwords. A query's terms are its tokens that are not
stopwords, each once, ordered by where each first occurs; so the terms that lexical and structural
search receive are pairwise distinct, as the document-frequency count of lexical search needs.

Main statement: `queryTerms_distinct_first_seen`. -/
namespace RepoSearch.Lexicon

section BinarySearch

variable {α : Type} [LinearOrder α] {xs : List α} {key : α}

theorem searchWindow_eq_of_getElem (sorted : xs.SortedLT) {k : Nat} (hk : k < xs.length)
    (found : xs[k] = key) (base size : Nat) (nonempty : 0 < size)
    (within : base + size ≤ xs.length) (lo : base ≤ k) (hi : k < base + size) :
    (searchWindow xs (fun x => compare x key) base size nonempty within : Nat) = k := by
  fun_induction searchWindow xs (fun x => compare x key) base size nonempty within with
  | case1 base size nonempty within more probe ih =>
    apply ih
    · split
      · exact lo
      · rename_i notAbove
        have : xs[base + size / 2] ≤ xs[k] := by
          rw [found]
          exact le_of_not_gt fun above => notAbove (compare_gt_iff_gt.mpr above)
        exact (sorted.getElem_le_getElem_iff).mp this
    · split
      · rename_i above
        have : xs[k] < xs[base + size / 2] := by
          rw [found]
          exact compare_gt_iff_gt.mp above
        have := (sorted.getElem_lt_getElem_iff).mp this
        omega
      · omega
  | case2 base size nonempty within stop =>
    show base = k
    omega

theorem getElem_of_binarySearch_eq_ok {i : Nat} (h : binarySearch xs key = .ok i) :
    ∃ hi : i < xs.length, xs[i] = key := by
  unfold binarySearch binarySearchBy at h
  split at h
  · rename_i nonempty
    generalize window : searchWindow xs _ 0 xs.length nonempty _ = w at h
    dsimp only at h
    split at h
    · rename_i equal
      cases h
      exact ⟨w.isLt, compare_eq_iff_eq.mp equal⟩
    · cases h
    · cases h
  · cases h

theorem binarySearch_eq_ok_of_getElem (sorted : xs.SortedLT) {i : Nat} (hi : i < xs.length)
    (found : xs[i] = key) : binarySearch xs key = .ok i := by
  have nonempty : 0 < xs.length := by omega
  have closes := searchWindow_eq_of_getElem sorted hi found 0 xs.length nonempty (by omega)
    (Nat.zero_le i) (by omega)
  unfold binarySearch binarySearchBy
  rw [dif_pos nonempty]
  generalize window : searchWindow xs _ 0 xs.length nonempty _ = w at closes
  obtain rfl : w = ⟨i, hi⟩ := Fin.ext closes
  have equal : compare (xs.get ⟨i, hi⟩) key = .eq := compare_eq_iff_eq.mpr found
  simp only [equal]

theorem binarySearch_isOk_iff (sorted : xs.SortedLT) :
    (binarySearch xs key).isOk = true ↔ key ∈ xs := by
  rw [List.mem_iff_getElem]
  constructor
  · intro ok
    cases result : binarySearch xs key with
    | error _ => simp [result, Except.isOk, Except.toBool] at ok
    | ok i =>
      obtain ⟨hi, found⟩ := getElem_of_binarySearch_eq_ok result
      exact ⟨i, hi, found⟩
  · rintro ⟨i, hi, found⟩
    rw [binarySearch_eq_ok_of_getElem sorted hi found]
    rfl

end BinarySearch

theorem stopwords_sortedLT : stopwords.SortedLT := by
  rw [List.sortedLT_iff_isChain]
  decide

@[simp]
theorem isStopword_eq_true_iff (token : String) : isStopword token = true ↔ token ∈ stopwords :=
  binarySearch_isOk_iff stopwords_sortedLT

section FirstSeen

variable {tokens terms : List String}

/-- The terms kept from the tokens read so far: each token that is not a stopword, once, ordered
by where it first occurs among the tokens. -/
structure FirstSeen (tokens terms : List String) : Prop where
  mem_iff : ∀ t, t ∈ terms ↔ t ∈ tokens ∧ isStopword t = false
  ordered : terms.Pairwise fun a b => tokens.idxOf a < tokens.idxOf b

theorem FirstSeen.nodup (h : FirstSeen tokens terms) : terms.Nodup :=
  h.ordered.imp fun before same => by
    subst same
    exact lt_irrefl _ before

theorem FirstSeen.ordered_append (h : FirstSeen tokens terms) (token : String) :
    terms.Pairwise fun a b => (tokens ++ [token]).idxOf a < (tokens ++ [token]).idxOf b := by
  refine h.ordered.imp_of_mem fun {a b} ma mb before => ?_
  rw [List.idxOf_append_of_mem ((h.mem_iff a).mp ma).1,
    List.idxOf_append_of_mem ((h.mem_iff b).mp mb).1]
  exact before

theorem FirstSeen.addQueryTerm (h : FirstSeen tokens terms) (token : String) :
    FirstSeen (tokens ++ [token]) (addQueryTerm terms token) := by
  unfold Lexicon.addQueryTerm
  split
  · -- a stopword, or a term already: nothing is added
    rename_i skip
    refine ⟨fun t => ?_, h.ordered_append token⟩
    rw [h.mem_iff, List.mem_append, List.mem_singleton]
    constructor
    · rintro ⟨read, kept⟩
      exact ⟨.inl read, kept⟩
    · rintro ⟨read | rfl, kept⟩
      · exact ⟨read, kept⟩
      · have listed : t ∈ terms := by simpa [kept] using skip
        exact (h.mem_iff t).mp listed
  · -- a new term: it was not read before, so it first occurs last
    rename_i new
    rw [Bool.or_eq_true, not_or, Bool.not_eq_true, Bool.not_eq_true] at new
    obtain ⟨kept, unlisted⟩ := new
    replace unlisted : token ∉ terms := by simpa using unlisted
    have unread : token ∉ tokens := fun read => unlisted ((h.mem_iff token).mpr ⟨read, kept⟩)
    refine ⟨fun t => ?_, List.pairwise_append.mpr
      ⟨h.ordered_append token, List.pairwise_singleton _ _, fun a ma b mb => ?_⟩⟩
    · rw [List.mem_append, List.mem_singleton, h.mem_iff, List.mem_append, List.mem_singleton]
      constructor
      · rintro (⟨read, stop⟩ | rfl)
        · exact ⟨.inl read, stop⟩
        · exact ⟨.inr rfl, kept⟩
      · rintro ⟨read | rfl, stop⟩
        · exact .inl ⟨read, stop⟩
        · exact .inr rfl
    · rw [List.mem_singleton.mp mb, List.idxOf_append_of_mem ((h.mem_iff a).mp ma).1,
        List.idxOf_append_of_notMem unread]
      have := List.idxOf_lt_length_of_mem ((h.mem_iff a).mp ma).1
      omega

theorem firstSeen_foldl (tokens : List String) :
    FirstSeen tokens (tokens.foldl addQueryTerm []) := by
  induction tokens using List.reverseRecOn with
  | nil => exact ⟨by simp, .nil⟩
  | append_singleton tokens token ih =>
    rw [List.foldl_append, List.foldl_cons, List.foldl_nil]
    exact ih.addQueryTerm token

end FirstSeen

/-- A token is a stopword exactly when the sorted stopwords hold it, and a query's terms are its
tokens that are not stopwords, each once, ordered by where each first occurs. So the terms of a
query's analysis, which lexical and structural search receive, are pairwise distinct. -/
theorem queryTerms_distinct_first_seen (query : String) (uiKeywords : List String) :
    stopwords.SortedLT ∧ (∀ t, isStopword t = true ↔ t ∈ stopwords) ∧
      (queryTerms query).Nodup ∧
      (∀ t, t ∈ queryTerms query ↔ t ∈ tokenize query ∧ isStopword t = false) ∧
      (queryTerms query).Pairwise
        (fun a b => (tokenize query).idxOf a < (tokenize query).idxOf b) ∧
      (Search.QueryAnalysis.analyze query uiKeywords).terms.Nodup := by
  have seen := firstSeen_foldl (tokenize query)
  exact ⟨stopwords_sortedLT, isStopword_eq_true_iff, seen.nodup, seen.mem_iff, seen.ordered,
    seen.nodup⟩

example : queryTerms "Change the header to the new header" = ["change", "header", "new"] := by
  decide +kernel

theorem tokenize_lowered {text t : String} (read : t ∈ tokenize text) : Text.lowerFull t = t := by
  obtain ⟨run, -, rfl⟩ := List.mem_map.mp read
  exact Text.lowerFull_lowerFull _

/-- The terms of every analysed query are lowercase. -/
theorem analyze_terms_lowered (query : String) (uiKeywords : List String) :
    ∀ t ∈ (Search.QueryAnalysis.analyze query uiKeywords).terms, Text.lowerFull t = t := fun t kept =>
  tokenize_lowered (((firstSeen_foldl (tokenize query)).mem_iff t).mp kept).1

end RepoSearch.Lexicon
