import RepoSearch.Proofs.Chunking.Coverage
/-! Merging and ordering the chunks of a file. Chunks with one id are merged into the first of
them, which gains the symbols the later ones add, each once; the merged chunks are then ordered
by first line, last line and kind. For chunks whose symbol lists hold no repeat:

* each merged chunk is the first chunk of its id, with the symbols of all the chunks of that id
  in order and with repeats removed (`mergeById_spec`);
* for chunks of one file, whose ids name their lines and kind, the ordered chunks lie strictly
  one after the other (`mergeAndOrder_ordered`). -/
namespace RepoSearch.Chunking

open Chunk

/-! ### Lists without repeats -/

section Repeats

variable {α : Type} [BEq α] [LawfulBEq α]

theorem eraseDups_of_nodup : ∀ {l : List α}, l.Nodup → l.eraseDups = l
  | [], _ => rfl
  | a :: as, distinct => by
    rw [List.nodup_cons] at distinct
    have kept : as.filter (fun b => !b == a) = as := List.filter_eq_self.mpr fun b mem => by
      simp only [Bool.not_eq_eq_eq_not, Bool.not_true, beq_eq_false_iff_ne]
      exact fun same => distinct.1 (same ▸ mem)
    rw [List.eraseDups_cons, kept, eraseDups_of_nodup distinct.2]

theorem nodup_eraseDups : ∀ l : List α, l.eraseDups.Nodup
  | [] => List.nodup_nil
  | a :: as => by
    have : (as.filter fun b => !b == a).length < as.length + 1 :=
      Nat.lt_succ_of_le (List.length_filter_le _ _)
    rw [List.eraseDups_cons, List.nodup_cons]
    exact ⟨fun mem => by simpa using List.mem_eraseDups.mp mem, nodup_eraseDups _⟩
termination_by l => l.length

theorem foldl_addNew (l acc : List α) :
    l.foldl (fun acc s => if acc.contains s then acc else acc ++ [s]) acc =
      acc ++ (l.removeAll acc).eraseDups := by
  induction l generalizing acc with
  | nil => simp
  | cons x rest ih =>
    rw [List.foldl_cons]
    by_cases held : x ∈ acc
    · rw [if_pos (List.contains_iff_mem.mpr held), ih]
      simp [List.removeAll, held]
    · rw [if_neg (mt List.contains_iff_mem.mp held), ih, List.append_assoc]
      simp only [List.removeAll, List.filter_cons, List.elem_eq_mem, held, decide_false, Bool.not_false,
        if_true, List.eraseDups_cons, List.filter_filter, List.singleton_append]
      -- what the rest adds is what it holds beyond the accumulator and `x`
      have beyond : rest.filter (fun y => !decide (y ∈ acc ++ [x])) =
          rest.filter (fun y => !y == x && !decide (y ∈ acc)) :=
        List.filter_congr fun y _ => by by_cases same : y = x <;> simp [same, held]
      rw [beyond]

theorem removeAll_eraseDups (l acc : List α) : l.removeAll acc.eraseDups = l.removeAll acc := by
  simp [List.removeAll, List.mem_eraseDups]

end Repeats

/-! ### Merging by id -/

/-- The symbols of the chunks with one id, in order, each once. -/
def mergedSymbols (chunks : List Chunk) (id : String) : List Symbol :=
  ((chunks.filter (·.id == id)).flatMap (·.symbols)).eraseDups

theorem mergedSymbols_append_other {chunks : List Chunk} {c : Chunk} {id : String} (other : c.id ≠ id) :
    mergedSymbols (chunks ++ [c]) id = mergedSymbols chunks id := by
  simp [mergedSymbols, List.filter_append, other]

theorem mergedSymbols_append_self {chunks : List Chunk} {c : Chunk} {id : String} (same : c.id = id) :
    mergedSymbols (chunks ++ [c]) id =
      c.symbols.foldl (fun acc s => if acc.contains s then acc else acc ++ [s])
        (mergedSymbols chunks id) := by
  rw [foldl_addNew, mergedSymbols, mergedSymbols, removeAll_eraseDups]
  simp [List.filter_append, List.eraseDups_append, same]

theorem mergeById_append (chunks : List Chunk) (c : Chunk) :
    mergeById (chunks ++ [c]) =
      if (mergeById chunks).any (fun k => k.id == c.id) then
        (mergeById chunks).map fun k =>
          if k.id == c.id then
            { k with
              symbols :=
                c.symbols.foldl (fun acc s => if acc.contains s then acc else acc ++ [s]) k.symbols }
          else k
      else mergeById chunks ++ [c] := by
  rw [mergeById, List.foldl_append, ← mergeById, List.foldl_cons, List.foldl_nil]

theorem any_mergeById_iff (chunks : List Chunk) (id : String) :
    (mergeById chunks).any (fun k => k.id == id) = true ↔ ∃ c ∈ chunks, c.id = id := by
  simp only [List.any_eq_true, beq_iff_eq]
  constructor
  · rintro ⟨k, kept, rfl⟩
    obtain ⟨c, mem, same⟩ := mem_mergeById kept
    exact ⟨c, mem, by rw [same]⟩
  · rintro ⟨c, mem, rfl⟩
    exact mergeById_ids chunks c mem

theorem withSymbols_of_eq {k first : Chunk} {symbols symbols' : List Symbol}
    (shape : k = { first with symbols }) : { k with symbols := symbols' } = { first with symbols := symbols' } := by
  subst shape
  rfl

/-- Each merged chunk is the first chunk of its id, with the symbols of all chunks of its id in
order and with repeats removed, when no chunk's own symbols repeat. -/
theorem mergeById_spec {chunks : List Chunk} (distinct : ∀ c ∈ chunks, c.symbols.Nodup) :
    ∀ k ∈ mergeById chunks, ∃ first, chunks.find? (·.id == k.id) = some first ∧
      k = { first with symbols := mergedSymbols chunks k.id } := by
  induction chunks using List.reverseRecOn with
  | nil => intro k kept; cases kept
  | append_singleton chunks c ih =>
    have before := ih fun x mem => distinct x (List.mem_append_left _ mem)
    have own := distinct c (List.mem_append_right _ (List.mem_singleton_self c))
    have earlier : ∀ k ∈ mergeById chunks, k.id ≠ c.id → ∃ first,
        (chunks ++ [c]).find? (·.id == k.id) = some first ∧
          k = { first with symbols := mergedSymbols (chunks ++ [c]) k.id } := by
      intro k kept other
      obtain ⟨first, found, shape⟩ := before k kept
      refine ⟨first, by rw [List.find?_append, found]; rfl, ?_⟩
      rw [mergedSymbols_append_other (Ne.symm other)]
      exact shape
    intro k kept
    rw [mergeById_append] at kept
    split at kept
    · obtain ⟨k₀, kept₀, rfl⟩ := List.mem_map.mp kept
      by_cases same : k₀.id = c.id
      · obtain ⟨first, found, shape⟩ := before k₀ kept₀
        rw [if_pos (beq_iff_eq.mpr same)]
        dsimp only
        refine ⟨first, by rw [List.find?_append, found]; rfl, ?_⟩
        have held : k₀.symbols = mergedSymbols chunks k₀.id := congrArg Chunk.symbols shape
        rw [mergedSymbols_append_self same.symm, ← held]
        exact withSymbols_of_eq shape
      · simp only [beq_false_of_ne same, Bool.false_eq_true, if_false]
        exact earlier k₀ kept₀ same
    · next absent =>
      rcases List.mem_append.mp kept with old | new
      · have other : k.id ≠ c.id := fun same =>
          absent (List.any_eq_true.mpr ⟨k, old, by simp [same]⟩)
        exact earlier k old other
      · rcases List.mem_singleton.mp new with rfl
        have none : chunks.find? (·.id == k.id) = none := by
          rw [List.find?_eq_none]
          intro x mem same
          exact absent ((any_mergeById_iff chunks k.id).mpr ⟨x, mem, by simpa using same⟩)
        refine ⟨k, by simp [List.find?_append, none], ?_⟩
        have only : (chunks ++ [k]).filter (·.id == k.id) = [k] := by
          rw [List.filter_append, List.filter_eq_nil_iff.mpr fun x mem same =>
            absent ((any_mergeById_iff chunks k.id).mpr ⟨x, mem, by simpa using same⟩)]
          simp
        simp [mergedSymbols, only, eraseDups_of_nodup own]

/-! ### Ordering -/

/-- Chunk `a` lies strictly before chunk `b`: it starts on an earlier line, or on the same line and
ends on an earlier one, or lies over the same lines with a kind that sorts first. -/
def Precedes (a b : Chunk) : Prop :=
  a.startLine < b.startLine ∨ a.startLine = b.startLine ∧
    (a.endLine < b.endLine ∨ a.endLine = b.endLine ∧ a.kind.rank < b.kind.rank)

theorem ChunkKind.rank_inj {k₁ k₂ : ChunkKind} (same : k₁.rank = k₂.rank) : k₁ = k₂ := by
  cases k₁ <;> cases k₂ <;> first | rfl | cases same

theorem chunkLE_trans (a b c : Chunk) : chunkLE a b = true → chunkLE b c = true → chunkLE a c = true := by
  simp only [chunkLE, Bool.or_eq_true, Bool.and_eq_true, decide_eq_true_eq, beq_iff_eq]
  omega

theorem chunkLE_total (a b : Chunk) : (chunkLE a b || chunkLE b a) = true := by
  simp only [chunkLE, Bool.or_eq_true, Bool.and_eq_true, decide_eq_true_eq, beq_iff_eq]
  omega

theorem precedes_of_chunkLE {path : String} {a b : Chunk} (ofA : a.OfFile path) (ofB : b.OfFile path)
    (ordered : chunkLE a b = true) (apart : a.id ≠ b.id) : Precedes a b := by
  -- chunks over the same lines with kinds of one rank would share their id
  have distinct : ¬(a.startLine = b.startLine ∧ a.endLine = b.endLine ∧ a.kind.rank = b.kind.rank) := by
    rintro ⟨starts, stops, ranks⟩
    exact apart (by rw [ofA.id, ofB.id, starts, stops, ChunkKind.rank_inj ranks])
  simp only [chunkLE, Bool.or_eq_true, Bool.and_eq_true, decide_eq_true_eq, beq_iff_eq] at ordered
  unfold Precedes
  omega

theorem mergeAndOrder_ordered {path : String} {chunks : List Chunk}
    (ofFile : ∀ c ∈ chunks, c.OfFile path) : (mergeAndOrder chunks).Pairwise Precedes := by
  have merged : ∀ k ∈ mergeAndOrder chunks, k.OfFile path := fun k mem =>
    mergeById_keeps (OfFile path) (fun _ _ h => ⟨h.file, h.id⟩) chunks ofFile k
      (List.mem_mergeSort.mp mem)
  have sorted : (mergeAndOrder chunks).Pairwise (fun a b => chunkLE a b = true) :=
    List.pairwise_mergeSort chunkLE_trans chunkLE_total _
  have distinct : (mergeAndOrder chunks).Pairwise (fun a b => a.id ≠ b.id) :=
    List.pairwise_map.mp (((List.mergeSort_perm _ _).map _).nodup_iff.mpr (mergeById_ids_nodup _))
  exact (sorted.and distinct).imp_of_mem fun memA memB ⟨ordered, apart⟩ =>
    precedes_of_chunkLE (merged _ memA) (merged _ memB) ordered apart

end RepoSearch.Chunking
