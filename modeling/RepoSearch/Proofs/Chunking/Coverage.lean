import RepoSearch.Proofs.Chunking.Cut
import RepoSearch.Proofs.Chunking.Ids
import Mathlib.Data.List.Induction
/-! Which lines of a file its chunks cover. The lines no pattern chunk covers fall into maximal
runs; the gap filler finds every such run, and windows the runs that hold text. So every line
with text lies in some chunk, a line no pattern chunk covers lies in exactly one chunk when its
run holds text and in none otherwise, and a file the patterns find nothing in is cut into plain
consecutive windows. Merging by id and ordering change none of this. -/
namespace RepoSearch.Chunking

open RepoSearch.Text

/-! ### Maximal runs of uncovered lines -/

/-- A maximal run `a..b` of the lines `1..total` that `covered` leaves out. -/
structure UncoveredRun (covered : Nat → Bool) (total a b : Nat) : Prop where
  start_pos : 1 ≤ a
  ordered : a ≤ b
  inside : b ≤ total
  uncovered : ∀ n, a ≤ n → n ≤ b → covered n = false
  from_start : a = 1 ∨ covered (a - 1) = true
  to_end : b = total ∨ covered (b + 1) = true

namespace UncoveredRun

variable {covered : Nat → Bool} {total : Nat}

theorem start_le {a₁ b₁ a₂ b₂ n : Nat} (r₁ : UncoveredRun covered total a₁ b₁)
    (r₂ : UncoveredRun covered total a₂ b₂) (in₁ : a₁ ≤ n ∧ n ≤ b₁) (in₂ : a₂ ≤ n ∧ n ≤ b₂) :
    a₁ ≤ a₂ := by
  by_cases later : a₂ < a₁
  · have open_ := r₂.uncovered (a₁ - 1) (by omega) (by omega)
    rcases r₁.from_start with first | edge
    · have := r₂.start_pos
      omega
    · rw [open_] at edge
      cases edge
  · omega

theorem le_end {a₁ b₁ a₂ b₂ n : Nat} (r₁ : UncoveredRun covered total a₁ b₁)
    (r₂ : UncoveredRun covered total a₂ b₂) (in₁ : a₁ ≤ n ∧ n ≤ b₁) (in₂ : a₂ ≤ n ∧ n ≤ b₂) :
    b₂ ≤ b₁ := by
  by_cases beyond : b₁ < b₂
  · have open_ := r₂.uncovered (b₁ + 1) (by omega) (by omega)
    rcases r₁.to_end with last | edge
    · have := r₂.inside
      omega
    · rw [open_] at edge
      cases edge
  · omega

theorem eq_of_mem {a₁ b₁ a₂ b₂ n : Nat} (r₁ : UncoveredRun covered total a₁ b₁)
    (r₂ : UncoveredRun covered total a₂ b₂) (in₁ : a₁ ≤ n ∧ n ≤ b₁) (in₂ : a₂ ≤ n ∧ n ≤ b₂) :
    a₁ = a₂ ∧ b₁ = b₂ :=
  ⟨Nat.le_antisymm (r₁.start_le r₂ in₁ in₂) (r₂.start_le r₁ in₂ in₁),
    Nat.le_antisymm (r₂.le_end r₁ in₂ in₁) (r₁.le_end r₂ in₁ in₂)⟩

end UncoveredRun

/-- What the scan for uncovered runs knows on reaching `line`: an open run started at the first
line or after a covered one and is uncovered up to the line before; with no run open, the line
before is covered, or there is none. -/
def OpenRun (covered : Nat → Bool) (line : Nat) : Option Nat → Prop
  | none => line = 1 ∨ covered (line - 1) = true
  | some s => 1 ≤ s ∧ s < line ∧ (s = 1 ∨ covered (s - 1) = true) ∧
      ∀ k, s ≤ k → k < line → covered k = false

theorem OpenRun.extend {covered : Nat → Bool} {line : Nat} {runStart : Option Nat}
    (h : OpenRun covered line runStart) (positive : 1 ≤ line) (free : covered line = false) :
    OpenRun covered (line + 1) (runStart.orElse fun _ => some line) := by
  cases runStart with
  | none =>
    refine ⟨positive, by omega, h, fun k first last => ?_⟩
    rw [show k = line by omega]
    exact free
  | some s =>
    obtain ⟨start, before, edge, open_⟩ := h
    refine ⟨start, by omega, edge, fun k first last => ?_⟩
    by_cases old : k < line
    · exact open_ k first old
    · rw [show k = line by omega]
      exact free

variable {covered : Nat → Bool} {total : Nat}

theorem uncoveredRuns_start_ge :
    ∀ fuel line runStart, runStart.getD line ≤ line →
      ∀ p ∈ uncoveredRuns covered total fuel line runStart, runStart.getD line ≤ p.1 := by
  intro fuel
  induction fuel with
  | zero => intro line runStart _ p mem; cases mem
  | succ fuel ih =>
    intro line runStart early p mem
    simp only [uncoveredRuns] at mem
    split at mem
    · split at mem
      · rcases List.mem_singleton.mp mem with rfl
        simp
      · cases mem
    · split at mem
      · split at mem
        · rcases List.mem_cons.mp mem with rfl | later
          · simp
          · have := ih _ _ (by simp) p later
            simp only [Option.getD_some, Option.getD_none] at early this ⊢
            omega
        · have := ih _ _ (by simp) p mem
          simp only [Option.getD_none] at this ⊢
          omega
      · -- an uncovered line keeps the open run, or opens one at itself
        have same : (runStart.orElse fun _ => some line).getD (line + 1) = runStart.getD line := by
          cases runStart <;> rfl
        have := ih _ _ (by omega) p mem
        rwa [same] at this

theorem uncoveredRuns_pairwise :
    ∀ fuel line runStart, runStart.getD line ≤ line →
      (uncoveredRuns covered total fuel line runStart).Pairwise (fun p q => p.2 < q.1) := by
  intro fuel
  induction fuel with
  | zero => intro line runStart _; exact List.Pairwise.nil
  | succ fuel ih =>
    intro line runStart early
    simp only [uncoveredRuns]
    split
    · split
      · exact List.pairwise_singleton _ _
      · exact List.Pairwise.nil
    · split
      · split
        · -- the run closed here ends before the covered line, and the rest start after it
          refine List.Pairwise.cons (fun q later => ?_) (ih _ _ (by simp))
          have := uncoveredRuns_start_ge fuel (line + 1) none (by simp) q later
          simp only [Option.getD_none] at this
          omega
        · exact ih _ _ (by simp)
      · have same : (runStart.orElse fun _ => some line).getD (line + 1) = runStart.getD line := by
          cases runStart <;> rfl
        exact ih _ _ (by omega)

theorem uncoveredRuns_sound :
    ∀ fuel line runStart, 1 ≤ line → line ≤ total + 1 → OpenRun covered line runStart →
      ∀ p ∈ uncoveredRuns covered total fuel line runStart, UncoveredRun covered total p.1 p.2 := by
  intro fuel
  induction fuel with
  | zero => intro line runStart _ _ _ p mem; cases mem
  | succ fuel ih =>
    intro line runStart positive bounded state p mem
    simp only [uncoveredRuns] at mem
    split at mem
    · split at mem
      · next s _ =>
        rcases List.mem_singleton.mp mem with rfl
        obtain ⟨start, before, edge, open_⟩ := state
        exact ⟨start, by omega, Nat.le_refl _, fun k first _ => open_ k first (by omega), edge,
          .inl rfl⟩
      · cases mem
    · split at mem
      · next covers =>
        have closed : OpenRun covered (line + 1) none := .inr (by simpa using covers)
        split at mem
        · next s _ =>
          rcases List.mem_cons.mp mem with rfl | later
          · obtain ⟨start, before, edge, open_⟩ := state
            refine ⟨start, by omega, by omega, fun k first last => open_ k first (by omega), edge,
              .inr ?_⟩
            rwa [show line - 1 + 1 = line by omega]
          · exact ih _ _ (by omega) (by omega) closed p later
        · exact ih _ _ (by omega) (by omega) closed p mem
      · next free =>
        exact ih _ _ (by omega) (by omega) (state.extend positive (by simpa using free)) p mem

theorem uncoveredRuns_complete :
    ∀ fuel line runStart, line ≤ total + 1 → total + 2 ≤ fuel + line →
      ∀ n, runStart.getD line ≤ n → n ≤ total → covered n = false →
        ∃ p ∈ uncoveredRuns covered total fuel line runStart, p.1 ≤ n ∧ n ≤ p.2 := by
  intro fuel
  induction fuel with
  | zero => intro line runStart bounded enough; omega
  | succ fuel ih =>
    intro line runStart bounded enough n from_ upto free
    simp only [uncoveredRuns]
    split
    · next past =>
      cases runStart with
      | none => simp only [Option.getD_none] at from_; omega
      | some s => exact ⟨(s, total), List.mem_singleton_self _, from_, upto⟩
    · split
      · next covers =>
        have ahead : n ≠ line := fun same => by rw [← same, free] at covers; cases covers
        cases runStart with
        | none =>
          simp only [Option.getD_none] at from_
          exact ih _ _ (by omega) (by omega) n (by simp; omega) upto free
        | some s =>
          by_cases before : n < line
          · exact ⟨(s, line - 1), List.mem_cons_self, from_, by omega⟩
          · obtain ⟨p, mem, inside⟩ := ih (line + 1) none (by omega) (by omega) n (by simp; omega)
              upto free
            exact ⟨p, List.mem_cons_of_mem _ mem, inside⟩
      · have same : (runStart.orElse fun _ => some line).getD (line + 1) = runStart.getD line := by
          cases runStart <;> rfl
        exact ih _ _ (by omega) (by omega) n (by rw [same]; exact from_) upto free

theorem exists_uncoveredRun {n : Nat} (first : 1 ≤ n) (last : n ≤ total) (free : covered n = false) :
    ∃ a b, UncoveredRun covered total a b ∧ a ≤ n ∧ n ≤ b := by
  obtain ⟨p, mem, inside⟩ :=
    uncoveredRuns_complete (total + 2) 1 none (by omega) (by omega) n (by simpa using first) last free
  have start : OpenRun covered 1 none := .inl rfl
  exact ⟨p.1, p.2, uncoveredRuns_sound (total + 2) 1 none (Nat.le_refl 1) (by omega) start p mem,
    inside⟩

example : uncoveredRuns (fun n => n == 2 || n == 3) 6 8 1 none = [(1, 1), (4, 6)] := by decide

/-! ### The gap filler -/

/-- Whether some chunk of `found` covers line `n`. -/
def coveredBy (found : List Chunk) (n : Nat) : Bool := found.any (·.hasLine n)

variable {d : Document} {t : Tunables}

theorem fillGaps_eq {found : List Chunk} (within : ∀ c ∈ found, c.endLine ≤ d.lineCount) :
    fillGaps d t found =
      (uncoveredRuns (coveredBy found) d.lineCount (d.lineCount + 2) 1 none).flatMap fun p =>
        if d.hasContent p.1 p.2 then d.windows p.1 p.2 t.fallbackWindow else [] := by
  -- a pattern chunk ends within the document, so clipping its end to the last line does nothing
  have clipped : (fun line => found.any fun c => decide (c.startLine ≤ line) &&
      decide (line ≤ min c.endLine d.lineCount)) = coveredBy found := by
    funext line
    apply Bool.eq_iff_iff.mpr
    simp only [coveredBy, List.any_eq_true, Chunk.hasLine]
    constructor
    · rintro ⟨c, mem, holds⟩
      exact ⟨c, mem, by rwa [Nat.min_eq_left (within c mem)] at holds⟩
    · rintro ⟨c, mem, holds⟩
      exact ⟨c, mem, by rwa [Nat.min_eq_left (within c mem)]⟩
  simp only [fillGaps, clipped]

theorem countP_hasLine_gap {covered : Nat → Bool} {a b : Nat}
    (run : UncoveredRun covered d.lineCount a b) (window n : Nat) :
    (if d.hasContent a b then d.windows a b window else []).countP (·.hasLine n) =
      if d.hasContent a b = true ∧ a ≤ n ∧ n ≤ b then 1 else 0 := by
  split
  · next content =>
    rw [d.countP_hasLine_windows run.start_pos run.inside]
    simp only [content, true_and]
  · next blank =>
    rw [List.countP_nil, if_neg fun textual => blank textual.1]

theorem countP_hasLine_gaps_away {covered : Nat → Bool} {runs : List (Nat × Nat)} {n : Nat}
    (away : ∀ x ∈ runs, UncoveredRun covered d.lineCount x.1 x.2 ∧ (x.2 < n ∨ n < x.1))
    (window : Nat) :
    (runs.flatMap fun p => if d.hasContent p.1 p.2 then d.windows p.1 p.2 window else []).countP
      (·.hasLine n) = 0 := by
  rw [List.countP_eq_zero]
  intro c cut onLine
  obtain ⟨x, listed, windowed⟩ := List.mem_flatMap.mp cut
  obtain ⟨run, outside⟩ := away x listed
  have none := countP_hasLine_gap run window n
  have elsewhere : ¬(d.hasContent x.1 x.2 = true ∧ x.1 ≤ n ∧ n ≤ x.2) :=
    fun ⟨_, from_, upto⟩ => by omega
  rw [if_neg elsewhere] at none
  exact List.countP_eq_zero.mp none c windowed onLine

theorem countP_hasLine_fillGaps {found : List Chunk} (within : ∀ c ∈ found, c.endLine ≤ d.lineCount)
    {a b n : Nat} (run : UncoveredRun (coveredBy found) d.lineCount a b) (inRun : a ≤ n ∧ n ≤ b) :
    (fillGaps d t found).countP (·.hasLine n) = if d.hasContent a b then 1 else 0 := by
  rw [fillGaps_eq within]
  have start : OpenRun (coveredBy found) 1 none := .inl rfl
  have sound : ∀ p ∈ uncoveredRuns (coveredBy found) d.lineCount (d.lineCount + 2) 1 none,
      UncoveredRun (coveredBy found) d.lineCount p.1 p.2 :=
    uncoveredRuns_sound _ 1 none (Nat.le_refl 1) (by omega) start
  -- the scan reports the run around `n`, and the runs before and after it lie away from `n`
  have first := run.start_pos
  have last := run.inside
  obtain ⟨q, mem, inQ⟩ : ∃ q ∈ uncoveredRuns (coveredBy found) d.lineCount (d.lineCount + 2) 1 none,
      q.1 ≤ n ∧ n ≤ q.2 :=
    uncoveredRuns_complete _ 1 none (by omega) (by omega) n (by simp only [Option.getD_none]; omega)
      (by omega) (run.uncovered n inRun.1 inRun.2)
  obtain ⟨sameStart, sameEnd⟩ := (sound q mem).eq_of_mem run inQ inRun
  obtain ⟨before, after, split⟩ := List.append_of_mem mem
  have ordered : (uncoveredRuns (coveredBy found) d.lineCount (d.lineCount + 2) 1 none).Pairwise
      (fun p q => p.2 < q.1) :=
    uncoveredRuns_pairwise _ 1 none (by simp)
  rw [split, List.pairwise_append, List.pairwise_cons] at ordered
  have early : ∀ x ∈ before, UncoveredRun (coveredBy found) d.lineCount x.1 x.2 ∧ (x.2 < n ∨ n < x.1) := by
    intro x held
    have := ordered.2.2 x held q List.mem_cons_self
    exact ⟨sound x (by rw [split]; exact List.mem_append_left _ held), by omega⟩
  have late : ∀ x ∈ after, UncoveredRun (coveredBy found) d.lineCount x.1 x.2 ∧ (x.2 < n ∨ n < x.1) := by
    intro x held
    have := ordered.2.1.1 x held
    exact ⟨sound x (by rw [split]; exact List.mem_append_right _ (List.mem_cons_of_mem _ held)), by omega⟩
  rw [split, List.flatMap_append, List.flatMap_cons, List.countP_append, List.countP_append,
    countP_hasLine_gaps_away early, countP_hasLine_gaps_away late, countP_hasLine_gap (sound q mem),
    ← sameStart, ← sameEnd]
  simp only [inQ, and_true, Nat.zero_add, Nat.add_zero]

/-! ### Merging by id -/

theorem mem_mergeById {chunks : List Chunk} {k : Chunk} (kept : k ∈ mergeById chunks) :
    ∃ c ∈ chunks, k = { c with symbols := k.symbols } := by
  refine mergeById_keeps (fun k => ∃ c ∈ chunks, k = { c with symbols := k.symbols }) ?_ chunks
    (fun c mem => ⟨c, mem, rfl⟩) k kept
  rintro k symbols ⟨c, mem, same⟩
  exact ⟨c, mem, by rw [same]⟩

theorem mergeById_ids (chunks : List Chunk) : ∀ c ∈ chunks, ∃ k ∈ mergeById chunks, k.id = c.id := by
  induction chunks using List.reverseRecOn with
  | nil => intro c mem; cases mem
  | append_singleton chunks c ih =>
    intro x mem
    rw [mergeById, List.foldl_append, ← mergeById, List.foldl_cons, List.foldl_nil]
    split
    · next present =>
      obtain ⟨k, kept, same⟩ : ∃ k ∈ mergeById chunks, k.id = x.id := by
        rcases List.mem_append.mp mem with old | new
        · exact ih x old
        · rcases List.mem_singleton.mp new with rfl
          obtain ⟨k, kept, same⟩ := List.any_eq_true.mp present
          exact ⟨k, kept, by simpa using same⟩
      refine ⟨_, List.mem_map_of_mem kept, ?_⟩
      split
      · exact same
      · exact same
    · rcases List.mem_append.mp mem with old | new
      · obtain ⟨k, kept, same⟩ := ih x old
        exact ⟨k, List.mem_append_left _ kept, same⟩
      · exact ⟨x, List.mem_append_right _ new, rfl⟩

theorem mergeById_of_nodup (chunks : List Chunk) (distinct : (chunks.map (·.id)).Nodup) :
    mergeById chunks = chunks := by
  induction chunks using List.reverseRecOn with
  | nil => rfl
  | append_singleton chunks c ih =>
    rw [List.map_append, List.nodup_append] at distinct
    rw [mergeById, List.foldl_append, ← mergeById, ih distinct.1, List.foldl_cons, List.foldl_nil]
    have fresh : (chunks.any fun k => k.id == c.id) = false := by
      rw [List.any_eq_false]
      intro k mem same
      exact distinct.2.2 k.id (List.mem_map_of_mem mem) c.id (by simp) (by simpa using same)
    rw [fresh]
    rfl

open Chunk in
theorem lines_eq_of_id {path : String} {c₁ c₂ : Chunk} (h₁ : c₁.OfFile path) (h₂ : c₂.OfFile path)
    (same : c₁.id = c₂.id) : c₁.startLine = c₂.startLine ∧ c₁.endLine = c₂.endLine := by
  rw [h₁.id, h₂.id] at same
  obtain ⟨-, starts, stops, -⟩ := makeId_inj.mp same
  exact ⟨starts, stops⟩

section OneFile

variable {path : String} {chunks : List Chunk} (ofFile : ∀ c ∈ chunks, c.OfFile path)
include ofFile

theorem hasLine_mergeById {c : Chunk} (mem : c ∈ chunks) {n : Nat} (onLine : c.hasLine n = true) :
    ∃ k ∈ mergeById chunks, k.hasLine n = true := by
  obtain ⟨k, kept, same⟩ := mergeById_ids chunks c mem
  have keptOfFile : k.OfFile path :=
    mergeById_keeps (Chunk.OfFile path) (fun _ _ h => ⟨h.file, h.id⟩) chunks ofFile k kept
  obtain ⟨starts, stops⟩ := lines_eq_of_id keptOfFile (ofFile c mem) same
  refine ⟨k, kept, ?_⟩
  simpa only [Chunk.hasLine, starts, stops] using onLine

theorem countP_hasLine_mergeById (n : Nat) (atMostOne : chunks.countP (·.hasLine n) ≤ 1) :
    (mergeById chunks).countP (·.hasLine n) = chunks.countP (·.hasLine n) := by
  have back : ∀ k ∈ mergeById chunks, k.hasLine n = true →
      ∃ c ∈ chunks, c.hasLine n = true ∧ c.id = k.id := by
    intro k kept onLine
    obtain ⟨c, mem, same⟩ := mem_mergeById kept
    rw [same] at onLine ⊢
    exact ⟨c, mem, onLine, rfl⟩
  rcases Nat.lt_or_ge (chunks.countP (·.hasLine n)) 1 with none | one
  · have zero : chunks.countP (·.hasLine n) = 0 := by omega
    rw [zero, List.countP_eq_zero]
    intro k kept onLine
    obtain ⟨c, mem, onLine, -⟩ := back k kept onLine
    exact List.countP_eq_zero.mp zero c mem onLine
  · have single : chunks.countP (·.hasLine n) = 1 := by omega
    obtain ⟨w, only⟩ := List.length_eq_one_iff.mp (List.countP_eq_length_filter ▸ single)
    have onlyW : ∀ c ∈ chunks, c.hasLine n = true → c = w := by
      intro c mem onLine
      have listed : c ∈ chunks.filter (·.hasLine n) := List.mem_filter.mpr ⟨mem, onLine⟩
      rw [only] at listed
      exact List.mem_singleton.mp listed
    have wListed : w ∈ chunks ∧ w.hasLine n = true :=
      List.mem_filter.mp (only ▸ List.mem_singleton_self w)
    rw [single]
    apply Nat.le_antisymm
    · -- every merged chunk over `n` has the id of `w`, and merging keeps each id once
      calc (mergeById chunks).countP (·.hasLine n)
          ≤ (mergeById chunks).countP (fun k => k.id == w.id) := by
            apply List.countP_mono_left
            intro k kept onLine
            obtain ⟨c, mem, onLine, same⟩ := back k kept onLine
            rw [← same, onlyW c mem onLine]
            simp
        _ = ((mergeById chunks).map (·.id)).count w.id := by
            rw [List.count_eq_countP, List.countP_map]
            rfl
        _ ≤ 1 := List.nodup_iff_count_le_one.mp (mergeById_ids_nodup chunks) w.id
    · obtain ⟨k, kept, onLine⟩ := hasLine_mergeById ofFile wListed.1 wListed.2
      exact List.countP_pos_iff.mpr ⟨k, kept, onLine⟩

end OneFile

theorem Document.Cuts.ofFile {c : Chunk} (cut : d.Cuts c) : c.OfFile d.path := by
  obtain ⟨start, stop, kind, symbols, rfl⟩ := cut
  exact d.chunk_ofFile start stop kind symbols

theorem mergeAndOrder_windows (d : Document) {start stop : Nat} (first : 1 ≤ start)
    (last : stop ≤ d.lineCount) (window : Nat) :
    mergeAndOrder (d.windows start stop window) = d.windows start stop window := by
  obtain ⟨-, windowed⟩ := d.windows_plain first last window
  have ordered : (d.windows start stop window).Pairwise (fun x y => x.startLine < y.startLine) := by
    have spans := windowed.pairwise (by omega)
    rw [List.pairwise_map] at spans
    refine spans.imp_of_mem fun xListed _ before => ?_
    have := windowed.bounds (by omega) _ (List.mem_map_of_mem xListed)
    dsimp only at this before
    omega
  -- windows start on different lines, so their ids differ
  have distinct : ((d.windows start stop window).map (·.id)).Nodup := by
    rw [List.Nodup, List.pairwise_map]
    refine ordered.imp_of_mem fun xListed yListed before same => ?_
    have := (lines_eq_of_id (d.windows_cuts _ _ _ _ xListed).ofFile
      (d.windows_cuts _ _ _ _ yListed).ofFile same).1
    omega
  unfold mergeAndOrder
  rw [mergeById_of_nodup _ distinct]
  exact List.mergeSort_of_pairwise (ordered.imp fun before => by simp [chunkLE, before])

/-! ### The chunks of a file -/

/-- The chunks of a document before merging: windows over the whole document when the patterns
of the family find nothing, and otherwise the pattern chunks and the windows over their gaps. -/
def cutChunks (t : Tunables) (family : LanguageFamily) (d : Document) : List Chunk :=
  let found := patternChunks family d t
  if found.isEmpty then d.windows 1 d.lineCount t.fallbackWindow else found ++ fillGaps d t found

theorem chunkFile_eq_mergeAndOrder {path text : String} {language : Language}
    (notBlank : isBlankText text = false) :
    chunkFile t path language text =
      mergeAndOrder (cutChunks t language.family (Document.ofText path language.name text)) := by
  simp [chunkFile, cutChunks, notBlank]

variable (family : LanguageFamily)

theorem cutChunks_cuts : ∀ c ∈ cutChunks t family d, d.Cuts c := by
  intro c mem
  simp only [cutChunks] at mem
  split at mem
  · exact d.windows_cuts _ _ _ c mem
  · rcases List.mem_append.mp mem with found | gap
    · exact patternChunks_cuts family c found
    · exact fillGaps_cuts _ c gap

theorem countP_hasLine_cutChunks (text : d.HasText) {a b n : Nat}
    (run : UncoveredRun (coveredBy (patternChunks family d t)) d.lineCount a b) (inRun : a ≤ n ∧ n ≤ b) :
    (cutChunks t family d).countP (·.hasLine n) = if d.hasContent a b then 1 else 0 := by
  have lined := text.lineCount_pos
  simp only [cutChunks]
  split
  · next nothing =>
    -- with no pattern chunk the one run is the whole document, and it holds text
    rw [List.isEmpty_iff.mp nothing] at run
    have starts : a = 1 := by
      rcases run.from_start with first | edge
      · exact first
      · cases edge
    have stops : b = d.lineCount := by
      rcases run.to_end with last | edge
      · exact last
      · cases edge
    subst starts stops
    rw [d.countP_hasLine_windows (Nat.le_refl 1) (Nat.le_refl _), if_pos inRun,
      if_pos ((d.hasContent_iff 1 d.lineCount).mpr text)]
  · have within : ∀ c ∈ patternChunks family d t, c.endLine ≤ d.lineCount :=
      fun c mem => ((patternChunks_cuts family c mem).within lined).end_le
    have missed : ∀ c ∈ patternChunks family d t, ¬c.hasLine n = true :=
      List.any_eq_false.mp (run.uncovered n inRun.1 inRun.2)
    rw [List.countP_append, List.countP_eq_zero.mpr missed, Nat.zero_add,
      countP_hasLine_fillGaps within run inRun]

theorem hasLine_cutChunks (text : d.HasText) {n : Nat} (first : 1 ≤ n) (last : n ≤ d.lineCount)
    (textual : isBlankText (d.line n) = false) : ∃ c ∈ cutChunks t family d, c.hasLine n = true := by
  cases covers : coveredBy (patternChunks family d t) n with
  | true =>
    obtain ⟨c, mem, onLine⟩ := List.any_eq_true.mp covers
    have found : (patternChunks family d t).isEmpty = false := List.isEmpty_eq_false_iff_exists_mem.mpr ⟨c, mem⟩
    refine ⟨c, ?_, onLine⟩
    simp only [cutChunks, found]
    exact List.mem_append_left _ mem
  | false =>
    obtain ⟨a, b, run, inRun⟩ := exists_uncoveredRun first last covers
    have content : d.hasContent a b = true := (d.hasContent_iff a b).mpr ⟨n, inRun.1, inRun.2, textual⟩
    have one := countP_hasLine_cutChunks family text run inRun
    rw [if_pos content] at one
    exact List.countP_pos_iff.mp (by omega)

/-! ### After merging and ordering -/

section Merged

variable (t) {family}

theorem within_mergeAndOrder_cutChunks (text : d.HasText) :
    ∀ c ∈ mergeAndOrder (cutChunks t family d), c.Within d := by
  intro c mem
  refine mergeById_keeps (Chunk.Within d) (fun _ _ h => ⟨h.1, h.2, h.3, h.4, h.5⟩) _ ?_ c
    ((List.mergeSort_perm _ _).mem_iff.mp mem)
  exact fun c cut => (cutChunks_cuts family c cut).within text.lineCount_pos

theorem hasLine_mergeAndOrder_cutChunks (text : d.HasText) {n : Nat} (first : 1 ≤ n)
    (last : n ≤ d.lineCount) (textual : isBlankText (d.line n) = false) :
    ∃ c ∈ mergeAndOrder (cutChunks t family d), c.hasLine n = true := by
  obtain ⟨c, mem, onLine⟩ := hasLine_cutChunks family text first last textual
  obtain ⟨k, kept, onLine⟩ :=
    hasLine_mergeById (fun c cut => (cutChunks_cuts family c cut).ofFile) mem onLine
  exact ⟨k, (List.mergeSort_perm _ _).mem_iff.mpr kept, onLine⟩

theorem countP_hasLine_mergeAndOrder_cutChunks (text : d.HasText) {a b n : Nat}
    (run : UncoveredRun (coveredBy (patternChunks family d t)) d.lineCount a b) (inRun : a ≤ n ∧ n ≤ b) :
    (mergeAndOrder (cutChunks t family d)).countP (·.hasLine n) = if d.hasContent a b then 1 else 0 := by
  have before := countP_hasLine_cutChunks family text run inRun
  unfold mergeAndOrder
  rw [(List.mergeSort_perm _ _).countP_eq,
    countP_hasLine_mergeById (fun c cut => (cutChunks_cuts family c cut).ofFile) n
      (by rw [before]; split <;> omega),
    before]

theorem mergeAndOrder_cutChunks_of_nil (nothing : patternChunks family d t = []) :
    mergeAndOrder (cutChunks t family d) = d.windows 1 d.lineCount t.fallbackWindow := by
  simp only [cutChunks, nothing, List.isEmpty_nil, if_true]
  exact mergeAndOrder_windows d (Nat.le_refl 1) (Nat.le_refl _) _

end Merged

/-- What the chunks of a document with text are, against the pattern chunks of its language's
family: each lies within the document; every line with text lies in one; a line no pattern
chunk covers lies in a maximal run of such lines, and in exactly one chunk when that run holds
text and in none when it is blank; and for the generic family, or when the patterns find
nothing, the chunks are blocks without symbols over consecutive windows of the fallback size
(at least one line) that cut the whole document. -/
structure Chunked (t : Tunables) (family : LanguageFamily) (d : Document) (chunks : List Chunk) :
    Prop where
  within : ∀ c ∈ chunks, c.Within d
  text_covered : ∀ n, 1 ≤ n → n ≤ d.lineCount → isBlankText (d.line n) = false →
    ∃ c ∈ chunks, c.hasLine n = true
  in_run : ∀ n, 1 ≤ n → n ≤ d.lineCount → coveredBy (patternChunks family d t) n = false →
    ∃ a b, UncoveredRun (coveredBy (patternChunks family d t)) d.lineCount a b ∧ a ≤ n ∧ n ≤ b
  gap_once : ∀ a b n, UncoveredRun (coveredBy (patternChunks family d t)) d.lineCount a b →
    a ≤ n → n ≤ b → (∃ m, a ≤ m ∧ m ≤ b ∧ isBlankText (d.line m) = false) →
    chunks.countP (·.hasLine n) = 1
  gap_blank : ∀ a b n, UncoveredRun (coveredBy (patternChunks family d t)) d.lineCount a b →
    a ≤ n → n ≤ b → (∀ m, a ≤ m → m ≤ b → isBlankText (d.line m) = true) →
    ∀ c ∈ chunks, c.hasLine n = false
  windows : family = .generic ∨ patternChunks family d t = [] →
    (∀ c ∈ chunks, c.kind = .block ∧ c.symbols = []) ∧
      Windowed (max t.fallbackWindow 1) 1 d.lineCount (chunks.map fun c => (c.startLine, c.endLine))

/-- A file has no chunks exactly when its text is blank; otherwise its chunks lie within its
lines, hold every line with text, give each line that no pattern chunk covers one chunk or none
as its uncovered run holds text or not, and are plain consecutive windows when the patterns find
nothing. -/
theorem chunkFile_covers_lines (t : Tunables) (path : String) (language : Language) (text : String) :
    (chunkFile t path language text = [] ↔ isBlankText text = true) ∧
      (isBlankText text = false →
        Chunked t language.family (Document.ofText path language.name text)
          (chunkFile t path language text)) := by
  have chunked : isBlankText text = false →
      Chunked t language.family (Document.ofText path language.name text)
        (chunkFile t path language text) := by
    intro notBlank
    have textual : (Document.ofText path language.name text).HasText :=
      Document.hasText_ofText notBlank
    rw [chunkFile_eq_mergeAndOrder notBlank]
    refine ⟨within_mergeAndOrder_cutChunks t textual,
      fun n first last line => hasLine_mergeAndOrder_cutChunks t textual first last line,
      fun n first last free => exists_uncoveredRun first last free, ?_, ?_, ?_⟩
    · intro a b n run from_ upto content
      rw [countP_hasLine_mergeAndOrder_cutChunks t textual run ⟨from_, upto⟩,
        if_pos ((Document.hasContent_iff _ a b).mpr content)]
    · intro a b n run from_ upto blank c mem
      -- a blank run holds no line with text, so no chunk lies over `n`
      have empty : ¬(Document.ofText path language.name text).hasContent a b = true := by
        rw [Document.hasContent_iff]
        rintro ⟨m, first, last, textual⟩
        rw [blank m first last] at textual
        cases textual
      have none := countP_hasLine_mergeAndOrder_cutChunks t textual run ⟨from_, upto⟩
      rw [if_neg empty] at none
      exact Bool.eq_false_iff.mpr (List.countP_eq_zero.mp none c mem)
    · intro nothing
      have none : patternChunks language.family (Document.ofText path language.name text) t = [] := by
        rcases nothing with generic | none
        · rw [generic]
          rfl
        · exact none
      rw [mergeAndOrder_cutChunks_of_nil t none]
      exact Document.windows_plain _ (Nat.le_refl 1) (Nat.le_refl _) _
  refine ⟨⟨fun empty => ?_, fun blank => by simp [chunkFile, blank]⟩, chunked⟩
  cases blank : isBlankText text with
  | true => rfl
  | false =>
    obtain ⟨n, first, last, line⟩ : (Document.ofText path language.name text).HasText :=
      Document.hasText_ofText blank
    obtain ⟨c, mem, -⟩ := (chunked blank).text_covered n first last line
    rw [empty] at mem
    cases mem

/-- A script whose comment line no declaration covers, with carriage returns before its line
feeds. -/
theorem commented_script_chunked :
    isBlankText "// greet\r\nfunction greet() {}\r\n" = false ∧
      Chunked {} .procedural (Document.ofText "greet.js" "javascript" "// greet\r\nfunction greet() {}\r\n")
        (chunkFile {} "greet.js" ⟨"javascript", .procedural, ["js"]⟩
          "// greet\r\nfunction greet() {}\r\n") :=
  ⟨by decide, (chunkFile_covers_lines {} "greet.js" ⟨"javascript", .procedural, ["js"]⟩
    "// greet\r\nfunction greet() {}\r\n").2 (by decide)⟩

end RepoSearch.Chunking
