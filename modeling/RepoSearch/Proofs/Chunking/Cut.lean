import RepoSearch.Chunking.Chunker
import RepoSearch.Proofs.Text.Split
/-! What cutting a document gives. A document's lines are the pieces of its text between line
feeds, so the text is blank exactly when every line is. A chunk cut from a document lies within
its lines and holds them joined by line feeds, with their term counts, and every chunk the
patterns find is cut so. The windows over a range of lines follow each other without a gap or an
overlap, each but the last with the window's number of lines. -/
namespace RepoSearch

open RepoSearch.Text

namespace Chunking

/-! ### Lines and text -/

theorem mem_dropCarriageReturns_iff {piece : List Char} {y : Char} (other : y ≠ '\r') :
    y ∈ (dropCarriageReturns (String.ofList piece)).toList ↔ y ∈ piece := by
  simp only [dropCarriageReturns, String.toList_ofList, List.mem_reverse]
  constructor
  · intro mem
    exact List.mem_reverse.mp ((List.dropWhile_sublist _).subset mem)
  · intro mem
    have whole := List.takeWhile_append_dropWhile (p := (· == '\r')) (l := piece.reverse)
    rw [← List.mem_reverse, ← whole] at mem
    rcases List.mem_append.mp mem with taken | kept
    · simpa [other] using List.all_eq_true.mp List.all_takeWhile y taken
    · exact kept

namespace Document

theorem lines_ofText (path language text : String) :
    (ofText path language text).lines.toList =
      if text.toList.getLast? == some '\n' then
        ((text.toList.splitOn '\n').map fun piece => dropCarriageReturns (String.ofList piece)).dropLast
      else (text.toList.splitOn '\n').map fun piece => dropCarriageReturns (String.ofList piece) := by
  simp [ofText]

theorem mem_lines_ofText_iff {path language text : String} {y : Char} (notFeed : y ≠ '\n')
    (notReturn : y ≠ '\r') :
    y ∈ text.toList ↔ ∃ line ∈ (ofText path language text).lines.toList, y ∈ line.toList := by
  have pieces : y ∈ text.toList ↔
      ∃ line ∈ (text.toList.splitOn '\n').map fun piece => dropCarriageReturns (String.ofList piece),
        y ∈ line.toList := by
    rw [mem_splitOn_iff notFeed]
    constructor
    · rintro ⟨piece, listed, held⟩
      exact ⟨_, List.mem_map_of_mem listed, (mem_dropCarriageReturns_iff notReturn).mpr held⟩
    · rintro ⟨line, listed, held⟩
      obtain ⟨piece, split, rfl⟩ := List.mem_map.mp listed
      exact ⟨piece, split, (mem_dropCarriageReturns_iff notReturn).mp held⟩
  rw [lines_ofText]
  split
  · next ends =>
    -- a final line feed leaves an empty last piece, which is not a line
    obtain ⟨front, whole⟩ := List.getLast?_eq_some_iff.mp (by simpa using ends)
    have split : text.toList.splitOn '\n' = front.splitOn '\n' ++ [[]] := by
      rw [whole, List.splitOn_append_cons_self, List.splitOn_nil]
    rw [pieces, split, List.map_append, List.map_singleton, List.dropLast_concat]
    constructor
    · rintro ⟨line, listed, held⟩
      rcases List.mem_append.mp listed with old | last
      · exact ⟨line, old, held⟩
      · rw [List.mem_singleton.mp last] at held
        simp [dropCarriageReturns] at held
    · rintro ⟨line, listed, held⟩
      exact ⟨line, List.mem_append_left _ listed, held⟩
  · exact pieces

theorem isBlankText_ofText_iff (path language text : String) :
    isBlankText text = true ↔ ∀ line ∈ (ofText path language text).lines.toList, isBlankText line = true := by
  have feed : isBlank '\n' = true := by decide
  have carriage : isBlank '\r' = true := by decide
  simp only [isBlankText, List.all_eq_true]
  constructor
  · intro blank line listed y held
    by_cases breaks : y = '\n' ∨ y = '\r'
    · rcases breaks with rfl | rfl
      · exact feed
      · exact carriage
    · simp only [not_or] at breaks
      exact blank y ((mem_lines_ofText_iff breaks.1 breaks.2).mpr ⟨line, listed, held⟩)
  · intro blank y held
    by_cases breaks : y = '\n' ∨ y = '\r'
    · rcases breaks with rfl | rfl
      · exact feed
      · exact carriage
    · simp only [not_or] at breaks
      obtain ⟨line, listed, mem⟩ := (mem_lines_ofText_iff breaks.1 breaks.2).mp held
      exact blank line listed y mem

end Document

end Chunking

/-! ### Chunks within a document -/

namespace Chunk

open Chunking Lexicon

/-- A chunk of a document: a nonempty range of its lines, holding them joined by line feeds,
with the term counts of that text. -/
structure Within (d : Document) (c : Chunk) : Prop where
  start_pos : 1 ≤ c.startLine
  start_le_end : c.startLine ≤ c.endLine
  end_le : c.endLine ≤ d.lineCount
  content : c.content = "\n".intercalate ((List.range' c.startLine (c.endLine + 1 - c.startLine)).map d.line)
  termFreqs : c.termFreqs = termFrequencies c.content

/-- Whether line `n` lies in the chunk. -/
def hasLine (c : Chunk) (n : Nat) : Bool := c.startLine ≤ n && n ≤ c.endLine

end Chunk

namespace Chunking

namespace Document

theorem take_drop_lines (d : Document) {a b : Nat} (first : 1 ≤ a) (last : b ≤ d.lineCount) :
    (d.lines.toList.drop (a - 1)).take (b + 1 - a) = (List.range' a (b + 1 - a)).map d.line := by
  apply List.ext_getElem
  · simp only [lineCount] at last
    simp only [List.length_take, List.length_drop, Array.length_toList, List.length_map,
      List.length_range']
    omega
  · intro i inFront _
    have shift : a + 1 * i = (a - 1 + i) + 1 := by omega
    simp only [List.getElem_take, List.getElem_drop, List.getElem_map, List.getElem_range', shift,
      line, Array.getElem_toList]
    simp only [List.length_take, List.length_drop, Array.length_toList] at inFront
    rw [Array.getElem?_eq_getElem (by omega), Option.getD_some]

theorem chunk_within (d : Document) (lined : 1 ≤ d.lineCount) (start stop : Nat) (kind : ChunkKind)
    (symbols : List Symbol) : (d.chunk start stop kind symbols).Within d := by
  have last : max d.lineCount 1 = d.lineCount := by omega
  simp only [chunk, Chunk.build, last]
  refine ⟨?_, ?_, ?_, ?_, rfl⟩ <;> dsimp only
  · omega
  · omega
  · omega
  · rw [take_drop_lines d (by omega) (by omega)]

theorem chunk_lines (d : Document) {start stop : Nat} (first : 1 ≤ start) (ordered : start ≤ stop)
    (last : stop ≤ d.lineCount) (kind : ChunkKind) (symbols : List Symbol) :
    (d.chunk start stop kind symbols).startLine = start ∧
      (d.chunk start stop kind symbols).endLine = stop := by
  simp only [chunk, Chunk.build]
  omega

/-- Some line of the document holds a character that is not blank. -/
def HasText (d : Document) : Prop :=
  ∃ n, 1 ≤ n ∧ n ≤ d.lineCount ∧ isBlankText (d.line n) = false

theorem HasText.lineCount_pos {d : Document} (h : d.HasText) : 1 ≤ d.lineCount := by
  obtain ⟨n, first, last, -⟩ := h
  omega

theorem hasText_ofText {path language text : String} (notBlank : isBlankText text = false) :
    (ofText path language text).HasText := by
  have someLine : ∃ line ∈ (ofText path language text).lines.toList, isBlankText line = false := by
    apply Classical.byContradiction
    intro none
    have all : ∀ line ∈ (ofText path language text).lines.toList, isBlankText line = true := by
      intro line mem
      cases blank : isBlankText line
      · exact absurd ⟨line, mem, blank⟩ none
      · rfl
    rw [← isBlankText_ofText_iff] at all
    rw [all] at notBlank
    cases notBlank
  obtain ⟨line, mem, textual⟩ := someLine
  obtain ⟨i, bound, rfl⟩ := List.getElem_of_mem mem
  simp only [Array.length_toList] at bound
  refine ⟨i + 1, by omega, bound, ?_⟩
  simp only [Document.line, Array.getElem?_eq_getElem bound, Option.getD_some]
  simpa using textual

theorem hasContent_iff (d : Document) (a b : Nat) :
    d.hasContent a b = true ↔ ∃ m, a ≤ m ∧ m ≤ b ∧ isBlankText (d.line m) = false := by
  simp only [hasContent, List.any_eq_true, List.mem_range, Bool.not_eq_eq_eq_not, Bool.not_true]
  constructor
  · rintro ⟨i, inRange, textual⟩
    exact ⟨a + i, by omega, by omega, textual⟩
  · rintro ⟨m, first, last, textual⟩
    refine ⟨m - a, by omega, ?_⟩
    rwa [show a + (m - a) = m by omega]

/-- A chunk cut from the document: the one over some range of its lines, of some kind and with
some symbols. -/
def Cuts (d : Document) (c : Chunk) : Prop :=
  ∃ start stop kind symbols, c = d.chunk start stop kind symbols

theorem cuts_chunk (d : Document) (start stop : Nat) (kind : ChunkKind) (symbols : List Symbol) :
    d.Cuts (d.chunk start stop kind symbols) :=
  ⟨start, stop, kind, symbols, rfl⟩

theorem Cuts.within {d : Document} {c : Chunk} (cut : d.Cuts c) (lined : 1 ≤ d.lineCount) :
    c.Within d := by
  obtain ⟨start, stop, kind, symbols, rfl⟩ := cut
  exact d.chunk_within lined start stop kind symbols

end Document

/-! ### Windows -/

/-- Spans `(first, last)` that cut lines `a..b` into consecutive windows of `w` lines, the last
possibly shorter; none for an empty range. -/
inductive Windowed (w : Nat) : Nat → Nat → List (Nat × Nat) → Prop
  | empty {a b : Nat} : b < a → Windowed w a b []
  | last {a b : Nat} : a ≤ b → b < a + w → Windowed w a b [(a, b)]
  | next {a b : Nat} {rest : List (Nat × Nat)} : a + w ≤ b → Windowed w (a + w) b rest →
      Windowed w a b ((a, a + w - 1) :: rest)

namespace Windowed

variable {w a b : Nat} {spans : List (Nat × Nat)}

theorem bounds (positive : 0 < w) (h : Windowed w a b spans) :
    ∀ p ∈ spans, a ≤ p.1 ∧ p.1 ≤ p.2 ∧ p.2 ≤ b := by
  induction h with
  | empty => intro p mem; cases mem
  | last ordered => intro p mem; rcases List.mem_singleton.mp mem with rfl; omega
  | next room _ ih =>
    intro p mem
    rcases List.mem_cons.mp mem with rfl | later
    · omega
    · have := ih p later
      omega

theorem pairwise (positive : 0 < w) (h : Windowed w a b spans) :
    spans.Pairwise (fun p q => p.2 < q.1) := by
  induction h with
  | empty => exact List.Pairwise.nil
  | last => exact List.pairwise_singleton _ _
  | next room rest ih =>
    refine List.Pairwise.cons (fun q later => ?_) ih
    have := bounds positive rest q later
    omega

theorem countP_mem (positive : 0 < w) (h : Windowed w a b spans) (n : Nat) :
    spans.countP (fun p => p.1 ≤ n && n ≤ p.2) = if a ≤ n ∧ n ≤ b then 1 else 0 := by
  induction h with
  | empty outside => simp only [List.countP_nil]; split <;> omega
  | last ordered short => simp only [List.countP_singleton, Bool.and_eq_true, decide_eq_true_eq]
  | next room rest ih =>
    -- the first window and the rest split the range at its `w`-th line
    rw [List.countP_cons, ih]
    simp only [Bool.and_eq_true, decide_eq_true_eq]
    split <;> split <;> split <;> omega

theorem eq_nil_iff (h : Windowed w a b spans) : spans = [] ↔ b < a := by
  cases h with
  | empty outside => exact iff_of_true rfl outside
  | last ordered => exact iff_of_false (List.cons_ne_nil _ _) (by omega)
  | next room => exact iff_of_false (List.cons_ne_nil _ _) (by omega)

end Windowed

namespace Document

theorem windowsFrom_windowed (d : Document) {stop w : Nat} (positive : 0 < w) :
    ∀ fuel line, stop + 1 ≤ fuel + line → ∃ spans, Windowed w line stop spans ∧
      d.windowsFrom stop w fuel line = spans.map fun p => d.chunk p.1 p.2 .block [] := by
  intro fuel
  induction fuel with
  | zero => intro line enough; exact ⟨[], .empty (by omega), by simp [windowsFrom]⟩
  | succ fuel ih =>
    intro line enough
    simp only [windowsFrom]
    by_cases early : line ≤ stop
    · rw [if_pos early]
      by_cases short : stop < line + w
      · have final : min (line + w - 1) stop = stop := by omega
        have rest : d.windowsFrom stop w fuel (stop + 1) = [] := by
          cases fuel <;> simp [windowsFrom]
        refine ⟨[(line, stop)], .last early short, ?_⟩
        rw [final, rest]
        rfl
      · have full : min (line + w - 1) stop = line + w - 1 := by omega
        have next : line + w - 1 + 1 = line + w := by omega
        obtain ⟨spans, windowed, eq⟩ := ih (line + w) (by omega)
        refine ⟨(line, line + w - 1) :: spans, .next (by omega) windowed, ?_⟩
        rw [full, next, eq]
        rfl
    · rw [if_neg early]
      exact ⟨[], .empty (by omega), rfl⟩

theorem windows_windowed (d : Document) (start stop window : Nat) :
    ∃ spans, Windowed (max window 1) (max start 1) (min stop d.lineCount) spans ∧
      d.windows start stop window = spans.map fun p => d.chunk p.1 p.2 .block [] :=
  d.windowsFrom_windowed (by omega) _ _ (by omega)

theorem windows_blocks (d : Document) (start stop window : Nat) :
    ∀ c ∈ d.windows start stop window, c.kind = .block ∧ c.symbols = [] := by
  intro c mem
  obtain ⟨spans, -, eq⟩ := d.windows_windowed start stop window
  rw [eq] at mem
  obtain ⟨p, -, rfl⟩ := List.mem_map.mp mem
  exact ⟨rfl, rfl⟩

theorem windows_spans (d : Document) (start stop window : Nat) :
    Windowed (max window 1) (max start 1) (min stop d.lineCount)
      ((d.windows start stop window).map fun c => (c.startLine, c.endLine)) := by
  obtain ⟨spans, windowed, eq⟩ := d.windows_windowed start stop window
  have back : ∀ p ∈ spans,
      ((fun c : Chunk => (c.startLine, c.endLine)) ∘ fun p => d.chunk p.1 p.2 .block []) p = id p := by
    intro p mem
    have inside := windowed.bounds (by omega) p mem
    obtain ⟨starts, stops⟩ := d.chunk_lines (by omega) inside.2.1 (by omega) .block []
    simp [starts, stops]
  rw [eq, List.map_map, List.map_congr_left back, List.map_id]
  exact windowed

/-- Over a range of the document's lines, the windows are block chunks without symbols, over
consecutive spans of the window's lines (at least one) that cut the range. -/
theorem windows_plain (d : Document) {start stop : Nat} (first : 1 ≤ start) (last : stop ≤ d.lineCount)
    (window : Nat) :
    (∀ c ∈ d.windows start stop window, c.kind = .block ∧ c.symbols = []) ∧
      Windowed (max window 1) start stop
        ((d.windows start stop window).map fun c => (c.startLine, c.endLine)) := by
  have windowed := d.windows_spans start stop window
  rw [show max start 1 = start by omega, show min stop d.lineCount = stop by omega] at windowed
  exact ⟨d.windows_blocks start stop window, windowed⟩

theorem windows_cuts (d : Document) (start stop window : Nat) :
    ∀ c ∈ d.windows start stop window, d.Cuts c := by
  intro c mem
  obtain ⟨spans, -, eq⟩ := d.windows_windowed start stop window
  rw [eq] at mem
  obtain ⟨p, -, rfl⟩ := List.mem_map.mp mem
  exact d.cuts_chunk _ _ _ _

theorem countP_hasLine_windows_clipped (d : Document) (start stop window n : Nat) :
    (d.windows start stop window).countP (·.hasLine n) =
      if max start 1 ≤ n ∧ n ≤ min stop d.lineCount then 1 else 0 := by
  rw [← (d.windows_spans start stop window).countP_mem (by omega) n, List.countP_map]
  rfl

/-- Over a range of the document's lines, the windows give every line of the range one chunk
and the lines outside it none. -/
theorem countP_hasLine_windows (d : Document) {start stop : Nat} (first : 1 ≤ start)
    (last : stop ≤ d.lineCount) (window n : Nat) :
    (d.windows start stop window).countP (·.hasLine n) = if start ≤ n ∧ n ≤ stop then 1 else 0 := by
  rw [countP_hasLine_windows_clipped, show max start 1 = start by omega,
    show min stop d.lineCount = stop by omega]

/-- The windows over lines `start..stop` with `window` lines each are block chunks without
symbols. Their spans cut the range clipped to the document, `max start 1..min stop lineCount`:
the first starts where it does, each next one the line after the one before ends, the last ends
where the range does, and each but the last has `max window 1` lines, the last no more. Every
line of that range lies in exactly one window and no other line in any, and there are none
exactly when the range is empty. -/
theorem windows_partition_range (d : Document) (start stop window : Nat) :
    (∀ c ∈ d.windows start stop window, c.kind = .block ∧ c.symbols = []) ∧
      Windowed (max window 1) (max start 1) (min stop d.lineCount)
        ((d.windows start stop window).map fun c => (c.startLine, c.endLine)) ∧
      (∀ n, (d.windows start stop window).countP (·.hasLine n) =
        if max start 1 ≤ n ∧ n ≤ min stop d.lineCount then 1 else 0) ∧
      (d.windows start stop window = [] ↔ min stop d.lineCount < max start 1) := by
  have windowed := d.windows_spans start stop window
  refine ⟨d.windows_blocks start stop window, windowed, d.countP_hasLine_windows_clipped start stop window, ?_⟩
  rw [← windowed.eq_nil_iff, List.map_eq_nil_iff]

/-- Lines 2 to 7 of a seven-line file in windows of three lines: lines 2 to 4, then 5 to 7. -/
theorem seven_lines_windowed :
    ((ofText "a.txt" "text" "1\n2\n3\n4\n5\n6\n7\n").windows 2 7 3).map
        (fun c => (c.startLine, c.endLine)) = [(2, 4), (5, 7)] ∧
      Windowed 3 2 7 [(2, 4), (5, 7)] := by
  have spans : ((ofText "a.txt" "text" "1\n2\n3\n4\n5\n6\n7\n").windows 2 7 3).map
      (fun c => (c.startLine, c.endLine)) = [(2, 4), (5, 7)] := by decide
  have lines : (ofText "a.txt" "text" "1\n2\n3\n4\n5\n6\n7\n").lineCount = 7 := by decide
  have windowed := (windows_partition_range (ofText "a.txt" "text" "1\n2\n3\n4\n5\n6\n7\n") 2 7 3).2.1
  rw [spans, lines] at windowed
  exact ⟨spans, windowed⟩

end Document

/-! ### Every strategy cuts its chunks from the document -/

open Document

variable {d : Document} {t : Tunables}

theorem markupChunks_cuts : ∀ c ∈ markupChunks d t, d.Cuts c := by
  intro c mem
  obtain ⟨p, -, found⟩ := List.mem_flatMap.mp mem
  obtain ⟨m, -, made⟩ := List.mem_filterMap.mp found
  obtain ⟨tag, -, made⟩ := Option.bind_eq_some_iff.mp made
  obtain ⟨inner, -, made⟩ := Option.bind_eq_some_iff.mp made
  cases made
  exact d.cuts_chunk _ _ _ _

theorem Markdown.sections_cuts (total : Nat) :
    ∀ hs, ∀ c ∈ Markdown.sections d t total hs, d.Cuts c := by
  intro hs
  induction hs with
  | nil => intro c mem; cases mem
  | cons h rest ih =>
    intro c mem
    rcases List.mem_cons.mp mem with rfl | later
    · exact d.cuts_chunk _ _ _ _
    · exact ih c later

theorem markdownChunks_cuts : ∀ c ∈ markdownChunks d t, d.Cuts c := by
  intro c mem
  simp only [markdownChunks] at mem
  split at mem
  · cases mem
  · rcases List.mem_append.mp mem with lead | later
    · split at lead
      · rcases List.mem_singleton.mp lead with rfl
        exact d.cuts_chunk _ _ _ _
      · cases lead
    · exact Markdown.sections_cuts _ _ c later

namespace Script

/-- Every chunk a script scan has collected, finished or a comment, is cut from the document. -/
def Scan.Cut (d : Document) (s : Scan) : Prop :=
  (∀ c ∈ s.chunks, d.Cuts c) ∧ ∀ c ∈ s.comments, d.Cuts c

theorem Scan.Cut.add_chunk {s : Scan} (h : s.Cut d) {c : Chunk} (cut : d.Cuts c) :
    ({ s with chunks := s.chunks ++ [c] } : Scan).Cut d := by
  refine ⟨fun k mem => ?_, h.2⟩
  rcases List.mem_append.mp mem with old | new
  · exact h.1 k old
  · rcases List.mem_singleton.mp new with rfl
    exact cut

theorem Scan.Cut.add_comment {s : Scan} (h : s.Cut d) {c : Chunk} (cut : d.Cuts c) :
    ({ s with comments := s.comments ++ [c] } : Scan).Cut d := by
  refine ⟨h.1, fun k mem => ?_⟩
  rcases List.mem_append.mp mem with old | new
  · exact h.2 k old
  · rcases List.mem_singleton.mp new with rfl
    exact cut

theorem Scan.Cut.closeRun {s : Scan} (h : s.Cut d) : (s.closeRun d).Cut d := by
  simp only [Scan.closeRun]
  split
  · exact h.add_chunk (d.cuts_chunk _ _ _ _)
  · exact h

theorem scanFrom_cuts : ∀ fuel lineNo (s : Scan), s.Cut d → (scanFrom d t fuel lineNo s).Cut d := by
  intro fuel
  induction fuel with
  | zero => intro lineNo s h; exact h
  | succ fuel ih =>
    intro lineNo s h
    simp only [scanFrom]
    split
    · exact h
    · split
      · exact ih _ _ h
      · split
        · exact ih _ _ h
        · apply ih
          have closed := h.closeRun (d := d)
          split
          · split
            · exact (closed.add_chunk (d.cuts_chunk _ _ _ _)).add_comment (d.cuts_chunk _ _ _ _)
            · exact closed.add_comment (d.cuts_chunk _ _ _ _)
          · split
            · exact closed.add_chunk (d.cuts_chunk _ _ _ _)
            · exact closed

end Script

theorem scriptChunks_cuts : ∀ c ∈ scriptChunks d t, d.Cuts c := by
  intro c mem
  have scanned := (Script.scanFrom_cuts (d := d) (t := t) (d.lineCount + 1) 1 {}
    ⟨fun _ none => (by cases none), fun _ none => (by cases none)⟩).closeRun
  simp only [scriptChunks] at mem
  split at mem
  · cases mem
  · rcases List.mem_append.mp mem with found | comment
    · exact scanned.1 c found
    · exact scanned.2 c comment

theorem patternChunks_cuts (family : LanguageFamily) : ∀ c ∈ patternChunks family d t, d.Cuts c := by
  cases family with
  | markup => exact markupChunks_cuts
  | procedural => exact scriptChunks_cuts
  | markdown => exact markdownChunks_cuts
  | generic => intro c mem; cases mem

theorem fillGaps_cuts (chunks : List Chunk) : ∀ c ∈ fillGaps d t chunks, d.Cuts c := by
  intro c mem
  obtain ⟨⟨first, last⟩, -, windowed⟩ := List.mem_flatMap.mp mem
  dsimp only at windowed
  split at windowed
  · exact d.windows_cuts _ _ _ c windowed
  · cases windowed

end Chunking

end RepoSearch
