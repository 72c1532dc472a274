import RepoSearch.Proofs.Chunking.Lines
import RepoSearch.Proofs.Chunking.Symbols
/-! Where the symbols of a file's chunks lie. Every symbol of every chunk a file is cut into lies
inside its chunk, on the chunk's lines, with both columns counted from 1, and starts no later
than it ends. A heading's symbol sits on its section's first line, a declaration's on its chunk's
first line, and each module of an import run on the line that names it, inside the run. An
element runs from its opening `<` to its last character, and an attribute over its quoted value
inside the element; both are read off the document by the line and column of a character, which
grow with the character. Merging gives a chunk the symbols of the chunks with its id, which lie
over its lines.

Main statement: `chunk_symbols_inside`. -/
namespace RepoSearch

/-- A well-formed symbol: both columns count from 1, and its first line and column come no later
than its last line and column. -/
structure Symbol.WellFormed (s : Symbol) : Prop where
  start_column : 1 ≤ s.startColumn
  end_column : 1 ≤ s.endColumn
  ordered : s.startLine < s.endLine ∨ s.startLine = s.endLine ∧ s.startColumn ≤ s.endColumn

/-- A symbol inside a chunk: well formed, on lines from the chunk's first to its last. -/
structure Symbol.Inside (c : Chunk) (s : Symbol) : Prop where
  wellFormed : s.WellFormed
  start_line : c.startLine ≤ s.startLine
  end_line : s.endLine ≤ c.endLine

namespace Symbol

theorem WellFormed.lines_le {s : Symbol} (h : s.WellFormed) : s.startLine ≤ s.endLine := by
  rcases h.ordered with before | ⟨same, -⟩ <;> omega

theorem wellFormed_of_line {s : Symbol} (same : s.startLine = s.endLine) (first : 1 ≤ s.startColumn)
    (forward : s.startColumn ≤ s.endColumn) : s.WellFormed :=
  ⟨first, Nat.le_trans first forward, .inr ⟨same, forward⟩⟩

theorem Inside.of_lines {c k : Chunk} {s : Symbol} (h : s.Inside c)
    (starts : k.startLine = c.startLine) (stops : k.endLine = c.endLine) : s.Inside k :=
  ⟨h.wellFormed, starts ▸ h.start_line, stops ▸ h.end_line⟩

end Symbol

namespace Chunking

open RepoSearch.Pattern RepoSearch.Text

variable {d : Document} {t : Tunables}

theorem Document.inside_chunk {start stop : Nat} {s : Symbol} (formed : s.WellFormed)
    (first : 1 ≤ s.startLine) (after : start ≤ s.startLine) (before : s.endLine ≤ max stop start)
    (last : s.endLine ≤ d.lineCount) (kind : ChunkKind) (symbols : List Symbol) :
    s.Inside (d.chunk start stop kind symbols) := by
  have ordered := formed.lines_le
  refine ⟨formed, ?_, ?_⟩ <;> simp only [Document.chunk, Chunk.build] <;> omega

/-! ### Headings -/

namespace Markdown

theorem headingsFrom_lines (fence : Option String) (n : Nat) (lines : List String) :
    ∀ h ∈ headingsFrom fence n lines, n ≤ h.1 ∧ h.1 < n + lines.length := by
  fun_induction headingsFrom fence n lines
  case case1 => intro h mem; cases mem
  case case5 _ n _ rest _ _ _ _ text _ _ ih =>
    intro h mem
    rcases List.mem_cons.mp mem with rfl | later
    · simp
    · have := ih h later
      simp only [List.length_cons]
      omega
  all_goals
    rename_i ih
    intro h mem
    have := ih h mem
    simp only [List.length_cons]
    omega

theorem sectionChunk_inside {lineNo stop : Nat} {text : String} (first : 1 ≤ lineNo)
    (last : lineNo ≤ d.lineCount) :
    ∀ x ∈ (sectionChunk d t lineNo text stop).symbols, x.Inside (sectionChunk d t lineNo text stop) := by
  intro x mem
  show x.Inside (d.chunk lineNo stop .block _)
  simp only [sectionChunk, Document.chunk_symbols, List.mem_singleton] at mem
  subst mem
  apply Document.inside_chunk
  · apply Symbol.wellFormed_of_line rfl
    · show 1 ≤ ((findText? (d.line lineNo) text).map (· + 1)).getD 1
      cases findText? (d.line lineNo) text <;> simp
    · exact Nat.le_add_right _ _
  · exact first
  · exact Nat.le_refl _
  · exact Nat.le_max_right _ _
  · exact last

end Markdown

theorem markdownChunks_inside : ∀ c ∈ markdownChunks d t, ∀ x ∈ c.symbols, x.Inside c := by
  have sections : ∀ total hs, (∀ h ∈ hs, 1 ≤ h.1 ∧ h.1 ≤ d.lineCount) →
      ∀ c ∈ Markdown.sections d t total hs, ∀ x ∈ c.symbols, x.Inside c := by
    intro total hs
    induction hs with
    | nil => intro _ c mem; cases mem
    | cons h rest ih =>
      intro onLines c mem
      rcases List.mem_cons.mp mem with rfl | later
      · obtain ⟨first, last⟩ := onLines h List.mem_cons_self
        exact Markdown.sectionChunk_inside first last
      · exact ih (fun h' listed => onLines h' (List.mem_cons_of_mem _ listed)) c later
  intro c mem
  simp only [markdownChunks] at mem
  split at mem
  · cases mem
  · next hs heads =>
    rcases List.mem_append.mp mem with lead | later
    · split at lead
      · rcases List.mem_singleton.mp lead with rfl
        intro x none
        cases none
      · cases lead
    · refine sections _ _ (fun h listed => ?_) c later
      rw [← heads] at listed
      have bounds := Markdown.headingsFrom_lines none 1 d.lines.toList h listed
      simp only [Array.length_toList] at bounds
      exact ⟨bounds.1, by unfold Document.lineCount; omega⟩

/-! ### Declarations and import runs -/

namespace Script

theorem pointSymbol_wellFormed {name : String} {kind : SymbolKind} {lineNo col : Nat}
    {context : String} (first : 1 ≤ col) : (pointSymbol t name kind lineNo col context).WellFormed :=
  Symbol.wellFormed_of_line rfl first (Nat.le_add_right _ _)

theorem declaration_eq_some {line : String} {lineNo : Nat} {sym : Symbol}
    (found : declaration t line lineNo = some sym) :
    ∃ name kind col, 1 ≤ col ∧ sym = pointSymbol t name kind lineNo col line := by
  simp only [declaration] at found
  obtain ⟨⟨m, kind⟩, -, made⟩ := Option.bind_eq_some_iff.mp found
  obtain ⟨⟨name, col⟩, spanned, rfl⟩ := Option.map_eq_some_iff.mp made
  exact ⟨name, kind, col, spanText_column_pos spanned, rfl⟩

/-- An open import run of `d` before line `lineNo`: it starts on a line of the document and ends
before `lineNo` and within the document, and each module symbol is well formed and lies on the
run's lines. -/
structure ImportRun.Placed (d : Document) (lineNo : Nat) (r : ImportRun) : Prop where
  first : 1 ≤ r.start
  ordered : r.start ≤ r.stop
  before : r.stop < lineNo
  last : r.stop ≤ d.lineCount
  symbols : ∀ x ∈ r.symbols, x.WellFormed ∧ r.start ≤ x.startLine ∧ x.endLine ≤ r.stop

namespace ImportRun.Placed

variable {lineNo : Nat} {r : ImportRun}

theorem later (h : r.Placed d lineNo) {m : Nat} (le : lineNo ≤ m) : r.Placed d m :=
  ⟨h.first, h.ordered, Nat.lt_of_lt_of_le h.before le, h.last, h.symbols⟩

theorem single {stop : Nat} {symbol : Symbol} (found : importStatement d t lineNo = some (stop, symbol))
    (first : 1 ≤ lineNo) (inDocument : lineNo ≤ d.lineCount) :
    (⟨lineNo, stop, [symbol]⟩ : ImportRun).Placed d (stop + 1) := by
  obtain ⟨⟨module, col, column, rfl⟩, after, within⟩ := importStatement_eq_some found
  refine ⟨first, after, Nat.lt_succ_self _, Nat.le_trans (within inDocument) (Nat.min_le_right _ _),
    fun x mem => ?_⟩
  rw [List.mem_singleton.mp mem]
  exact ⟨pointSymbol_wellFormed column, after, Nat.le_refl _⟩

theorem push (h : r.Placed d lineNo) {stop : Nat} {symbol : Symbol}
    (found : importStatement d t lineNo = some (stop, symbol)) (inDocument : lineNo ≤ d.lineCount) :
    ({ r with stop, symbols := r.symbols ++ [symbol] } : ImportRun).Placed d (stop + 1) := by
  obtain ⟨⟨module, col, column, rfl⟩, after, within⟩ := importStatement_eq_some found
  -- the run ends before the statement starts, so it ends before every line the statement names
  have extends_ : r.stop < stop := Nat.lt_of_lt_of_le h.before after
  have ordered := h.ordered
  refine ⟨h.first, show r.start ≤ stop by omega, Nat.lt_succ_self _,
    Nat.le_trans (within inDocument) (Nat.min_le_right _ _), fun x mem => ?_⟩
  rcases List.mem_append.mp mem with old | new
  · obtain ⟨formed, starts, stops⟩ := h.symbols x old
    exact ⟨formed, starts, show x.endLine ≤ stop by omega⟩
  · rw [List.mem_singleton.mp new]
    exact ⟨pointSymbol_wellFormed column, show r.start ≤ stop by omega, Nat.le_refl _⟩

theorem inside (h : r.Placed d lineNo) :
    ∀ x ∈ r.symbols, x.Inside (d.chunk r.start r.stop .import r.symbols) := by
  intro x mem
  obtain ⟨formed, starts, stops⟩ := h.symbols x mem
  apply Document.inside_chunk formed
  · exact Nat.le_trans h.first starts
  · exact starts
  · exact Nat.le_trans stops (Nat.le_max_left _ _)
  · exact Nat.le_trans stops h.last

end ImportRun.Placed

/-- What the scan keeps true while at line `lineNo` of `d`: the line is 1 or later, every symbol of
a finished chunk or comment chunk lies inside it, and an open import run is placed before the
line. -/
structure Scan.Placed (d : Document) (lineNo : Nat) (s : Scan) : Prop where
  first : 1 ≤ lineNo
  chunks : ∀ c ∈ s.chunks, ∀ x ∈ c.symbols, x.Inside c
  comments : ∀ c ∈ s.comments, ∀ x ∈ c.symbols, x.Inside c
  run : ∀ r, s.run = some r → r.Placed d lineNo

namespace Scan.Placed

variable {lineNo : Nat} {s : Scan}

theorem later (h : s.Placed d lineNo) {m : Nat} (le : lineNo ≤ m) : s.Placed d m :=
  ⟨Nat.le_trans h.first le, h.chunks, h.comments, fun r open_ => (h.run r open_).later le⟩

theorem setRun (h : s.Placed d lineNo) {m : Nat} {r : ImportRun} (placed : r.Placed d m)
    (first : 1 ≤ m) : ({ s with run := some r } : Scan).Placed d m :=
  ⟨first, h.chunks, h.comments, fun _ same => Option.some.inj same ▸ placed⟩

theorem add_chunk (h : s.Placed d lineNo) {c : Chunk} (inside : ∀ x ∈ c.symbols, x.Inside c) :
    ({ s with chunks := s.chunks ++ [c] } : Scan).Placed d lineNo :=
  ⟨h.first, List.forall_mem_append.mpr ⟨h.chunks, List.forall_mem_singleton.mpr inside⟩, h.comments,
    h.run⟩

theorem add_comment (h : s.Placed d lineNo) {c : Chunk} (inside : ∀ x ∈ c.symbols, x.Inside c) :
    ({ s with comments := s.comments ++ [c] } : Scan).Placed d lineNo :=
  ⟨h.first, h.chunks, List.forall_mem_append.mpr ⟨h.comments, List.forall_mem_singleton.mpr inside⟩,
    h.run⟩

theorem closeRun (h : s.Placed d lineNo) {m : Nat} (le : lineNo ≤ m) : (s.closeRun d).Placed d m := by
  simp only [Scan.closeRun]
  split
  · next r open_ =>
    have chunks : ∀ c ∈ s.chunks ++ [d.chunk r.start r.stop .import r.symbols], ∀ x ∈ c.symbols,
        x.Inside c :=
      List.forall_mem_append.mpr ⟨h.chunks, List.forall_mem_singleton.mpr (h.run r open_).inside⟩
    exact ⟨Nat.le_trans h.first le, chunks, h.comments, fun _ none => by cases none⟩
  · exact h.later le

end Scan.Placed

theorem declarationChunk_inside {line : String} {lineNo stop : Nat} {symbol : Symbol}
    (found : declaration t line lineNo = some symbol) (first : 1 ≤ lineNo)
    (inDocument : lineNo ≤ d.lineCount) :
    ∀ x ∈ [symbol], x.Inside (d.chunk lineNo stop .symbol [symbol]) := by
  intro x mem
  rw [List.mem_singleton.mp mem]
  obtain ⟨name, kind, col, column, rfl⟩ := declaration_eq_some found
  apply Document.inside_chunk (pointSymbol_wellFormed column)
  · exact first
  · exact Nat.le_refl _
  · exact Nat.le_max_right _ _
  · exact inDocument

theorem scanFrom_placed : ∀ fuel lineNo (s : Scan), s.Placed d lineNo →
    ∃ m, (scanFrom d t fuel lineNo s).Placed d m := by
  intro fuel
  induction fuel with
  | zero => intro lineNo s h; exact ⟨lineNo, h⟩
  | succ fuel ih =>
    intro lineNo s h
    simp only [scanFrom]
    split
    · exact ⟨lineNo, h⟩
    · next beyond =>
      have inDocument : lineNo ≤ d.lineCount := Nat.le_of_not_lt beyond
      split
      · next stop symbol found =>
        apply ih
        split
        · next r open_ => exact h.setRun ((h.run r open_).push found inDocument) (Nat.le_add_left 1 stop)
        · exact h.setRun (ImportRun.Placed.single found h.first inDocument) (Nat.le_add_left 1 stop)
      · split
        · exact ih _ _ (h.later (Nat.le_succ _))
        · apply ih
          have closed := h.closeRun (d := d) (Nat.le_succ lineNo)
          split
          · refine Scan.Placed.add_comment ?_ (fun x none => by cases none)
            split
            · next symbol found => exact closed.add_chunk (declarationChunk_inside found h.first inDocument)
            · exact closed
          · split
            · next symbol found => exact closed.add_chunk (declarationChunk_inside found h.first inDocument)
            · exact closed

end Script

theorem scriptChunks_inside : ∀ c ∈ scriptChunks d t, ∀ x ∈ c.symbols, x.Inside c := by
  intro c mem
  obtain ⟨m, scanned⟩ := Script.scanFrom_placed (d := d) (t := t) (d.lineCount + 1) 1 {}
    ⟨Nat.le_refl 1, fun _ none => (by cases none), fun _ none => (by cases none),
      fun _ none => (by cases none)⟩
  have closed := scanned.closeRun (d := d) (Nat.le_refl m)
  simp only [scriptChunks] at mem
  split at mem
  · cases mem
  · rcases List.mem_append.mp mem with found | comment
    · exact closed.chunks c found
    · exact closed.comments c comment

/-! ### Elements and their attributes -/

theorem Document.Located.line_le (located : d.Located) {i j : Nat} (le : i ≤ j) (inText : j < d.chars.size) :
    (d.positionOfChar i).1 ≤ (d.positionOfChar j).1 := by
  rcases located.positionOfChar_le le inText with earlier | ⟨same, -⟩ <;> omega

namespace Markup

theorem elementPattern_minLength (tag closing : Regex) : 1 ≤ (elementPattern tag closing).minLength := by
  show 1 ≤ (Regex.seq (.lit "<") _).minLength
  have opening : (Regex.lit "<").minLength = 1 := by decide
  simp only [Regex.minLength, opening]
  omega

theorem elementPatterns_minLength : ∀ p ∈ elementPatterns, 1 ≤ p.minLength := by
  intro p mem
  simp only [elementPatterns, List.mem_cons, List.not_mem_nil, or_false] at mem
  rcases mem with rfl | rfl | rfl | rfl | rfl | rfl <;> exact elementPattern_minLength _ _

theorem attributePattern_closes :
    attributePattern.closes "dq" = true ∧ attributePattern.closes "sq" = true := by
  decide

theorem elementChunk_eq_some {m : Match} {c : Chunk} (made : elementChunk d t m = some c) :
    ∃ element : Symbol,
      c = d.chunk (d.positionOfChar m.start).1 (d.positionOfChar (m.stop - 1)).1 .symbol
        (element :: attributeSymbols d t m.start (d.chars.extract m.start m.stop)) ∧
      element.startLine = (d.positionOfChar m.start).1 ∧
      element.startColumn = (d.positionOfChar m.start).2 ∧
      element.endLine = (d.positionOfChar (m.stop - 1)).1 ∧
      element.endColumn = (d.positionOfChar (m.stop - 1)).2 + 1 := by
  obtain ⟨tag, -, made⟩ := Option.bind_eq_some_iff.mp made
  obtain ⟨inner, -, made⟩ := Option.bind_eq_some_iff.mp made
  generalize d.positionOfChar m.start = start at made ⊢
  generalize d.positionOfChar (m.stop - 1) = stop at made ⊢
  obtain ⟨startLine, startColumn⟩ := start
  obtain ⟨endLine, endColumn⟩ := stop
  cases made
  exact ⟨_, rfl, rfl, rfl, rfl, rfl⟩

end Markup

section Placed

variable (located : d.Located) (lined : 1 ≤ d.lineStarts.size) (fits : d.lineStarts.size ≤ d.lineCount)
include located lined fits

theorem Document.inside_of_chars {lo i j hi : Nat} (after : lo ≤ i) (forward : i ≤ j) (before : j ≤ hi)
    (inText : hi < d.chars.size) {s : Symbol} (startLine : s.startLine = (d.positionOfChar i).1)
    (startColumn : s.startColumn = (d.positionOfChar i).2) (endLine : s.endLine = (d.positionOfChar j).1)
    (endColumn : (d.positionOfChar j).2 ≤ s.endColumn) (kind : ChunkKind) (symbols : List Symbol) :
    s.Inside (d.chunk (d.positionOfChar lo).1 (d.positionOfChar hi).1 kind symbols) := by
  have placedI := positionOfChar_bounds i lined
  have placedJ := positionOfChar_bounds j lined
  have placedHi := positionOfChar_bounds hi lined
  have first := located.line_le after (by omega)
  have last := located.line_le before inText
  have formed : s.WellFormed := by
    refine ⟨by omega, by omega, ?_⟩
    rcases located.positionOfChar_le forward (by omega) with earlier | ⟨same, le⟩
    · exact .inl (by omega)
    · exact .inr ⟨by omega, by omega⟩
  apply Document.inside_chunk formed
  · omega
  · omega
  · omega
  · omega

namespace Markup

theorem attributeSymbol_inside {m a : Match} (inText : m.InText d.chars)
    (matched : a ∈ attributePattern.matches (d.chars.extract m.start m.stop)) {sym : Symbol}
    (made : attributeSymbol d t m.start (d.chars.extract m.start m.stop) a = some sym)
    (kind : ChunkKind) (symbols : List Symbol) :
    sym.Inside (d.chunk (d.positionOfChar m.start).1 (d.positionOfChar (m.stop - 1)).1 kind symbols) := by
  obtain ⟨name, v0, v1, quoted, value, -, -, starts, ends⟩ := attributeSymbol_eq_some made
  have inA := matches_inText _ a matched
  have within : a.start ≤ v0 ∧ v0 ≤ v1 ∧ v1 ≤ a.stop := inA.spans _ (Spans.mem_of_get? value)
  have closes : attributePattern.closes name = true := by
    rcases quoted with rfl | rfl
    · exact attributePattern_closes.1
    · exact attributePattern_closes.2
  have closed : v1 < a.stop := (matches_consume _ a matched).2 name closes _ (Spans.mem_of_get? value) rfl
  have sized := inA.bounded
  have bounded := inText.bounded
  simp only [Array.size_extract] at sized
  exact Document.inside_of_chars located lined fits (Nat.le_add_right _ v0) (by omega) (by omega)
    (by omega) (congrArg Prod.fst starts) (congrArg Prod.snd starts) (congrArg Prod.fst ends)
    (congrArg Prod.snd ends).ge kind symbols

theorem elementChunk_inside {m : Match} (inText : m.InText d.chars) (consumes : m.start < m.stop)
    {c : Chunk} (made : elementChunk d t m = some c) : ∀ x ∈ c.symbols, x.Inside c := by
  obtain ⟨element, rfl, startLine, startColumn, endLine, endColumn⟩ := elementChunk_eq_some made
  have bounded := inText.bounded
  intro x mem
  rw [Document.chunk_symbols] at mem
  rcases List.mem_cons.mp mem with rfl | ofAttribute
  · exact Document.inside_of_chars located lined fits (Nat.le_refl _) (by omega) (Nat.le_refl _)
      (by omega) startLine startColumn endLine (by omega) _ _
  · obtain ⟨a, matched, madeA⟩ := List.mem_filterMap.mp ofAttribute
    exact attributeSymbol_inside located lined fits inText matched madeA _ _

end Markup

theorem markupChunks_inside : ∀ c ∈ markupChunks d t, ∀ x ∈ c.symbols, x.Inside c := by
  intro c mem
  obtain ⟨p, pattern, found⟩ := List.mem_flatMap.mp mem
  obtain ⟨m, matched, made⟩ := List.mem_filterMap.mp found
  -- every element match holds at least its opening angle bracket
  have consumes := (matches_consume p m matched).1
  have opening := Markup.elementPatterns_minLength p pattern
  exact Markup.elementChunk_inside located lined fits (matches_inText p m matched) (by omega) made

theorem cutChunks_inside (family : LanguageFamily) : ∀ c ∈ cutChunks t family d, ∀ x ∈ c.symbols, x.Inside c := by
  intro c mem x held
  simp only [cutChunks] at mem
  split at mem
  · rw [Document.windows_symbols _ _ _ c mem] at held
    cases held
  · rcases List.mem_append.mp mem with found | gap
    · cases family with
      | markup => exact markupChunks_inside located lined fits c found x held
      | procedural => exact scriptChunks_inside c found x held
      | markdown => exact markdownChunks_inside c found x held
      | generic => cases found
    · rw [fillGaps_symbols _ c gap] at held
      cases held

end Placed

/-- Every symbol of every chunk of a file lies inside its chunk and is well formed: on lines from
the chunk's first to its last, with both columns counted from 1 and its start no later than its
end. Headings, declarations, import runs, elements and attributes are placed so when they are
cut, and merging gives a chunk the symbols of the chunks cut with its id, which lie over the same
lines. -/
theorem chunk_symbols_inside (t : Tunables) (path : String) (language : Language) (text : String) :
    ∀ k ∈ chunkFile t path language text, ∀ x ∈ k.symbols, x.Inside k := by
  intro k mem x held
  cases blank : isBlankText text with
  | true => simp [chunkFile, blank] at mem
  | false =>
    have located := Document.located_ofText path language.name text
    obtain ⟨fits, lined⟩ := Document.lineStarts_ofText path language.name text
    have placed := cutChunks_inside located lined fits.le language.family (t := t)
    rw [chunkFile_eq_mergeAndOrder blank, mergeAndOrder, List.mem_mergeSort] at mem
    obtain ⟨first, found, shape⟩ := mergeById_spec (cutChunks_symbols_nodup located _) k mem
    have listed : x ∈ mergedSymbols (cutChunks t language.family (Document.ofText path language.name text)) k.id := by
      rw [shape] at held
      exact held
    simp only [mergedSymbols, List.mem_eraseDups, List.mem_flatMap, List.mem_filter, beq_iff_eq] at listed
    obtain ⟨c, ⟨cut, sameId⟩, holds⟩ := listed
    have firstCut := List.mem_of_find?_eq_some found
    have firstId : first.id = k.id := by simpa using List.find?_some found
    have lines := lines_eq_of_id (cutChunks_cuts _ c cut).ofFile (cutChunks_cuts _ first firstCut).ofFile
      (sameId.trans firstId.symm)
    have starts : k.startLine = first.startLine := by rw [shape]
    have stops : k.endLine = first.endLine := by rw [shape]
    exact (placed c cut x holds).of_lines (starts.trans lines.1.symm) (stops.trans lines.2.symm)

/-- A navigation element over three lines of a page: the link's `href` on its second line is an
attribute symbol inside the element's chunk. -/
theorem page_link_inside :
    let page := chunkFile {} "index.html" ⟨"html", .markup, ["html"]⟩
      "<nav class=\"top\">\n  <a href=\"/\">Home</a>\n</nav>\n"
    ∃ k ∈ page, ∃ x ∈ k.symbols, x.kind = .attribute ∧ x.startLine = 2 ∧ x.Inside k := by
  intro page
  have linked : ∃ k ∈ page, ∃ x ∈ k.symbols, x.kind = .attribute ∧ x.startLine = 2 := by
    decide +kernel
  obtain ⟨k, listed, x, held, kind, line⟩ := linked
  exact ⟨k, listed, x, held, kind, line, chunk_symbols_inside {} "index.html" _ _ k listed x held⟩

end Chunking

end RepoSearch
