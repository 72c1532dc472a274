import RepoSearch.Proofs.Chunking.SymbolPlaces
/-! The sections of a prose document. A heading is a line that matches the heading pattern with
some text, that opens no fence and that no open fence holds; a fence line opens a fence, which
only a fence line with the same marker closes. The headings come in the order of their lines.
A document without one gives no chunk; otherwise the text before the first heading, when it
holds any, is a block of its own, and each heading starts a section that runs to the line before
the next heading, or to the document's last line, named by the heading's text. The sections so
cover each line from the first heading on exactly once.

Main statement: `markdownChunks_sections`. -/
namespace RepoSearch.Chunking

open RepoSearch.Pattern RepoSearch.Text

namespace Markdown

/-- The marker a match of the fence pattern records. -/
def fenceMarkerOf (cs : Array Char) (m : Match) : String :=
  match m.spans.get? "fence" with
  | some (a, b) => slice cs a b
  | none => ""

/-- The marker of a fence line; none for a line that is no fence line. -/
def fenceMarker? (line : String) : Option String :=
  let cs := line.toList.toArray
  (fencePattern.matchAt cs 0).map (fenceMarkerOf cs)

/-- The trimmed text of a heading line, without its closing hashes; none for another line. -/
def headingText? (line : String) : Option String :=
  let cs := line.toList.toArray
  (headingPattern.matchAt cs 0).bind fun m =>
    (m.spans.get? "text").map fun (a, b) => trimBlank (slice cs a b)

/-- The fence open after a line: a fence line toggles it with its marker, another leaves it. -/
def fenceStep (fence : Option String) (line : String) : Option String :=
  ((fenceMarker? line).map (toggleFence fence)).getD fence

/-- The fence open after some lines, from the one open before them. -/
def fenceAfter (fence : Option String) (lines : List String) : Option String :=
  lines.foldl fenceStep fence

/-- Line `i` of `lines`, counted from 0 with `fence` open before them, is a heading with the
given text: no fence line, with no fence open after the lines before it, and nonempty text. -/
def HeadingAt (fence : Option String) (lines : List String) (i : Nat) (text : String) : Prop :=
  ∃ line, lines[i]? = some line ∧ fenceMarker? line = none ∧ fenceAfter fence (lines.take i) = none ∧
    headingText? line = some text ∧ text ≠ ""

/-- Line `n` of the document is a heading with the given text: no fence line, with no fence open
after lines `1..n-1`, and nonempty text. -/
def HeadingLine (d : Document) (n : Nat) (text : String) : Prop :=
  1 ≤ n ∧ n ≤ d.lineCount ∧ fenceMarker? (d.line n) = none ∧
    fenceAfter none ((List.range' 1 (n - 1)).map d.line) = none ∧
    headingText? (d.line n) = some text ∧ text ≠ ""

/-! ### Which lines are headings -/

theorem fenceMarker?_of_match {line : String} {m : Match}
    (h : fencePattern.matchAt line.toList.toArray 0 = some m) :
    fenceMarker? line = some (fenceMarkerOf line.toList.toArray m) := by
  simp only [fenceMarker?, h, Option.map_some]

theorem fenceMarker?_of_none {line : String} (h : fencePattern.matchAt line.toList.toArray 0 = none) :
    fenceMarker? line = none := by
  simp only [fenceMarker?, h, Option.map_none]

theorem headingAt_zero {fence : Option String} {line : String} {rest : List String} {text : String} :
    HeadingAt fence (line :: rest) 0 text ↔
      fenceMarker? line = none ∧ fence = none ∧ headingText? line = some text ∧ text ≠ "" := by
  simp [HeadingAt, fenceAfter]

theorem headingAt_succ {fence : Option String} {line : String} {rest : List String} {i : Nat}
    {text : String} :
    HeadingAt fence (line :: rest) (i + 1) text ↔ HeadingAt (fenceStep fence line) rest i text := by
  simp [HeadingAt, fenceAfter]

theorem exists_headingAt_cons {fence : Option String} {line : String} {rest : List String}
    {n m : Nat} {text : String} :
    (∃ i, m = n + i ∧ HeadingAt fence (line :: rest) i text) ↔
      (m = n ∧ HeadingAt fence (line :: rest) 0 text) ∨
        ∃ i, m = n + 1 + i ∧ HeadingAt (fenceStep fence line) rest i text := by
  constructor
  · rintro ⟨_ | i, rfl, found⟩
    · exact .inl ⟨rfl, found⟩
    · exact .inr ⟨i, by omega, headingAt_succ.mp found⟩
  · rintro (⟨rfl, found⟩ | ⟨i, rfl, found⟩)
    · exact ⟨0, rfl, found⟩
    · exact ⟨i + 1, by omega, headingAt_succ.mpr found⟩

theorem exists_headingAt_plain {fence : Option String} {line : String} {rest : List String}
    {n m : Nat} {text : String} (plain : fenceMarker? line = none) :
    (∃ i, m = n + i ∧ HeadingAt fence (line :: rest) i text) ↔
      (m = n ∧ fence = none ∧ headingText? line = some text ∧ text ≠ "") ∨
        ∃ i, m = n + 1 + i ∧ HeadingAt fence rest i text := by
  rw [exists_headingAt_cons, headingAt_zero, fenceStep, plain]
  simp only [true_and, Option.map_none, Option.getD_none]

theorem mem_headingsFrom_iff (fence : Option String) (n : Nat) (lines : List String) (m : Nat)
    (text : String) :
    (m, text) ∈ headingsFrom fence n lines ↔ ∃ i, m = n + i ∧ HeadingAt fence lines i text := by
  fun_induction headingsFrom fence n lines
  case case1 => simp [HeadingAt]
  case case2 fence n line rest cs m fenced marker ih =>
    -- a fence line is no heading, and toggles the fence with its marker
    rw [ih, exists_headingAt_cons, headingAt_zero, fenceStep, fenceMarker?_of_match fenced]
    simp only [reduceCtorEq, false_and, and_false, false_or, Option.map_some, Option.getD_some]
    exact Iff.rfl
  case case3 fence n line rest cs plain opened ih =>
    have shut : fence ≠ none := Option.isSome_iff_ne_none.mp opened
    rw [ih, exists_headingAt_plain (fenceMarker?_of_none plain)]
    simp [shut]
  case case4 fence n line rest cs plain closed found o titled empty ih =>
    -- a heading line with empty text names nothing
    have titled : headingText? line = some "" := String.isEmpty_iff.mp empty ▸ titled
    have never : ¬(m = n ∧ fence = none ∧ headingText? line = some text ∧ text ≠ "") := by
      rintro ⟨-, -, found, named⟩
      exact named (Option.some.inj (titled.symm.trans found)).symm
    rw [ih, exists_headingAt_plain (fenceMarker?_of_none plain), or_iff_right never]
  case case5 fence n line rest cs plain closed found o titled named ih =>
    have titled : headingText? line = some o := titled
    have shut : fence = none := Option.not_isSome_iff_eq_none.mp closed
    have named : o ≠ "" := fun empty => named (String.isEmpty_iff.mpr empty)
    have here : (m = n ∧ fence = none ∧ headingText? line = some text ∧ text ≠ "") ↔
        (m, text) = (n, o) := by
      rw [titled, Option.some.injEq, Prod.mk.injEq]
      constructor
      · rintro ⟨rfl, -, rfl, -⟩
        exact ⟨rfl, rfl⟩
      · rintro ⟨rfl, rfl⟩
        exact ⟨rfl, shut, rfl, named⟩
    rw [List.mem_cons, ih, exists_headingAt_plain (fenceMarker?_of_none plain), here]
  case case6 fence n line rest cs plain closed found untitled ih =>
    have untitled : headingText? line = none := untitled
    have never : ¬(m = n ∧ fence = none ∧ headingText? line = some text ∧ text ≠ "") := by
      rintro ⟨-, -, found, -⟩
      rw [untitled] at found
      cases found
    rw [ih, exists_headingAt_plain (fenceMarker?_of_none plain), or_iff_right never]

theorem headingsFrom_pairwise (fence : Option String) (n : Nat) (lines : List String) :
    (headingsFrom fence n lines).Pairwise (fun a b => a.1 < b.1) := by
  fun_induction headingsFrom fence n lines
  case case1 => exact List.Pairwise.nil
  case case5 fence n _ rest _ _ _ _ _ _ _ ih =>
    refine List.Pairwise.cons (fun h later => ?_) ih
    have := headingsFrom_lines fence (n + 1) rest h later
    omega
  all_goals
    rename_i ih
    exact ih

theorem headings_pairwise (d : Document) : (headings d).Pairwise (fun a b => a.1 < b.1) :=
  headingsFrom_pairwise none 1 _

theorem headings_lines (d : Document) : ∀ h ∈ headings d, 1 ≤ h.1 ∧ h.1 ≤ d.lineCount := by
  intro h listed
  have bounds := headingsFrom_lines none 1 d.lines.toList h listed
  simp only [Array.length_toList] at bounds
  exact ⟨bounds.1, by unfold Document.lineCount; omega⟩

end Markdown

namespace Document

@[simp] theorem chunk_kind (d : Document) (start stop : Nat) (kind : ChunkKind)
    (symbols : List Symbol) : (d.chunk start stop kind symbols).kind = kind := rfl

theorem take_lines (d : Document) {i : Nat} (fits : i ≤ d.lineCount) :
    d.lines.toList.take i = (List.range' 1 i).map d.line := by
  have lines := d.take_drop_lines (le_refl 1) fits
  rwa [Nat.sub_self, List.drop_zero, Nat.add_sub_cancel] at lines

theorem getElem?_lines_eq_some (d : Document) (i : Nat) (line : String) :
    d.lines.toList[i]? = some line ↔ i < d.lineCount ∧ d.line (i + 1) = line := by
  simp only [Document.line, lineCount, Array.getElem?_toList, Array.getElem?_eq_some_iff]
  constructor
  · rintro ⟨inside, rfl⟩
    simp [inside]
  · rintro ⟨inside, rfl⟩
    exact ⟨inside, by simp [inside]⟩

end Document

namespace Markdown

theorem mem_headings_iff (d : Document) (n : Nat) (text : String) :
    (n, text) ∈ headings d ↔ HeadingLine d n text := by
  rw [headings, mem_headingsFrom_iff]
  constructor
  · rintro ⟨i, rfl, line, listed, unmarked, closed, titled, named⟩
    obtain ⟨inside, rfl⟩ := (d.getElem?_lines_eq_some i line).mp listed
    rw [d.take_lines inside.le] at closed
    refine ⟨by omega, by omega, ?_, ?_, ?_, named⟩
    · rw [Nat.add_comm]
      exact unmarked
    · rw [Nat.add_sub_cancel_left]
      exact closed
    · rw [Nat.add_comm]
      exact titled
  · rintro ⟨first, last, unmarked, closed, titled, named⟩
    have inside : n - 1 < d.lineCount := by omega
    refine ⟨n - 1, by omega, d.line n, ?_, unmarked, ?_, titled, named⟩
    · rw [d.getElem?_lines_eq_some]
      exact ⟨inside, by rw [Nat.sub_add_cancel first]⟩
    · rw [d.take_lines inside.le]
      exact closed

/-! ### Sections -/

variable {d : Document} {t : Tunables}

theorem sectionChunk_lines {lineNo stop : Nat} (text : String) (first : 1 ≤ lineNo)
    (ordered : lineNo ≤ stop) (last : stop ≤ d.lineCount) :
    (sectionChunk d t lineNo text stop).startLine = lineNo ∧
      (sectionChunk d t lineNo text stop).endLine = stop :=
  d.chunk_lines first ordered last _ _

/-- Headings in the order of their lines, on lines `1..total`. -/
def Ordered (total : Nat) (hs : List (Nat × String)) : Prop :=
  hs.Pairwise (fun a b => a.1 < b.1) ∧ ∀ h ∈ hs, 1 ≤ h.1 ∧ h.1 ≤ total

theorem Ordered.tail {total : Nat} {h : Nat × String} {rest : List (Nat × String)}
    (ordered : Ordered total (h :: rest)) : Ordered total rest :=
  ⟨ordered.1.of_cons, fun h' later => ordered.2 h' (List.mem_cons_of_mem _ later)⟩

theorem Ordered.head {total n : Nat} {text : String} {rest : List (Nat × String)}
    (ordered : Ordered total ((n, text) :: rest)) : 1 ≤ n ∧ n ≤ total :=
  ordered.2 (n, text) List.mem_cons_self

theorem Ordered.lt_second {total n n' : Nat} {text text' : String} {rest : List (Nat × String)}
    (ordered : Ordered total ((n, text) :: (n', text') :: rest)) : n < n' :=
  List.rel_of_pairwise_cons ordered.1 List.mem_cons_self

theorem headings_ordered (d : Document) : Ordered d.lineCount (headings d) :=
  ⟨headings_pairwise d, headings_lines d⟩

variable {total : Nat}

theorem sections_spans (last : total ≤ d.lineCount) :
    ∀ hs, Ordered total hs →
      (sections d t total hs).map (fun c => (c.startLine, c.endLine)) =
        (hs.map (·.1)).zip (hs.tail.map (·.1 - 1) ++ [total])
  | [], _ => rfl
  | [(n, text)], ordered => by
    have lines := sectionChunk_lines (d := d) (t := t) text ordered.head.1 ordered.head.2 last
    simp [sections, lines]
  | (n, text) :: (n', text') :: rest, ordered => by
    have before := ordered.lt_second
    have next := ordered.tail.head.2
    have lines := sectionChunk_lines (d := d) (t := t) text ordered.head.1 (by omega : n ≤ n' - 1)
      (by omega)
    have later := sections_spans last ((n', text') :: rest) ordered.tail
    simp only [sections, List.map_cons, lines] at later ⊢
    rw [later]
    rfl

theorem countP_hasLine_sections (last : total ≤ d.lineCount) (n : Nat) :
    ∀ first text rest, Ordered total ((first, text) :: rest) →
      (sections d t total ((first, text) :: rest)).countP (·.hasLine n) =
        if first ≤ n ∧ n ≤ total then 1 else 0
  | first, text, [], ordered => by
    have lines := sectionChunk_lines (d := d) (t := t) text ordered.head.1 ordered.head.2 last
    simp [sections, Chunk.hasLine, lines]
  | first, text, (n', text') :: rest, ordered => by
    have before := ordered.lt_second
    have next := ordered.tail.head.2
    have lines := sectionChunk_lines (d := d) (t := t) text ordered.head.1 (by omega : first ≤ n' - 1)
      (by omega)
    have later := countP_hasLine_sections last n n' text' rest ordered.tail
    -- the first section ends on the line before the next one starts
    simp only [sections] at later ⊢
    rw [List.countP_cons, later]
    simp only [Chunk.hasLine, lines, Bool.and_eq_true, decide_eq_true_eq]
    split_ifs <;> omega

theorem sections_blocks : ∀ hs, ∀ c ∈ sections d t total hs, c.kind = .block
  | [], _, mem => by cases mem
  | (_, _) :: rest, c, mem => by
    rcases List.mem_cons.mp mem with rfl | later
    · rfl
    · exact sections_blocks rest c later

theorem sections_symbols :
    ∀ hs, (sections d t total hs).map
        (fun c => c.symbols.map fun x => (x.kind, x.startLine, x.endLine, x.name)) =
      hs.map fun h => [(SymbolKind.element, h.1, h.1, truncateChars h.2 t.displayChars)]
  | [] => rfl
  | (n, text) :: rest => by
    simp only [sections, List.map_cons, sections_symbols rest]
    rfl

end Markdown

variable {d : Document} {t : Tunables}

theorem markdownChunks_of_headings {first : Nat} {text : String} {rest : List (Nat × String)}
    (heads : Markdown.headings d = (first, text) :: rest) :
    markdownChunks d t =
      (if first > 1 && d.hasContent 1 (first - 1) then [d.chunk 1 (first - 1) .block []] else []) ++
        Markdown.sections d t d.lineCount ((first, text) :: rest) := by
  rw [markdownChunks, heads]

theorem lead_spans {first : Nat} (last : first ≤ d.lineCount) :
    (if first > 1 && d.hasContent 1 (first - 1) then [d.chunk 1 (first - 1) .block []] else []).map
        (fun c => (c.startLine, c.endLine, c.kind, c.symbols)) =
      if 1 < first ∧ d.hasContent 1 (first - 1) = true then [(1, first - 1, .block, [])] else [] := by
  by_cases before : 1 < first ∧ d.hasContent 1 (first - 1) = true
  · have lines := d.chunk_lines (le_refl 1) (by omega : 1 ≤ first - 1) (by omega) .block []
    simp [before, lines]
  · simp only [Bool.and_eq_true, decide_eq_true_eq, gt_iff_lt] at before ⊢
    simp [before]

/-- A prose document without headings gives no chunk. Otherwise, with its headings on lines
`h₁ < ... < hₖ`, it gives a block over lines `1..h₁-1` when `h₁ > 1` and those lines hold some
text, then for each heading a block from its line to the line before the next heading, the last
to the document's last line, with one element symbol on the heading's line named by its text cut
to the display length. The headings are the lines that match the heading pattern with nonempty
text, outside fenced code, and the sections cover lines `h₁..` of the document once each. -/
theorem markdownChunks_sections (d : Document) (t : Tunables) :
    (∀ n text, (n, text) ∈ Markdown.headings d ↔ Markdown.HeadingLine d n text) ∧
      (Markdown.headings d).Pairwise (fun a b => a.1 < b.1) ∧
      (Markdown.headings d = [] → markdownChunks d t = []) ∧
      ∀ first text rest, Markdown.headings d = (first, text) :: rest →
        ∃ lead sections, markdownChunks d t = lead ++ sections ∧
          lead.map (fun c => (c.startLine, c.endLine, c.kind, c.symbols)) =
            (if 1 < first ∧ d.hasContent 1 (first - 1) = true then [(1, first - 1, .block, [])]
              else []) ∧
          sections.map (fun c => (c.startLine, c.endLine)) =
            ((Markdown.headings d).map (·.1)).zip
              ((Markdown.headings d).tail.map (·.1 - 1) ++ [d.lineCount]) ∧
          (∀ c ∈ sections, c.kind = .block) ∧
          sections.map (fun c => c.symbols.map fun x => (x.kind, x.startLine, x.endLine, x.name)) =
            (Markdown.headings d).map
              (fun h => [(SymbolKind.element, h.1, h.1, truncateChars h.2 t.displayChars)]) ∧
          ∀ n, sections.countP (·.hasLine n) = if first ≤ n ∧ n ≤ d.lineCount then 1 else 0 := by
  refine ⟨Markdown.mem_headings_iff d, Markdown.headings_pairwise d, fun none => ?_,
    fun first text rest heads => ?_⟩
  · rw [markdownChunks, none]
  · have ordered := Markdown.headings_ordered d
    rw [heads] at ordered ⊢
    refine ⟨_, _, markdownChunks_of_headings heads, lead_spans ordered.head.2,
      Markdown.sections_spans (le_refl _) _ ordered, Markdown.sections_blocks _,
      Markdown.sections_symbols _, fun n => Markdown.countP_hasLine_sections (le_refl _) n _ _ _ ordered⟩

/-- A short README: an introduction, a section, and one holding fenced code whose `#` line is no
heading, so that it runs to the last line. -/
theorem readme_sections :
    ¬Markdown.HeadingLine (.ofText "README.md" "markdown" "Intro line\n\n# Project\nSome text.\n\n## Header styling\n```sh\n# not a heading\n```\nMore.\n") 8 "not a heading" ∧
      ∃ lead sections,
        markdownChunks (.ofText "README.md" "markdown" "Intro line\n\n# Project\nSome text.\n\n## Header styling\n```sh\n# not a heading\n```\nMore.\n") {} =
          lead ++ sections ∧
        lead.map (fun c => (c.startLine, c.endLine, c.kind, c.symbols)) = [(1, 2, .block, [])] ∧
        sections.map (fun c => (c.startLine, c.endLine)) = [(3, 5), (6, 10)] ∧
        ∀ n, sections.countP (·.hasLine n) = if 3 ≤ n ∧ n ≤ 10 then 1 else 0 := by
  have heads : Markdown.headings (.ofText "README.md" "markdown" "Intro line\n\n# Project\nSome text.\n\n## Header styling\n```sh\n# not a heading\n```\nMore.\n") =
      [(3, "Project"), (6, "Header styling")] := by decide +kernel
  have lines : (Document.ofText "README.md" "markdown" "Intro line\n\n# Project\nSome text.\n\n## Header styling\n```sh\n# not a heading\n```\nMore.\n").lineCount = 10 := by decide
  have intro : (Document.ofText "README.md" "markdown" "Intro line\n\n# Project\nSome text.\n\n## Header styling\n```sh\n# not a heading\n```\nMore.\n").hasContent 1 2 = true := by decide
  obtain ⟨headings, -, -, split⟩ := markdownChunks_sections (.ofText "README.md" "markdown" "Intro line\n\n# Project\nSome text.\n\n## Header styling\n```sh\n# not a heading\n```\nMore.\n") {}
  obtain ⟨lead, sections, whole, leading, spans, -, -, cover⟩ := split 3 "Project" _ heads
  refine ⟨fun fenced => ?_, lead, sections, whole, ?_, ?_, ?_⟩
  · have listed := (headings 8 "not a heading").mpr fenced
    simp [heads] at listed
  · rwa [if_pos ⟨by decide, intro⟩] at leading
  · rwa [heads, lines] at spans
  · rwa [lines] at cover

end RepoSearch.Chunking
