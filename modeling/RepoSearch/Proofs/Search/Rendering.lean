import RepoSearch.Search.Context
import Mathlib
/-! Rendering search results as a context block within a character budget. Rendering visits the
results file by file, files in order of first appearance and each file's results in rank order,
so it sees every result once (`visitOrder_perm`). A result is written when its piece fits in
what the pieces written before it left of the budget: the piece is the file's header, unless a
result of the file is already written, then the result's block. The results that are not
written are counted in a closing note (`Greedy`). When the first result alone does not fit, it
is cut to the budget instead and nothing else is written.

Rendering tells the first result from the others by the text written so far being empty. With a
budget of at least one character only the first result meets an empty text, and the rendering is
the greedy one above (`render_context_greedy`). A zero budget cuts the first result to nothing,
so every later result is cut to nothing too and none is counted: the context is then empty
whatever the results (`renderContext_zero_budget`). -/
namespace RepoSearch.Search

/-- The header written above the first block of a file. -/
def fileHeader (path : String) : String := "### " ++ path ++ "\n"

/-- The closing note counting `k` results left out; nothing when none is. -/
def omittedNote (k : Nat) : String :=
  if k > 0 then "(" ++ toString k ++ " more chunks omitted)\n" else ""

/-- The results in the order rendering visits them. -/
def visitOrder (results : List SearchResult) : List SearchResult :=
  (groupByFile results).flatMap Prod.snd

/-! ### Grouping by file -/

/-- The files listed so far, with the file of one more result added unless listed. -/
def addFile (files : List String) (r : SearchResult) : List String :=
  if files.contains r.chunk.filePath then files else files ++ [r.chunk.filePath]

theorem groupByFile_eq (results : List SearchResult) :
    groupByFile results =
      (results.foldl addFile []).map fun f => (f, results.filter (·.chunk.filePath == f)) := rfl

theorem foldl_addFile_nodup (results : List SearchResult) {files : List String}
    (distinct : files.Nodup) : (results.foldl addFile files).Nodup := by
  induction results generalizing files with
  | nil => exact distinct
  | cons r rest ih =>
    apply ih
    unfold addFile
    split
    · exact distinct
    · next fresh =>
      refine List.nodup_append.mpr ⟨distinct, List.nodup_singleton _, ?_⟩
      intro a listed b added same
      rw [List.mem_singleton.mp added] at same
      exact fresh (List.elem_iff.mpr (same ▸ listed))

theorem mem_foldl_addFile (results : List SearchResult) {files : List String} {f : String} :
    f ∈ results.foldl addFile files ↔ f ∈ files ∨ ∃ r ∈ results, r.chunk.filePath = f := by
  induction results generalizing files with
  | nil => simp
  | cons r rest ih =>
    rw [List.foldl_cons, ih]
    have step : f ∈ addFile files r ↔ f ∈ files ∨ r.chunk.filePath = f := by
      unfold addFile
      split
      · next listed =>
        have held := List.elem_iff.mp listed
        constructor
        · exact .inl
        · rintro (old | rfl)
          · exact old
          · exact held
      · simp [eq_comm]
    rw [step]
    simp only [List.mem_cons, exists_eq_or_imp]
    tauto

theorem foldl_addFile_prefix (results : List SearchResult) (files : List String) :
    ∃ later, results.foldl addFile files = files ++ later := by
  induction results generalizing files with
  | nil => exact ⟨[], by simp⟩
  | cons r rest ih =>
    obtain ⟨later, grown⟩ := ih (addFile files r)
    rw [List.foldl_cons, grown]
    unfold addFile
    split
    · exact ⟨later, rfl⟩
    · exact ⟨[r.chunk.filePath] ++ later, by simp⟩

theorem flatMap_filter_perm :
    ∀ {files : List String} {l : List SearchResult}, files.Nodup →
      (∀ r ∈ l, r.chunk.filePath ∈ files) →
      (files.flatMap fun f => l.filter (·.chunk.filePath == f)).Perm l
  | [], l, _, covered => by
    have empty : l = [] := List.eq_nil_iff_forall_not_mem.mpr fun r mem => by
      simpa using covered r mem
    simp [empty]
  | f :: rest, l, distinct, covered => by
    obtain ⟨fresh, distinct⟩ := List.nodup_cons.mp distinct
    -- the later files take their results from those of other files than `f`
    let others := l.filter fun r => !(r.chunk.filePath == f)
    have later : (rest.flatMap fun g => l.filter (·.chunk.filePath == g)) =
        rest.flatMap fun g => others.filter (·.chunk.filePath == g) := by
      refine List.flatMap_congr fun g listed => ?_
      rw [List.filter_filter]
      refine List.filter_congr fun r _ => ?_
      by_cases same : r.chunk.filePath = g
      · have other : r.chunk.filePath ≠ f := fun eq => fresh (eq ▸ same ▸ listed)
        simp [same, show g ≠ f from same ▸ other]
      · simp [same]
    have coveredOthers : ∀ r ∈ others, r.chunk.filePath ∈ rest := by
      intro r mem
      obtain ⟨held, other⟩ := List.mem_filter.mp mem
      rcases List.mem_cons.mp (covered r held) with same | listed
      · simp [same] at other
      · exact listed
    rw [List.flatMap_cons, later]
    exact ((flatMap_filter_perm distinct coveredOthers).append_left _).trans
      (List.filter_append_perm _ l)

theorem visitOrder_perm (results : List SearchResult) : (visitOrder results).Perm results := by
  rw [visitOrder, groupByFile_eq, List.flatMap_map]
  apply flatMap_filter_perm (foldl_addFile_nodup results List.nodup_nil)
  intro r mem
  exact (mem_foldl_addFile results).mpr (.inr ⟨r, mem, rfl⟩)

theorem visitOrder_head? (results : List SearchResult) :
    (visitOrder results).head? = results.head? := by
  cases results with
  | nil => rfl
  | cons r rest =>
    obtain ⟨later, files⟩ := foldl_addFile_prefix rest [r.chunk.filePath]
    have first : (r :: rest).foldl addFile [] = r.chunk.filePath :: later := by
      rw [List.foldl_cons, show addFile [] r = [r.chunk.filePath] from rfl, files]
      rfl
    rw [visitOrder, groupByFile_eq, first]
    simp

theorem groupByFile_files_nodup (results : List SearchResult) :
    ((groupByFile results).map Prod.fst).Nodup := by
  rw [groupByFile_eq, List.map_map]
  simpa [Function.comp_def] using foldl_addFile_nodup results List.nodup_nil

theorem groupByFile_own (results : List SearchResult) :
    ∀ g ∈ groupByFile results, ∀ r ∈ g.2, r.chunk.filePath = g.1 := by
  intro g listed r mem
  rw [groupByFile_eq] at listed
  obtain ⟨f, -, rfl⟩ := List.mem_map.mp listed
  simpa using (List.mem_filter.mp mem).2

/-! ### The greedy rendering -/

/-- The header still to write before a result of the file `path` after the decisions `d`, each
a visited result with whether it was written: none once a result of the file is written. -/
def headerFor (d : List (SearchResult × Bool)) (path : String) : String :=
  if d.any (fun e => e.2 && e.1.chunk.filePath == path) then "" else fileHeader path

/-- What writing a result adds after the decisions `d`: the header still to write, then the
result's block. -/
def piece (d : List (SearchResult × Bool)) (r : SearchResult) : String :=
  headerFor d r.chunk.filePath ++ resultBlock r

/-- `Greedy budget d body`: the decisions `d` write a result exactly when its piece fits in
what the pieces written before it left of the budget, and `body` is the text of the pieces
written. -/
inductive Greedy (budget : Nat) : List (SearchResult × Bool) → String → Prop
  | nil : Greedy budget [] ""
  | write {d : List (SearchResult × Bool)} {body : String} {r : SearchResult} :
      Greedy budget d body → body.length + (piece d r).length ≤ budget →
      Greedy budget (d ++ [(r, true)]) (body ++ piece d r)
  | leave {d : List (SearchResult × Bool)} {body : String} {r : SearchResult} :
      Greedy budget d body → budget < body.length + (piece d r).length →
      Greedy budget (d ++ [(r, false)]) body

theorem resultBlock_length_pos (r : SearchResult) : 0 < (resultBlock r).length := by
  unfold resultBlock
  rw [String.length_append]
  exact Nat.lt_add_left _ (by decide)

theorem piece_length_pos (d : List (SearchResult × Bool)) (r : SearchResult) :
    0 < (piece d r).length := by
  have := resultBlock_length_pos r
  simp only [piece, String.length_append]
  omega

theorem headerFor_append_leave (d : List (SearchResult × Bool)) (r : SearchResult) (path : String) :
    headerFor (d ++ [(r, false)]) path = headerFor d path := by
  simp only [headerFor, List.any_append, List.any_cons, List.any_nil, Bool.false_and, Bool.or_false]

theorem headerFor_append_write (d : List (SearchResult × Bool)) (r : SearchResult) :
    headerFor (d ++ [(r, true)]) r.chunk.filePath = "" := by
  simp [headerFor]

namespace Greedy

variable {budget : Nat} {d : List (SearchResult × Bool)} {body : String}

theorem length_le (h : Greedy budget d body) : body.length ≤ budget := by
  induction h with
  | nil => exact Nat.zero_le _
  | write _ fits => rw [String.length_append]; exact fits
  | leave _ _ ih => exact ih

theorem body_of_nil (h : Greedy budget d body) (empty : d = []) : body = "" := by
  cases h with
  | nil => rfl
  | write _ _ => simp at empty
  | leave _ _ => simp at empty

theorem first_written_iff (h : Greedy budget d body) {r : SearchResult} {b : Bool}
    {rest : List (SearchResult × Bool)} (starts : d = (r, b) :: rest) :
    b = true ↔ (piece [] r).length ≤ budget := by
  induction h generalizing rest with
  | nil => cases starts
  | @write d' body' r' prev fits ih =>
    cases d' with
    | nil =>
      simp only [List.nil_append, List.cons.injEq, Prod.mk.injEq] at starts
      obtain ⟨⟨rfl, rfl⟩, -⟩ := starts
      rw [body_of_nil prev rfl] at fits
      simpa using fits
    | cons e d'' =>
      simp only [List.cons_append, List.cons.injEq] at starts
      exact ih (show e :: d'' = (r, b) :: d'' by rw [starts.1])
  | @leave d' body' r' prev overflow ih =>
    cases d' with
    | nil =>
      simp only [List.nil_append, List.cons.injEq, Prod.mk.injEq] at starts
      obtain ⟨⟨rfl, rfl⟩, -⟩ := starts
      rw [body_of_nil prev rfl] at overflow
      simp only [Bool.false_eq_true, false_iff, not_le]
      simpa using overflow
    | cons e d'' =>
      simp only [List.cons_append, List.cons.injEq] at starts
      exact ih (show e :: d'' = (r, b) :: d'' by rw [starts.1])

theorem body_ne_empty (h : Greedy budget d body) {r : SearchResult}
    {rest : List (SearchResult × Bool)} (starts : d = (r, true) :: rest) : body ≠ "" := by
  induction h generalizing rest with
  | nil => cases starts
  | @write d' body' r' _ _ _ =>
    intro empty
    have := congrArg String.length empty
    have := piece_length_pos d' r'
    simp only [String.length_append, String.length_empty] at *
    omega
  | @leave d' body' r' prev _ ih =>
    cases d' with
    | nil => simp at starts
    | cons e d'' =>
      simp only [List.cons_append, List.cons.injEq] at starts
      exact ih (by rw [starts.1])

end Greedy

/-! ### Rendering one result -/

section Steps

variable {budget : Nat} {s : Rendering} {header : String} {r : SearchResult}

theorem add_of_fits (fits : s.used + (header.length + (resultBlock r).length) ≤ budget) :
    Rendering.add budget (s, header) r =
      ({ s with out := s.out ++ header ++ resultBlock r,
                used := s.used + (header.length + (resultBlock r).length) }, "") := by
  simp [Rendering.add, fits]

theorem add_of_first (overflow : budget < s.used + (header.length + (resultBlock r).length))
    (empty : s.out = "") :
    Rendering.add budget (s, header) r =
      ({ s with out := String.ofList ((header ++ resultBlock r).toList.take budget), used := budget },
        "") := by
  simp [Rendering.add, Nat.not_le.mpr overflow, empty]

theorem add_of_full (overflow : budget < s.used + (header.length + (resultBlock r).length))
    (written : s.out ≠ "") :
    Rendering.add budget (s, header) r = ({ s with omitted := s.omitted + 1 }, header) := by
  simp [Rendering.add, Nat.not_le.mpr overflow, String.isEmpty_iff, written]

end Steps

/-- Rendering follows the greedy rendering of the decisions `d`: it has written their greedy
text, counted that text as used and the results left out as omitted, and the first result, if
any, was written. -/
structure Follows (budget : Nat) (d : List (SearchResult × Bool)) (s : Rendering) : Prop where
  greedy : Greedy budget d s.out
  used : s.used = s.out.length
  omitted : s.omitted = d.countP (fun e => !e.2)
  first_written : ∀ e ∈ d.head?, e.2 = true

/-- Rendering has cut the first result, whose piece overflows the budget, to the budget, used the
whole budget, and counted `n` results left out after it. -/
structure CutFirst (budget : Nat) (first : SearchResult) (n : Nat) (s : Rendering) : Prop where
  overflows : budget < (piece [] first).length
  out : s.out = String.ofList ((piece [] first).toList.take budget)
  used : s.used = budget
  omitted : s.omitted = n

/-- Where rendering stands after visiting `visited`: following the greedy rendering, or past a
cut first result. -/
def Rendered (budget : Nat) (visited : List SearchResult) (s : Rendering) : Prop :=
  (∃ d, d.map Prod.fst = visited ∧ Follows budget d s) ∨
    ∃ first rest, visited = first :: rest ∧ CutFirst budget first rest.length s

/-- Where rendering stands inside the results of the file `path`, with the header it still has
to write before the next one. -/
def Stage (budget : Nat) (path : String) (visited : List SearchResult) (st : Rendering × String) :
    Prop :=
  (∃ d, d.map Prod.fst = visited ∧ Follows budget d st.1 ∧ st.2 = headerFor d path) ∨
    ∃ first rest, visited = first :: rest ∧ CutFirst budget first rest.length st.1

theorem Follows.nil : Follows budget [] ({} : Rendering) :=
  ⟨.nil, rfl, rfl, fun _ none => by cases none⟩

theorem Follows.eq_nil_of_empty {budget : Nat} {d : List (SearchResult × Bool)} {s : Rendering}
    (follows : Follows budget d s) (empty : s.out = "") : d = [] := by
  cases d with
  | nil => rfl
  | cons e rest =>
    have written := follows.first_written e rfl
    exact absurd empty (follows.greedy.body_ne_empty (show e :: rest = (e.1, true) :: rest by rw [← written]))

theorem CutFirst.add {budget : Nat} {first : SearchResult} {n : Nat} {s : Rendering}
    (pos : 0 < budget) (cut : CutFirst budget first n s) (header : String) (r : SearchResult) :
    CutFirst budget first (n + 1) (Rendering.add budget (s, header) r).1 := by
  have overflow : budget < s.used + (header.length + (resultBlock r).length) := by
    have := resultBlock_length_pos r
    rw [cut.used]
    omega
  have written : s.out ≠ "" := by
    intro empty
    have sized := congrArg String.length (cut.out.symm.trans empty)
    have := piece_length_pos [] first
    simp only [String.length_ofList, List.length_take, String.length_toList,
      String.length_empty] at sized
    omega
  rw [add_of_full overflow written]
  exact ⟨cut.overflows, cut.out, cut.used, by simp [cut.omitted]⟩

/-- One result of the file `path` keeps rendering where the greedy rendering, or the cut first
result, puts it. -/
theorem Stage.add {budget : Nat} {path : String} {visited : List SearchResult}
    {st : Rendering × String} {r : SearchResult} (pos : 0 < budget)
    (stage : Stage budget path visited st) (own : r.chunk.filePath = path) :
    Stage budget path (visited ++ [r]) (Rendering.add budget st r) := by
  obtain ⟨s, header⟩ := st
  rcases stage with ⟨d, rfl, follows, rfl⟩ | ⟨first, rest, rfl, cut⟩
  · change Follows budget d s at follows
    have needed : (headerFor d path).length + (resultBlock r).length = (piece d r).length := by
      simp [piece, own, String.length_append]
    by_cases fits : s.used + ((headerFor d path).length + (resultBlock r).length) ≤ budget
    · -- the piece fits: it is written and the file's header is done
      rw [add_of_fits fits]
      refine .inl ⟨d ++ [(r, true)], by simp, ⟨?_, ?_, ?_, ?_⟩, ?_⟩
      · have written := follows.greedy.write (r := r) (by rw [← follows.used, ← needed]; exact fits)
        simpa [piece, own, String.append_assoc] using written
      · simp only [String.length_append, follows.used]
        omega
      · simp [follows.omitted]
      · intro e first
        cases d with
        | nil => simp at first; simp [← first]
        | cons e' d' => exact follows.first_written e (by simpa using first)
      · rw [← own, headerFor_append_write]
    · have overflow := Nat.lt_of_not_le fits
      by_cases empty : s.out = ""
      · -- nothing is written yet, so this is the first result: it is cut
        obtain rfl := follows.eq_nil_of_empty empty
        rw [add_of_first overflow empty]
        have unused : s.used = 0 := by rw [follows.used, empty]; rfl
        refine .inr ⟨r, [], rfl, ⟨?_, ?_, rfl, ?_⟩⟩
        · rw [← needed, ← Nat.zero_add ((headerFor [] path).length + _), ← unused]
          exact overflow
        · simp [piece, own]
        · simp [follows.omitted]
      · -- something is written, so the piece is left out and counted
        rw [add_of_full overflow empty]
        refine .inl ⟨d ++ [(r, false)], by simp, ⟨?_, follows.used, ?_, ?_⟩, ?_⟩
        · exact follows.greedy.leave (by rw [← follows.used, ← needed]; exact overflow)
        · simp [follows.omitted]
        · intro e first
          cases d with
          | nil => exact absurd (follows.greedy.body_of_nil rfl) empty
          | cons e' d' => exact follows.first_written e (by simpa using first)
        · exact (headerFor_append_leave d r path).symm
  · refine .inr ⟨first, rest ++ [r], rfl, ?_⟩
    simpa using cut.add pos header r

theorem Stage.foldl {budget : Nat} {path : String} (pos : 0 < budget) :
    ∀ (rs : List SearchResult) {visited : List SearchResult} {st : Rendering × String},
      (∀ r ∈ rs, r.chunk.filePath = path) → Stage budget path visited st →
      Stage budget path (visited ++ rs) (rs.foldl (Rendering.add budget) st)
  | [], _, _, _, stage => by simpa using stage
  | r :: rest, visited, st, own, stage => by
    have next := stage.add pos (own r (List.mem_cons_self ..))
    simpa using Stage.foldl pos rest (fun r' mem => own r' (List.mem_cons_of_mem _ mem)) next

/-- Rendering one file's results under its header. -/
def renderFile (budget : Nat) (s : Rendering) (g : String × List SearchResult) : Rendering :=
  (g.2.foldl (Rendering.add budget) (s, fileHeader g.1)).1

theorem renderContext_eq (results : List SearchResult) (budget : Nat) :
    renderContext results budget =
      ((groupByFile results).foldl (renderFile budget) {}).out ++
        omittedNote ((groupByFile results).foldl (renderFile budget) {}).omitted := by
  have unfolded : renderContext results budget =
      (let s := (groupByFile results).foldl (renderFile budget) {}
       if s.omitted > 0 then s.out ++ "(" ++ toString s.omitted ++ " more chunks omitted)\n"
       else s.out) := rfl
  rw [unfolded]
  generalize (groupByFile results).foldl (renderFile budget) {} = s
  by_cases some : s.omitted > 0 <;> simp [omittedNote, some, String.append_assoc]

/-- A file's results, none of whose file was visited before, keep rendering where the greedy
rendering, or the cut first result, puts it. -/
theorem Rendered.file {budget : Nat} {visited : List SearchResult} {s : Rendering}
    {g : String × List SearchResult} (pos : 0 < budget) (rendered : Rendered budget visited s)
    (own : ∀ r ∈ g.2, r.chunk.filePath = g.1) (fresh : ∀ r ∈ visited, r.chunk.filePath ≠ g.1) :
    Rendered budget (visited ++ g.2) (renderFile budget s g) := by
  have start : Stage budget g.1 visited (s, fileHeader g.1) := by
    rcases rendered with ⟨d, rfl, follows⟩ | ⟨first, rest, rfl, cut⟩
    · refine .inl ⟨d, rfl, follows, ?_⟩
      have unwritten : d.any (fun e => e.2 && e.1.chunk.filePath == g.1) = false := by
        rw [List.any_eq_false]
        intro e mem
        have := fresh e.1 (List.mem_map_of_mem mem)
        simp [this]
      simp [headerFor, unwritten]
    · exact .inr ⟨first, rest, rfl, cut⟩
  rcases Stage.foldl pos g.2 own start with ⟨d, visits, follows, -⟩ | cut
  · exact .inl ⟨d, visits, follows⟩
  · exact .inr cut

theorem Rendered.foldl {budget : Nat} (pos : 0 < budget) :
    ∀ (gs : List (String × List SearchResult)) {visited : List SearchResult} {s : Rendering},
      (∀ g ∈ gs, ∀ r ∈ g.2, r.chunk.filePath = g.1) → (gs.map Prod.fst).Nodup →
      (∀ g ∈ gs, ∀ r ∈ visited, r.chunk.filePath ≠ g.1) → Rendered budget visited s →
      Rendered budget (visited ++ gs.flatMap Prod.snd) (gs.foldl (renderFile budget) s)
  | [], _, _, _, _, _, rendered => by simpa using rendered
  | g :: rest, visited, s, own, distinct, fresh, rendered => by
    obtain ⟨notLater, distinct⟩ := List.nodup_cons.mp distinct
    have next := rendered.file pos (own g (List.mem_cons_self ..))
      (fresh g (List.mem_cons_self ..))
    -- the file's results are of its own file, which no later file is
    have freshLater : ∀ g' ∈ rest, ∀ r ∈ visited ++ g.2, r.chunk.filePath ≠ g'.1 := by
      intro g' later r mem
      rcases List.mem_append.mp mem with old | mine
      · exact fresh g' (List.mem_cons_of_mem _ later) r old
      · rw [own g (List.mem_cons_self ..) r mine]
        exact fun same => notLater (same ▸ List.mem_map_of_mem later)
    have done := Rendered.foldl pos rest (fun g' later => own g' (List.mem_cons_of_mem _ later))
      distinct freshLater next
    simpa using done

theorem rendered_visitOrder (results : List SearchResult) {budget : Nat} (pos : 0 < budget) :
    Rendered budget (visitOrder results) ((groupByFile results).foldl (renderFile budget) {}) := by
  have done := Rendered.foldl pos (groupByFile results) (groupByFile_own results)
    (groupByFile_files_nodup results) (fun _ _ _ none => by cases none) (.inl ⟨[], rfl, .nil⟩)
  simpa [visitOrder] using done

/-- Rendering within a budget of at least one character: every result is visited once, the first
one first. When the first result's piece overflows the budget, the context is that piece cut to
the budget, followed by the note counting every other result. Otherwise the context is the
greedy text of the results in visit order, within the budget, followed by the note counting the
results it leaves out. -/
theorem render_context_greedy (results : List SearchResult) (budget : Nat) (pos : 0 < budget) :
    (visitOrder results).Perm results ∧ (visitOrder results).head? = results.head? ∧
    (∀ first ∈ results.head?, budget < (piece [] first).length →
      renderContext results budget =
        String.ofList ((piece [] first).toList.take budget) ++ omittedNote (results.length - 1)) ∧
    ((∀ first ∈ results.head?, (piece [] first).length ≤ budget) →
      ∃ d body, d.map Prod.fst = visitOrder results ∧ Greedy budget d body ∧
        body.length ≤ budget ∧
        renderContext results budget = body ++ omittedNote (results.length - d.countP (·.2))) := by
  have visits := visitOrder_perm results
  have starts := visitOrder_head? results
  have rendered := rendered_visitOrder results pos
  refine ⟨visits, starts, fun first listed overflow => ?_, fun fits => ?_⟩
  · rcases rendered with ⟨d, order, follows⟩ | ⟨first', rest, order, cut⟩
    · exfalso
      obtain ⟨e, rest, rfl⟩ : ∃ e rest, d = e :: rest := by
        cases d with
        | nil =>
          have none : results.head? = none := by rw [← starts, ← order]; rfl
          simp [none] at listed
        | cons e rest => exact ⟨e, rest, rfl⟩
      have same : e.1 = first := by
        have := congrArg List.head? order
        simp only [List.map_cons, List.head?_cons, starts] at this
        exact Option.some.inj (this.trans listed)
      have written := follows.first_written e rfl
      have := (follows.greedy.first_written_iff (r := e.1) (b := e.2) rfl).mp written
      rw [same] at this
      omega
    · have same : first' = first := by
        have head : results.head? = some first' := by rw [← starts, order]; rfl
        rw [Option.mem_def, head] at listed
        exact Option.some.inj listed
      have count : rest.length = results.length - 1 := by
        rw [← visits.length_eq, order]
        simp
      rw [renderContext_eq, cut.out, cut.omitted, same, count]
  · rcases rendered with ⟨d, order, follows⟩ | ⟨first, rest, order, cut⟩
    · refine ⟨d, _, order, follows.greedy, follows.greedy.length_le, ?_⟩
      have sized : d.length = results.length := by
        rw [← visits.length_eq, ← order, List.length_map]
      have split : d.length = d.countP (·.2) + d.countP (fun e => !e.2) := by
        rw [@List.length_eq_countP_add_countP _ (·.2) d]
        simp
      have left : d.countP (fun e => !e.2) = results.length - d.countP (·.2) := by omega
      rw [renderContext_eq, follows.omitted, left]
    · -- a cut first result overflows, which the first result does not
      exfalso
      have listed : first ∈ results.head? := by simp [← starts, order]
      have := fits first listed
      have := cut.overflows
      omega

/-- Two results of two files within 300 characters. -/
theorem two_files_rendered_greedily :
    let results : List SearchResult :=
      [⟨{ (default : Chunk) with filePath := "a.md", content := "alpha" }, 0, 0, 0, 0, 1, [],
          "general relevance"⟩,
       ⟨{ (default : Chunk) with filePath := "b.md", content := "beta" }, 0, 0, 0, 0, 0.5, [],
          "general relevance"⟩]
    0 < 300 ∧
    (visitOrder results).Perm results ∧ (visitOrder results).head? = results.head? ∧
    (∀ first ∈ results.head?, 300 < (piece [] first).length →
      renderContext results 300 =
        String.ofList ((piece [] first).toList.take 300) ++ omittedNote (results.length - 1)) ∧
    ((∀ first ∈ results.head?, (piece [] first).length ≤ 300) →
      ∃ d body, d.map Prod.fst = visitOrder results ∧ Greedy 300 d body ∧
        body.length ≤ 300 ∧
        renderContext results 300 = body ++ omittedNote (results.length - d.countP (·.2))) :=
  ⟨by decide, render_context_greedy _ 300 (by decide)⟩

theorem renderContext_zero_budget (results : List SearchResult) : renderContext results 0 = "" := by
  have step : ∀ (header : String) (r : SearchResult), Rendering.add 0 ({}, header) r = ({}, "") := by
    intro header r
    have overflow : 0 < ({} : Rendering).used + (header.length + (resultBlock r).length) := by
      have := resultBlock_length_pos r
      show 0 < 0 + _
      omega
    rw [add_of_first overflow rfl, List.take_zero, String.ofList_nil]
  have file : ∀ (rs : List SearchResult) (header : String),
      (rs.foldl (Rendering.add 0) ({}, header)).1 = {} := by
    intro rs
    induction rs with
    | nil => intro header; rfl
    | cons r rest ih => intro header; rw [List.foldl_cons, step, ih]
  have files : ∀ gs : List (String × List SearchResult), gs.foldl (renderFile 0) {} = {} := by
    intro gs
    induction gs with
    | nil => rfl
    | cons g rest ih => rw [List.foldl_cons, show renderFile 0 {} g = {} from file g.2 _, ih]
  rw [renderContext_eq, files]
  rfl

/-- With a zero budget, two results of two files render as nothing at all: the second result is
neither written nor counted, where a note counting it would read `(1 more chunks omitted)`. -/
theorem zero_budget_drops_omitted_note :
    let results : List SearchResult :=
      [⟨{ (default : Chunk) with filePath := "a.md", content := "alpha" }, 0, 0, 0, 0, 1, [],
          "general relevance"⟩,
       ⟨{ (default : Chunk) with filePath := "b.md", content := "beta" }, 0, 0, 0, 0, 0.5, [],
          "general relevance"⟩]
    renderContext results 0 = "" ∧
      omittedNote (results.length - 1) = "(1 more chunks omitted)\n" :=
  ⟨renderContext_zero_budget _, rfl⟩

end RepoSearch.Search
