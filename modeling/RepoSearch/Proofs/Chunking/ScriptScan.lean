import RepoSearch.Proofs.Chunking.Symbols
/-! The scan of a script source, read as a fold over the lines it reaches. From the first line
on, the scan passes over an import statement as a whole and over every other line on its own, so
the lines it reaches cover the document once. On each it finds a statement, a blank line or
another line, and what it collects follows from that list alone: the import chunks are the runs
of statements that no other line separates, blank lines being passed over, and the symbol chunks
are the declarations on the other lines, each over its line and the lookahead after it.

* `visits_found`, `visits_pairwise`, `countP_covers_visits`: the lines the scan reaches;
* `scanFrom_eq_foldl`: the scan is a fold of one step over those lines;
* `scriptChunks_imports`, `scriptChunks_declarations`: the import and symbol chunks;
* `scriptChunks_runs_and_declarations`: the chunks of a script source, with the lines reached. -/
namespace RepoSearch.Chunking

open RepoSearch.Text

namespace Script

/-- A line the scan reaches and what it finds there: an import statement from line `line` to
line `stop` naming a module by `symbol`, a blank line, or another line. -/
inductive Visit where
  | statement (line stop : Nat) (symbol : Symbol)
  | blank (line : Nat)
  | other (line : Nat)
  deriving DecidableEq

namespace Visit

/-- The line a visit starts on. -/
def first : Visit → Nat
  | statement line _ _ => line
  | blank line => line
  | other line => line

/-- The line a visit ends on: where its statement ends, or its own line. -/
def last : Visit → Nat
  | statement _ stop _ => stop
  | blank line => line
  | other line => line

/-- Whether a visit lies over line `n`. -/
def covers (v : Visit) (n : Nat) : Bool := v.first ≤ n && n ≤ v.last

theorem countP_covers_cons (v : Visit) (rest : List Visit) (n : Nat) :
    (v :: rest).countP (·.covers n) = rest.countP (·.covers n) + if v.first ≤ n ∧ n ≤ v.last then 1 else 0 := by
  simp [List.countP_cons, covers]

/-- Whether the visit is to another line, which ends a run of import statements. -/
def isOther : Visit → Bool
  | other _ => true
  | _ => false

/-- The import statement of a visit: its first and last line and the module's symbol. -/
def statement? : Visit → Option (Nat × Nat × Symbol)
  | statement line stop symbol => some (line, stop, symbol)
  | _ => none

/-- The declaration made on another line. -/
def declaration? (d : Document) (t : Tunables) : Visit → Option Symbol
  | other line => declaration t (d.line line) line
  | _ => none

/-- What the scan finds on a line it reaches, as the document decides: an import statement
recognised on its first line and ending within the lookahead and the document, or a line of the
document where no statement starts, blank or not. -/
def Found (d : Document) (t : Tunables) : Visit → Prop
  | statement line stop symbol =>
    line ≤ stop ∧ stop ≤ min (line + t.lookahead) d.lineCount ∧
      importStatement d t line = some (stop, symbol)
  | blank line =>
    line ≤ d.lineCount ∧ importStatement d t line = none ∧ isBlankText (d.line line) = true
  | other line =>
    line ≤ d.lineCount ∧ importStatement d t line = none ∧ isBlankText (d.line line) = false

theorem Found.first_le_last {d : Document} {t : Tunables} {v : Visit} (h : v.Found d t) :
    v.first ≤ v.last := by
  cases v with
  | statement line stop symbol => exact h.1
  | blank line => exact Nat.le_refl _
  | other line => exact Nat.le_refl _

theorem Found.last_le {d : Document} {t : Tunables} {v : Visit} (h : v.Found d t) :
    v.last ≤ d.lineCount := by
  cases v with
  | statement line stop symbol => exact Nat.le_trans h.2.1 (Nat.min_le_right _ _)
  | blank line => exact h.1
  | other line => exact h.1

end Visit

variable {d : Document} {t : Tunables}

/-- The lines the scan reaches from `lineNo` on, with what it finds on each: an import statement
is passed over as a whole, every other line on its own; `fuel` bounds the number of lines. -/
def visitsFrom (d : Document) (t : Tunables) : Nat → Nat → List Visit
  | 0, _ => []
  | fuel + 1, lineNo =>
    if lineNo > d.lineCount then []
    else
      match importStatement d t lineNo with
      | some (stop, symbol) => .statement lineNo stop symbol :: visitsFrom d t fuel (stop + 1)
      | none =>
        (if isBlankText (d.line lineNo) then .blank lineNo else .other lineNo) ::
          visitsFrom d t fuel (lineNo + 1)

/-- The lines the scan of a document reaches, from its first line. -/
def visits (d : Document) (t : Tunables) : List Visit := visitsFrom d t (d.lineCount + 1) 1

/-! ### The lines reached -/

theorem visitsFrom_found : ∀ fuel lineNo, ∀ v ∈ visitsFrom d t fuel lineNo, lineNo ≤ v.first ∧ v.Found d t := by
  intro fuel
  induction fuel with
  | zero => intro lineNo v mem; cases mem
  | succ fuel ih =>
    intro lineNo v mem
    simp only [visitsFrom] at mem
    split at mem
    · cases mem
    · next inDocument =>
      split at mem
      · next stop symbol found =>
        obtain ⟨-, after, within⟩ := importStatement_eq_some found
        rcases List.mem_cons.mp mem with rfl | later
        · exact ⟨Nat.le_refl _, after, within (by omega), found⟩
        · have := ih _ v later
          exact ⟨by omega, this.2⟩
      · next none =>
        rcases List.mem_cons.mp mem with rfl | later
        · split
          · next blank => exact ⟨Nat.le_refl _, by omega, none, blank⟩
          · next textual => exact ⟨Nat.le_refl _, by omega, none, by simpa using textual⟩
        · have := ih _ v later
          exact ⟨by omega, this.2⟩

theorem visitsFrom_pairwise : ∀ fuel lineNo,
    (visitsFrom d t fuel lineNo).Pairwise (fun a b => a.last < b.first) := by
  intro fuel
  induction fuel with
  | zero => intro lineNo; exact List.Pairwise.nil
  | succ fuel ih =>
    intro lineNo
    simp only [visitsFrom]
    split
    · exact List.Pairwise.nil
    · split
      · next stop symbol found =>
        refine List.Pairwise.cons (fun b later => ?_) (ih _)
        exact Nat.lt_of_lt_of_le (Nat.lt_succ_self stop) (visitsFrom_found fuel _ b later).1
      · refine List.Pairwise.cons (fun b later => ?_) (ih _)
        have := (visitsFrom_found fuel _ b later).1
        split <;> exact this

theorem countP_covers_visitsFrom (n : Nat) : ∀ fuel lineNo, d.lineCount + 2 ≤ fuel + lineNo →
    (visitsFrom d t fuel lineNo).countP (·.covers n) = if lineNo ≤ n ∧ n ≤ d.lineCount then 1 else 0 := by
  intro fuel
  induction fuel with
  | zero => intro lineNo enough; simp only [visitsFrom, List.countP_nil]; split <;> omega
  | succ fuel ih =>
    intro lineNo enough
    simp only [visitsFrom]
    split
    · simp only [List.countP_nil]; split <;> omega
    · next inDocument =>
      split
      · next stop symbol found =>
        -- the statement covers its lines, and the rest of the scan the lines after it
        obtain ⟨-, after, within⟩ := importStatement_eq_some found
        have inside := within (by omega)
        rw [Visit.countP_covers_cons, ih _ (by omega)]
        show (if stop + 1 ≤ n ∧ n ≤ d.lineCount then 1 else 0) + (if lineNo ≤ n ∧ n ≤ stop then 1 else 0) = _
        split <;> split <;> split <;> omega
      · have alone : ∀ v : Visit, v.first = lineNo → v.last = lineNo →
            (v :: visitsFrom d t fuel (lineNo + 1)).countP (·.covers n) =
              if lineNo ≤ n ∧ n ≤ d.lineCount then 1 else 0 := by
          intro v first last
          rw [Visit.countP_covers_cons, ih _ (by omega), first, last]
          split <;> split <;> split <;> omega
        split
        · exact alone _ rfl rfl
        · exact alone _ rfl rfl

theorem visits_found : ∀ v ∈ visits d t, 1 ≤ v.first ∧ v.Found d t :=
  visitsFrom_found _ _

theorem visits_pairwise : (visits d t).Pairwise (fun a b => a.last < b.first) :=
  visitsFrom_pairwise _ _

theorem countP_covers_visits {n : Nat} (first : 1 ≤ n) (last : n ≤ d.lineCount) :
    (visits d t).countP (·.covers n) = 1 := by
  rw [visits, countP_covers_visitsFrom n _ _ (by omega), if_pos ⟨first, last⟩]

/-! ### The scan as a fold -/

/-- The open run extended by an import statement from `lineNo` to `stop`, or started by it. -/
def extendRun (run : Option ImportRun) (lineNo stop : Nat) (symbol : Symbol) : ImportRun :=
  match run with
  | some r => { r with stop, symbols := r.symbols ++ [symbol] }
  | none => ⟨lineNo, stop, [symbol]⟩

/-- The import chunk of a run: its lines, naming its modules. -/
def runChunk (d : Document) (r : ImportRun) : Chunk := d.chunk r.start r.stop .import r.symbols

/-- The symbol chunk of a declaration on line `lineNo`: the line and the lookahead after it,
within the document, holding the declaration's symbol. -/
def declarationChunk (d : Document) (t : Tunables) (lineNo : Nat) (symbol : Symbol) : Chunk :=
  d.chunk lineNo (min (lineNo + t.lookahead) d.lineCount) .symbol [symbol]

/-- The comment chunk of a doc comment opening on line `lineNo` and ending on line `stop`. -/
def commentChunk (d : Document) (lineNo stop : Nat) : Chunk := d.chunk lineNo stop .comment []

/-- What the scan does on a line it reaches: a statement extends the open run or starts one, a
blank line changes nothing, and another line closes the run and adds the chunk of a declaration
and of a doc comment made there. -/
def Scan.visit (d : Document) (t : Tunables) (s : Scan) : Visit → Scan
  | .statement lineNo stop symbol => { s with run := some (extendRun s.run lineNo stop symbol) }
  | .blank _ => s
  | .other lineNo =>
    { s.closeRun d with
      chunks := (s.closeRun d).chunks ++
        ((declaration t (d.line lineNo) lineNo).map (declarationChunk d t lineNo)).toList
      comments := (s.closeRun d).comments ++ ((docCommentEnd d lineNo).map (commentChunk d lineNo)).toList }

theorem Scan.closeRun_chunks (s : Scan) :
    (s.closeRun d).chunks = s.chunks ++ (s.run.map (runChunk d)).toList := by
  unfold Scan.closeRun
  split <;> simp_all [runChunk]

theorem Scan.closeRun_comments (s : Scan) : (s.closeRun d).comments = s.comments := by
  unfold Scan.closeRun
  split <;> rfl

theorem Scan.closeRun_run (s : Scan) : (s.closeRun d).run = none := by
  unfold Scan.closeRun
  split
  · rfl
  · assumption

theorem scanFrom_eq_foldl : ∀ fuel lineNo (s : Scan),
    scanFrom d t fuel lineNo s = (visitsFrom d t fuel lineNo).foldl (Scan.visit d t) s := by
  intro fuel
  induction fuel with
  | zero => intro lineNo s; rfl
  | succ fuel ih =>
    intro lineNo s
    by_cases beyond : lineNo > d.lineCount
    · simp only [scanFrom, visitsFrom, if_pos beyond, List.foldl_nil]
    · cases found : importStatement d t lineNo with
      | some statement =>
        obtain ⟨stop, symbol⟩ := statement
        simp only [scanFrom, visitsFrom, if_neg beyond, found, List.foldl_cons, ← ih]
        rfl
      | none =>
        by_cases blank : isBlankText (d.line lineNo) = true
        · simp only [scanFrom, visitsFrom, if_neg beyond, found, if_pos blank, List.foldl_cons, ← ih]
          rfl
        · simp only [scanFrom, visitsFrom, if_neg beyond, found, if_neg blank, List.foldl_cons, ← ih]
          congr 1
          simp only [Scan.visit]
          split <;> split <;> simp_all [declarationChunk, commentChunk]

@[simp] theorem runChunk_kind (r : ImportRun) : (runChunk d r).kind = .import := rfl

@[simp] theorem declarationChunk_kind (lineNo : Nat) (symbol : Symbol) :
    (declarationChunk d t lineNo symbol).kind = .symbol := rfl

@[simp] theorem commentChunk_kind (lineNo stop : Nat) : (commentChunk d lineNo stop).kind = .comment := rfl

/-! ### Import runs -/

/-- The run of a list of statements that is not empty: from the first one's first line to the
last one's last line, naming each statement's module in order. -/
def runOf? : List (Nat × Nat × Symbol) → Option ImportRun
  | [] => none
  | (line, stop, symbol) :: rest =>
    some ⟨line, (rest.getLast?.map (·.2.1)).getD stop, symbol :: rest.map (·.2.2)⟩

/-- The import runs among the lines reached: the lines between two other lines, or before the
first or after the last, are a group, and the statements of a group that holds one are a run. -/
def importRuns (vs : List Visit) : List ImportRun :=
  ((vs.splitOnP Visit.isOther).map (·.filterMap Visit.statement?)).filterMap runOf?

theorem runOf?_append (pending : List (Nat × Nat × Symbol)) (line stop : Nat) (symbol : Symbol) :
    runOf? (pending ++ [(line, stop, symbol)]) = some (extendRun (runOf? pending) line stop symbol) := by
  cases pending with
  | nil => rfl
  | cons first rest =>
    obtain ⟨l, s, y⟩ := first
    simp [runOf?, extendRun]

theorem map_modifyHead {α β : Type} {f : α → β} {g : α → α} {h : β → β}
    (comm : ∀ a, f (g a) = h (f a)) (l : List α) : (l.modifyHead g).map f = (l.map f).modifyHead h := by
  cases l <;> simp [comm]

theorem statementGroups_cons {v : Visit} (continues : v.isOther = false) (vs : List Visit) :
    ((v :: vs).splitOnP Visit.isOther).map (·.filterMap Visit.statement?) =
      ((vs.splitOnP Visit.isOther).map (·.filterMap Visit.statement?)).modifyHead
        ((v.statement?.toList) ++ ·) := by
  rw [List.splitOnP_cons_eq_if_modifyHead, continues]
  refine map_modifyHead (fun piece => ?_) _
  cases v <;> simp [List.filterMap_cons, Visit.statement?]

theorem foldl_visit_imports : ∀ (vs : List Visit) (s : Scan) (pending : List (Nat × Nat × Symbol)),
    s.run = runOf? pending →
    ((vs.foldl (Scan.visit d t) s).closeRun d).chunks.filter (·.kind == .import) =
      s.chunks.filter (·.kind == .import) ++
        ((((vs.splitOnP Visit.isOther).map (·.filterMap Visit.statement?)).modifyHead
          (pending ++ ·)).filterMap runOf?).map (runChunk d) := by
  intro vs
  induction vs with
  | nil =>
    intro s pending open_
    rw [List.foldl_nil, Scan.closeRun_chunks, open_]
    cases h : runOf? pending <;> simp [List.splitOnP_nil, List.filter_append, h]
  | cons v vs ih =>
    intro s pending open_
    rw [List.foldl_cons]
    cases v with
    | statement line stop symbol =>
      have extended : (s.visit d t (.statement line stop symbol)).run = runOf? (pending ++ [(line, stop, symbol)]) := by
        rw [runOf?_append, ← open_]
        rfl
      have heads : (fun piece => pending ++ piece) ∘ ((Visit.statement line stop symbol).statement?.toList ++ ·) =
          ((pending ++ [(line, stop, symbol)]) ++ ·) := by
        funext piece
        simp [Visit.statement?]
      rw [ih _ _ extended, statementGroups_cons rfl, List.modifyHead_modifyHead, heads]
      rfl
    | blank line =>
      have same : s.visit d t (.blank line) = s := rfl
      rw [same, ih _ _ open_, statementGroups_cons rfl]
      simp [Visit.statement?]
      rfl
    | other line =>
      have closed : (s.visit d t (.other line)).run = runOf? [] := Scan.closeRun_run s
      have ends : (Visit.other line).isOther = true := rfl
      have groups : (((Visit.other line :: vs).splitOnP Visit.isOther).map
          (·.filterMap Visit.statement?)).modifyHead (pending ++ ·) =
          pending :: (vs.splitOnP Visit.isOther).map (·.filterMap Visit.statement?) := by
        rw [List.splitOnP_cons_eq_if_modifyHead, if_pos ends]
        simp
      have fresh : ∀ l : List (List (Nat × Nat × Symbol)), l.modifyHead ([] ++ ·) = l := by
        intro l
        cases l <;> rfl
      rw [ih _ _ closed, fresh, groups, List.filterMap_cons]
      simp only [Scan.visit, Scan.closeRun_chunks, open_, List.filter_append, List.append_assoc]
      cases runOf? pending <;> cases declaration t (d.line line) line <;> simp

theorem foldl_visit_declarations : ∀ (vs : List Visit) (s : Scan),
    ((vs.foldl (Scan.visit d t) s).closeRun d).chunks.filter (·.kind == .symbol) =
      s.chunks.filter (·.kind == .symbol) ++
        vs.filterMap fun v => (v.declaration? d t).map (declarationChunk d t v.first) := by
  intro vs
  induction vs with
  | nil =>
    intro s
    rw [List.foldl_nil, Scan.closeRun_chunks]
    cases s.run <;> simp [List.filter_append]
  | cons v vs ih =>
    intro s
    rw [List.foldl_cons, ih]
    cases v with
    | statement line stop symbol => simp [Scan.visit, Visit.declaration?]
    | blank line => simp [Scan.visit, Visit.declaration?]
    | other line =>
      have declared : (Visit.other line).declaration? d t = declaration t (d.line line) line := rfl
      rw [List.filterMap_cons, declared]
      simp only [Scan.visit, Scan.closeRun_chunks, List.filter_append, List.append_assoc]
      cases s.run <;> cases declaration t (d.line line) line <;> simp [Visit.first]

/-- What kind of chunk a scan has collected: import and symbol chunks, then comment chunks. -/
def Scan.Kinds (s : Scan) : Prop :=
  (∀ c ∈ s.chunks, c.kind ≠ .comment) ∧ ∀ c ∈ s.comments, c.kind = .comment

theorem Scan.Kinds.closeRun {s : Scan} (h : s.Kinds) : (s.closeRun d).Kinds := by
  refine ⟨fun c mem => ?_, fun c mem => h.2 c (by rwa [Scan.closeRun_comments] at mem)⟩
  rw [Scan.closeRun_chunks] at mem
  rcases List.mem_append.mp mem with old | closed
  · exact h.1 c old
  · cases open_ : s.run <;> simp [open_] at closed
    rw [closed]
    simp

theorem Scan.Kinds.foldl : ∀ (vs : List Visit) {s : Scan}, s.Kinds → (vs.foldl (Scan.visit d t) s).Kinds := by
  intro vs
  induction vs with
  | nil => intro s h; exact h
  | cons v vs ih =>
    intro s h
    apply ih
    cases v with
    | statement line stop symbol => exact h
    | blank line => exact h
    | other line =>
      have closed := h.closeRun (d := d)
      refine ⟨fun c mem => ?_, fun c mem => ?_⟩
      · rcases List.mem_append.mp mem with old | declared
        · exact closed.1 c old
        · cases found : declaration t (d.line line) line <;> simp [found] at declared
          rw [declared]
          simp
      · rcases List.mem_append.mp mem with old | commented
        · exact closed.2 c old
        · cases found : docCommentEnd d line <;> simp [found] at commented
          rw [commented]
          simp

/-- The chunks of a script source: the chunks the scan collects over the lines it reaches and then
its comment chunks, or none when it collects no import or symbol chunk. -/
theorem scriptChunks_eq : scriptChunks d t =
    if (((visits d t).foldl (Scan.visit d t) {}).closeRun d).chunks.isEmpty then []
    else (((visits d t).foldl (Scan.visit d t) {}).closeRun d).chunks ++
      (((visits d t).foldl (Scan.visit d t) {}).closeRun d).comments := by
  rw [scriptChunks, scanFrom_eq_foldl]
  rfl

theorem scriptChunks_filter {k : ChunkKind} (notComment : k ≠ .comment) :
    (scriptChunks d t).filter (·.kind == k) =
      (((visits d t).foldl (Scan.visit d t) {}).closeRun d).chunks.filter (·.kind == k) := by
  have kinds := (Scan.Kinds.foldl (d := d) (t := t) (visits d t) (s := {})
    ⟨fun _ none => (by cases none), fun _ none => (by cases none)⟩).closeRun (d := d)
  -- the comment chunks, collected apart, are of another kind
  have comments : (((visits d t).foldl (Scan.visit d t) {}).closeRun d).comments.filter (·.kind == k) = [] := by
    refine List.filter_eq_nil_iff.mpr fun c mem same => ?_
    exact notComment ((beq_iff_eq.mp same).symm.trans (kinds.2 c mem))
  rw [scriptChunks_eq]
  split
  · next empty => rw [List.isEmpty_iff.mp empty]
  · rw [List.filter_append, comments, List.append_nil]

theorem scriptChunks_imports :
    (scriptChunks d t).filter (·.kind == .import) = (importRuns (visits d t)).map (runChunk d) := by
  rw [scriptChunks_filter (by decide), foldl_visit_imports (visits d t) {} [] rfl]
  have fresh : ∀ l : List (List (Nat × Nat × Symbol)), l.modifyHead ([] ++ ·) = l := by
    intro l
    cases l <;> rfl
  rw [fresh]
  rfl

theorem scriptChunks_declarations :
    (scriptChunks d t).filter (·.kind == .symbol) =
      (visits d t).filterMap fun v => (v.declaration? d t).map (declarationChunk d t v.first) := by
  rw [scriptChunks_filter (by decide), foldl_visit_declarations (visits d t) {}]
  rfl

theorem scriptChunks_eq_nil_of_comments (comments : ∀ c ∈ scriptChunks d t, c.kind = .comment) :
    scriptChunks d t = [] := by
  have kinds := (Scan.Kinds.foldl (d := d) (t := t) (visits d t) (s := {})
    ⟨fun _ none => (by cases none), fun _ none => (by cases none)⟩).closeRun (d := d)
  revert comments
  rw [scriptChunks_eq]
  split
  · intro _
    rfl
  · next found =>
    intro comments
    obtain ⟨c, mem⟩ := List.exists_mem_of_ne_nil _ (fun none => found (List.isEmpty_iff.mpr none))
    exact absurd (comments c (List.mem_append_left _ mem)) (kinds.1 c mem)

/-! ### Where the runs lie -/

section Groups

variable {α : Type} {p : α → Bool}

theorem sublist_of_mem_splitOnP : ∀ {xs : List α} {A : List α}, A ∈ xs.splitOnP p → A.Sublist xs := by
  intro xs
  induction xs with
  | nil => intro A mem; simp_all
  | cons x xs ih =>
    intro A mem
    rw [List.splitOnP_cons_eq_if_modifyHead] at mem
    split at mem
    · rcases List.mem_cons.mp mem with rfl | later
      · exact List.nil_sublist _
      · exact (ih later).cons x
    · obtain ⟨B, rest, groups⟩ := List.exists_cons_of_ne_nil (List.splitOnP_ne_nil p xs)
      rw [groups, List.modifyHead_cons] at mem
      rcases List.mem_cons.mp mem with rfl | later
      · exact (ih (groups ▸ List.mem_cons_self)).cons_cons x
      · exact (ih (groups ▸ List.mem_cons_of_mem B later)).cons x

theorem pairwise_splitOnP {R : α → α → Prop} : ∀ {xs : List α}, xs.Pairwise R →
    (xs.splitOnP p).Pairwise (fun A B => ∀ a ∈ A, ∀ b ∈ B, R a b) := by
  intro xs
  induction xs with
  | nil => intro _; simp
  | cons x xs ih =>
    intro ordered
    obtain ⟨first, rest⟩ := List.pairwise_cons.mp ordered
    rw [List.splitOnP_cons_eq_if_modifyHead]
    split
    · exact List.Pairwise.cons (fun B _ a none => by cases none) (ih rest)
    · obtain ⟨B, groups, split⟩ := List.exists_cons_of_ne_nil (List.splitOnP_ne_nil p xs)
      have later := ih rest
      rw [split] at later ⊢
      rw [List.modifyHead_cons]
      obtain ⟨afterB, groupsOrdered⟩ := List.pairwise_cons.mp later
      refine List.Pairwise.cons (fun C inGroups a held c inC => ?_) groupsOrdered
      rcases List.mem_cons.mp held with rfl | inB
      · have inRest : C ∈ xs.splitOnP p := by rw [split]; exact List.mem_cons_of_mem B inGroups
        exact first c ((sublist_of_mem_splitOnP inRest).subset inC)
      · exact afterB C inGroups a inB c inC

end Groups

theorem runOf?_eq_some {sts : List (Nat × Nat × Symbol)} {r : ImportRun} (made : runOf? sts = some r) :
    (∃ st ∈ sts, r.start = st.1) ∧ (∃ st ∈ sts, r.stop = st.2.1) ∧ r.symbols = sts.map (·.2.2) ∧
      ((∀ st ∈ sts, st.1 ≤ st.2.1) → sts.Pairwise (fun a b => a.2.1 < b.1) → r.start ≤ r.stop) := by
  cases sts with
  | nil => cases made
  | cons first rest =>
    obtain ⟨line, stop, symbol⟩ := first
    simp only [runOf?, Option.some.injEq] at made
    subst made
    refine ⟨⟨_, List.mem_cons_self, rfl⟩, ?_, rfl, fun forward ordered => ?_⟩
    · cases last : rest.getLast? with
      | none => exact ⟨_, List.mem_cons_self, by simp⟩
      | some st => exact ⟨st, List.mem_cons_of_mem _ (List.mem_of_getLast? last), by simp⟩
    · -- the first statement ends before the last one starts
      have starts := forward _ List.mem_cons_self
      cases last : rest.getLast? with
      | none => simpa [last] using starts
      | some st =>
        have later := (List.pairwise_cons.mp ordered).1 st (List.mem_of_getLast? last)
        have ends := forward st (List.mem_cons_of_mem _ (List.mem_of_getLast? last))
        simp only [Option.map_some, Option.getD_some]
        dsimp only at starts later
        omega

theorem mem_statements {A : List Visit} {st : Nat × Nat × Symbol} (mem : st ∈ A.filterMap Visit.statement?) :
    Visit.statement st.1 st.2.1 st.2.2 ∈ A := by
  obtain ⟨v, inA, found⟩ := List.mem_filterMap.mp mem
  cases v with
  | statement line stop symbol =>
    cases found
    exact inA
  | blank line => cases found
  | other line => cases found

variable (d t) in
/-- Lines reached as a scan reaches them: each from line 1 on, found as the document says, and
each ending before the next starts. -/
structure Reached (vs : List Visit) : Prop where
  found : ∀ v ∈ vs, 1 ≤ v.first ∧ v.Found d t
  ordered : vs.Pairwise (fun a b => a.last < b.first)

theorem reached_visits : Reached d t (visits d t) := ⟨visits_found, visits_pairwise⟩

/-- The statements of a group of lines reached each start no later than they end, and end before
the next starts. -/
theorem Reached.statements {vs A : List Visit} (h : Reached d t vs) (group : A.Sublist vs) :
    (∀ st ∈ A.filterMap Visit.statement?, 1 ≤ st.1 ∧ st.1 ≤ st.2.1 ∧ st.2.1 ≤ d.lineCount) ∧
      (A.filterMap Visit.statement?).Pairwise (fun a b => a.2.1 < b.1) := by
  refine ⟨fun st mem => ?_, ?_⟩
  · obtain ⟨first, found⟩ := h.found _ (group.subset (mem_statements mem))
    exact ⟨first, found.first_le_last, found.last_le⟩
  · refine List.pairwise_filterMap.mpr ((h.ordered.sublist group).imp fun {a b} before => ?_)
    intro x fromA y fromB
    cases a <;> cases b <;> cases fromA <;> cases fromB
    exact before

theorem Reached.runs_bounds {vs : List Visit} (h : Reached d t vs) :
    ∀ r ∈ importRuns vs, 1 ≤ r.start ∧ r.start ≤ r.stop ∧ r.stop ≤ d.lineCount := by
  intro r mem
  obtain ⟨sts, grouped, made⟩ := List.mem_filterMap.mp mem
  obtain ⟨A, inGroups, rfl⟩ := List.mem_map.mp grouped
  obtain ⟨bounds, ordered⟩ := h.statements (sublist_of_mem_splitOnP inGroups)
  obtain ⟨⟨first, firstListed, starts⟩, ⟨last, lastListed, stops⟩, -, forward⟩ := runOf?_eq_some made
  have := bounds first firstListed
  have := bounds last lastListed
  exact ⟨by omega, forward (fun st mem => (bounds st mem).2.1) ordered, by omega⟩

theorem Reached.runs_pairwise {vs : List Visit} (h : Reached d t vs) :
    (importRuns vs).Pairwise (fun a b => a.stop < b.start) := by
  refine List.pairwise_filterMap.mpr (List.pairwise_map.mpr ((pairwise_splitOnP h.ordered).imp ?_))
  intro A B before r₁ made₁ r₂ made₂
  obtain ⟨-, ⟨last, lastListed, stops⟩, -⟩ := runOf?_eq_some made₁
  obtain ⟨⟨first, firstListed, starts⟩, -⟩ := runOf?_eq_some made₂
  have := before _ (mem_statements lastListed) _ (mem_statements firstListed)
  simp only [Visit.first, Visit.last] at this
  omega

/-! ### The chunks of a script source -/

/-- The scan of a script source reaches every line of the document once, from the first on, alone
or inside an import statement recognised on its first line and ending within the lookahead, and
finds each line blank or not where no statement starts. Comment chunks alone are no match: the
result is empty unless an import or symbol chunk is made. The import chunks are those of the
maximal runs of statements that only blank lines separate, in order: each runs from its first
statement's first line to its last statement's last line, names each statement's module in
order, and ends before the next starts. The symbol chunks are, in order, one for each other line
reached where a declaration is made, from that line to the lookahead after it within the document,
holding the declaration's symbol alone. -/
theorem scriptChunks_runs_and_declarations (d : Document) (t : Tunables) :
    (∀ v ∈ visits d t, 1 ≤ v.first ∧ v.Found d t) ∧
      (visits d t).Pairwise (fun a b => a.last < b.first) ∧
      (∀ n, 1 ≤ n → n ≤ d.lineCount → (visits d t).countP (·.covers n) = 1) ∧
      ((∀ c ∈ scriptChunks d t, c.kind = .comment) → scriptChunks d t = []) ∧
      ((scriptChunks d t).filter (·.kind == .import)).map (fun c => (c.startLine, c.endLine, c.symbols)) =
        (importRuns (visits d t)).map (fun r => (r.start, r.stop, r.symbols)) ∧
      ((scriptChunks d t).filter (·.kind == .import)).Pairwise (fun a b => a.endLine < b.startLine) ∧
      ((scriptChunks d t).filter (·.kind == .symbol)).map (fun c => (c.startLine, c.endLine, c.symbols)) =
        (visits d t).filterMap fun v =>
          (v.declaration? d t).map fun x => (v.first, min (v.first + t.lookahead) d.lineCount, [x]) := by
  have reached := reached_visits (d := d) (t := t)
  have runLines : ∀ r ∈ importRuns (visits d t),
      (runChunk d r).startLine = r.start ∧ (runChunk d r).endLine = r.stop := by
    intro r mem
    obtain ⟨first, ordered, last⟩ := reached.runs_bounds r mem
    exact d.chunk_lines first ordered last _ _
  refine ⟨visits_found, visits_pairwise, fun n first last => countP_covers_visits first last,
    scriptChunks_eq_nil_of_comments, ?_, ?_, ?_⟩
  · rw [scriptChunks_imports, List.map_map]
    refine List.map_congr_left fun r mem => ?_
    obtain ⟨starts, stops⟩ := runLines r mem
    simp only [Function.comp_apply, starts, stops]
    rfl
  · rw [scriptChunks_imports, List.pairwise_map]
    refine reached.runs_pairwise.imp_of_mem fun first second before => ?_
    rw [(runLines _ first).2, (runLines _ second).1]
    exact before
  · rw [scriptChunks_declarations, List.map_filterMap]
    refine List.filterMap_congr fun v mem => ?_
    obtain ⟨first, found⟩ := reached.found v mem
    cases v with
    | statement line stop symbol => rfl
    | blank line => rfl
    | other line =>
      obtain ⟨inDocument, -, -⟩ := found
      have onLine : 1 ≤ line := first
      have window : line ≤ min (line + t.lookahead) d.lineCount := by omega
      show ((declaration t (d.line line) line).map (declarationChunk d t line)).map
          (fun c => (c.startLine, c.endLine, c.symbols)) =
        (declaration t (d.line line) line).map fun x => (line, min (line + t.lookahead) d.lineCount, [x])
      cases declaration t (d.line line) line with
      | none => rfl
      | some x =>
        obtain ⟨starts, stops⟩ := d.chunk_lines onLine window (Nat.min_le_right _ _) .symbol [x]
        simp only [Option.map_some, declarationChunk, starts, stops, Document.chunk_symbols]

/-- An import, a blank line, an import over two lines and a function: the scan passes over the
second statement as a whole, and the two statements make one import chunk over lines 1 to 4. -/
theorem split_import_run_chunked :
    (visits (Document.ofText "app.js" "javascript"
        "import a from 'a';\n\nimport \x7b b,\n  c \x7d from 'b';\nfunction f() \x7b\x7d\n") {}).countP
        (·.covers 4) = 1 ∧
      ((scriptChunks (Document.ofText "app.js" "javascript"
        "import a from 'a';\n\nimport \x7b b,\n  c \x7d from 'b';\nfunction f() \x7b\x7d\n") {}).filter
          (·.kind == .import)).map (fun c => (c.startLine, c.endLine)) = [(1, 4)] := by
  obtain ⟨-, -, covered, -, imports, -⟩ := scriptChunks_runs_and_declarations (Document.ofText "app.js"
    "javascript" "import a from 'a';\n\nimport \x7b b,\n  c \x7d from 'b';\nfunction f() \x7b\x7d\n") {}
  have runs : (importRuns (visits (Document.ofText "app.js" "javascript"
      "import a from 'a';\n\nimport \x7b b,\n  c \x7d from 'b';\nfunction f() \x7b\x7d\n") {})).map
      (fun r => (r.start, r.stop)) = [(1, 4)] := by decide +kernel
  refine ⟨covered 4 (by decide) (by decide), ?_⟩
  have spans := congrArg (List.map fun p => (p.1, p.2.1)) imports
  simp only [List.map_map] at spans
  rw [← runs]
  exact spans
end Script

end RepoSearch.Chunking
