import RepoSearch.Pattern.Basic
/-! Where matches lie. A pattern matched from a position ends at or after it and never past the
end of the text, and every span it records lies inside the match. The successive matches of a
pattern in a text follow one another without overlap. A match consumes at least the fewest
characters its pattern allows, and a span recorded by a group that the pattern follows with a
part consuming a character ends before the match does:

* `matchWith_eq_some`: the continuation of a match attempt sees an end and the spans added;
* `Match.InText`: a match that starts inside the text lies inside it with its spans;
* `matchesFrom_inText`, `matchesFrom_pairwise`: the matches found one after another;
* `matches_consume`: every match of a pattern in a text, with its length and closed spans. -/
namespace RepoSearch.Pattern

namespace Regex

/-- The fewest characters a match of the pattern consumes. -/
def minLength : Regex → Nat
  | .empty => 0
  | .rep _ lo _ _ => lo
  | .seq a b => a.minLength + b.minLength
  | .alt a b => min a.minLength b.minLength
  | .group _ a => a.minLength
  | .textStart | .textEnd | .wordBoundary => 0

/-- Whether every group of the pattern named `name` is followed, inside the pattern, by a part
that consumes a character, so that the span it records ends before the match does. -/
def closes (name : String) : Regex → Bool
  | .seq a b => (0 < b.minLength || a.closes name) && b.closes name
  | .alt a b => a.closes name && b.closes name
  | .group n a => n != name && a.closes name
  | .empty | .rep .. | .textStart | .textEnd | .wordBoundary => true

end Regex

/-- Spans that lie between two positions, each with its start before its stop. -/
def SpansWithin (spans : Spans) (lo hi : Nat) : Prop :=
  ∀ e ∈ spans, lo ≤ e.2.1 ∧ e.2.1 ≤ e.2.2 ∧ e.2.2 ≤ hi

namespace SpansWithin

@[simp] theorem nil (lo hi : Nat) : SpansWithin [] lo hi := fun _ none => nomatch none

theorem widen {spans : Spans} {lo hi lo' hi' : Nat} (h : SpansWithin spans lo hi) (left : lo' ≤ lo)
    (right : hi ≤ hi') : SpansWithin spans lo' hi' := fun e mem => by
  have := h e mem
  omega

theorem append {s₁ s₂ : Spans} {lo hi : Nat} (h₁ : SpansWithin s₁ lo hi) (h₂ : SpansWithin s₂ lo hi) :
    SpansWithin (s₁ ++ s₂) lo hi := fun e mem =>
  (List.mem_append.mp mem).elim (h₁ e) (h₂ e)

theorem cons {spans : Spans} {lo hi : Nat} (h : SpansWithin spans lo hi) (name : String)
    (ordered : lo ≤ hi) : SpansWithin ((name, lo, hi) :: spans) lo hi := by
  intro e mem
  rcases List.mem_cons.mp mem with rfl | old
  · exact ⟨Nat.le_refl _, ordered, Nat.le_refl _⟩
  · exact h e old

theorem get? {spans : Spans} {lo hi : Nat} (h : SpansWithin spans lo hi) {name : String} {a b : Nat}
    (found : spans.get? name = some (a, b)) : lo ≤ a ∧ a ≤ b ∧ b ≤ hi := by
  obtain ⟨⟨_, a', b'⟩, mem, same⟩ := Option.map_eq_some_iff.mp found
  simp only [Prod.mk.injEq] at same
  obtain ⟨rfl, rfl⟩ := same
  exact h _ (List.mem_of_find?_eq_some mem)

end SpansWithin

theorem Spans.mem_of_get? {spans : Spans} {name : String} {a b : Nat}
    (found : spans.get? name = some (a, b)) : (name, a, b) ∈ spans := by
  obtain ⟨⟨name', a', b'⟩, mem, same⟩ := Option.map_eq_some_iff.mp found
  have named : name' = name := by simpa using List.find?_some mem
  simp only [Prod.mk.injEq] at same
  obtain ⟨rfl, rfl⟩ := same
  rw [← named]
  exact List.mem_of_find?_eq_some mem

/-! ### One match attempt -/

theorem runLength_le (s : CharSet) (text : Array Char) : ∀ pos bound, runLength s text pos bound ≤ bound
  | _, 0 => Nat.le_refl 0
  | pos, bound + 1 => by
    have shorter := runLength_le s text (pos + 1) bound
    simp only [runLength]
    split
    · split <;> omega
    · omega

variable {α : Type} {text : Array Char}

theorem counts_findSome?_eq_some {f : Nat → Option α} {n lo : Nat} {greedy : Bool} {r : α}
    (found : (if n < lo then none else
      (if greedy then ((List.range (n - lo + 1)).map (· + lo)).reverse
        else (List.range (n - lo + 1)).map (· + lo)).findSome? f) = some r) :
    ∃ i, lo ≤ i ∧ i ≤ n ∧ f i = some r := by
  split at found
  · cases found
  · obtain ⟨i, mem, hit⟩ := List.exists_of_findSome?_eq_some found
    refine ⟨i, ?_, ?_, hit⟩
    · split at mem <;> simp at mem <;> omega
    · split at mem <;> simp at mem <;> omega

theorem anchor_eq_some {holds : Prop} [Decidable holds] {pos : Nat} {spans : Spans}
    {k : Nat → Spans → Option α} {r : α} (accepted : (if holds then k pos spans else none) = some r) :
    k pos spans = some r := by
  split at accepted
  · exact accepted
  · cases accepted

theorem anchor_ends {p : Regex} (none : p.minLength = 0) {pos : Nat} {spans : Spans}
    {k : Nat → Spans → Option α} {r : α} (accepted : k pos spans = some r) :
    ∃ stop added, pos + p.minLength ≤ stop ∧ stop ≤ max pos text.size ∧ SpansWithin added pos stop ∧
      (∀ name, p.closes name = true → ∀ e ∈ added, e.1 = name → e.2.2 < stop) ∧
      k stop (added ++ spans) = some r := by
  refine ⟨pos, [], by omega, Nat.le_max_left _ _, by simp, ?_, accepted⟩
  intro name closes e mem
  cases mem

theorem matchWith_eq_some : ∀ (p : Regex) {pos : Nat} {spans : Spans} {k : Nat → Spans → Option α}
    {r : α}, matchWith text p pos spans k = some r →
    ∃ stop added, pos + p.minLength ≤ stop ∧ stop ≤ max pos text.size ∧ SpansWithin added pos stop ∧
      (∀ name, p.closes name = true → ∀ e ∈ added, e.1 = name → e.2.2 < stop) ∧
      k stop (added ++ spans) = some r
  | .empty, pos, spans, k, r, accepted => anchor_ends rfl accepted
  | .rep s lo hi greedy, pos, spans, k, r, accepted => by
    simp only [matchWith] at accepted
    obtain ⟨i, least, counted, found⟩ := counts_findSome?_eq_some accepted
    -- the run fits in the room left, whatever bound the repetition has
    have fits : i ≤ text.size - pos := by
      refine Nat.le_trans (Nat.le_trans counted (runLength_le s text pos _)) ?_
      split <;> omega
    refine ⟨pos + i, [], by simp only [Regex.minLength]; omega, by omega, by simp, ?_, found⟩
    intro name closes e mem
    cases mem
  | .seq a b, pos, spans, k, r, accepted => by
    obtain ⟨mid, added₁, after₁, bound₁, within₁, closed₁, rest⟩ := matchWith_eq_some a accepted
    obtain ⟨stop, added₂, after₂, bound₂, within₂, closed₂, done⟩ := matchWith_eq_some b rest
    refine ⟨stop, added₂ ++ added₁, by simp only [Regex.minLength]; omega, by omega, ?_, ?_,
      by simpa using done⟩
    · exact (within₂.widen (by omega) (Nat.le_refl _)).append (within₁.widen (Nat.le_refl _) (by omega))
    · -- a span of the first part ends where the second starts, which consumes, or closes itself
      intro name closes e mem named
      simp only [Regex.closes, Bool.and_eq_true, Bool.or_eq_true, decide_eq_true_eq] at closes
      rcases List.mem_append.mp mem with second | first
      · exact closed₂ name closes.2 e second named
      · have := (within₁ e first).2.2
        rcases closes.1 with consumes | closed
        · omega
        · have := closed₁ name closed e first named
          omega
  | .alt a b, pos, spans, k, r, accepted => by
    simp only [matchWith] at accepted
    split at accepted
    · next r' first =>
      obtain rfl := Option.some.inj accepted
      obtain ⟨stop, added, after, bound, within, closed, done⟩ := matchWith_eq_some a first
      refine ⟨stop, added, by simp only [Regex.minLength]; omega, bound, within, ?_, done⟩
      intro name closes
      simp only [Regex.closes, Bool.and_eq_true] at closes
      exact closed name closes.1
    · obtain ⟨stop, added, after, bound, within, closed, done⟩ := matchWith_eq_some b accepted
      refine ⟨stop, added, by simp only [Regex.minLength]; omega, bound, within, ?_, done⟩
      intro name closes
      simp only [Regex.closes, Bool.and_eq_true] at closes
      exact closed name closes.2
  | .group n a, pos, spans, k, r, accepted => by
    obtain ⟨stop, added, after, bound, within, closed, done⟩ := matchWith_eq_some a accepted
    refine ⟨stop, (n, pos, stop) :: added, after, bound, within.cons n (by omega), ?_, done⟩
    intro name closes e mem named
    simp only [Regex.closes, Bool.and_eq_true, bne_iff_ne] at closes
    rcases List.mem_cons.mp mem with rfl | inner
    · exact absurd named closes.1
    · exact closed name closes.2 e inner named
  | .textStart, _, _, _, _, accepted => anchor_ends rfl (anchor_eq_some accepted)
  | .textEnd, _, _, _, _, accepted => anchor_ends rfl (anchor_eq_some accepted)
  | .wordBoundary, _, _, _, _, accepted => anchor_ends rfl (anchor_eq_some accepted)

/-! ### Matches in a text -/

/-- A match inside a text: it starts no later than it stops and stops no later than the text
ends, and its spans lie inside it. -/
structure Match.InText (text : Array Char) (m : Match) : Prop where
  ordered : m.start ≤ m.stop
  bounded : m.stop ≤ text.size
  spans : SpansWithin m.spans m.start m.stop

theorem matchAt_eq_some {p : Regex} {pos : Nat} {m : Match} (inside : pos ≤ text.size)
    (found : p.matchAt text pos = some m) : m.start = pos ∧ m.InText text := by
  obtain ⟨stop, added, after, bound, within, -, done⟩ := matchWith_eq_some p found
  simp only [List.append_nil, Option.some.injEq] at done
  subst done
  refine ⟨rfl, show pos ≤ stop by omega, ?_, within⟩
  show stop ≤ text.size
  omega

theorem searchFrom_eq_some {p : Regex} {pos : Nat} {m : Match} (found : p.searchFrom text pos = some m) :
    pos ≤ m.start ∧ m.InText text := by
  obtain ⟨start, mem, at_⟩ := List.exists_of_findSome?_eq_some found
  obtain ⟨i, range, rfl⟩ := List.mem_map.mp mem
  have inside : i + pos ≤ text.size := by
    have := List.mem_range.mp range
    omega
  obtain ⟨starts, inText⟩ := matchAt_eq_some inside at_
  exact ⟨by omega, inText⟩

theorem matchesFrom_inText (p : Regex) :
    ∀ fuel pos, ∀ m ∈ matchesFrom p text fuel pos, pos ≤ m.start ∧ m.InText text
  | 0, _, _, mem => by simp [matchesFrom] at mem
  | fuel + 1, pos, m, mem => by
    simp only [matchesFrom] at mem
    split at mem
    · cases mem
    · next first found =>
      have ⟨after, inText⟩ := searchFrom_eq_some found
      rcases List.mem_cons.mp mem with rfl | later
      · exact ⟨after, inText⟩
      · have ⟨next, rest⟩ := matchesFrom_inText p fuel _ m later
        refine ⟨?_, rest⟩
        split at next <;> have := inText.ordered <;> omega

theorem matchesFrom_pairwise (p : Regex) :
    ∀ fuel pos, (matchesFrom p text fuel pos).Pairwise (fun a b => a.stop ≤ b.start)
  | 0, _ => List.Pairwise.nil
  | fuel + 1, pos => by
    simp only [matchesFrom]
    split
    · exact List.Pairwise.nil
    · next first found =>
      refine List.pairwise_cons.mpr ⟨fun m later => ?_, matchesFrom_pairwise p fuel _⟩
      have := (matchesFrom_inText p fuel _ m later).1
      split at this <;> omega

theorem matches_inText (p : Regex) : ∀ m ∈ p.matches text, m.InText text := fun m mem =>
  (matchesFrom_inText p _ _ m mem).2

theorem matches_pairwise (p : Regex) : (p.matches text).Pairwise (fun a b => a.stop ≤ b.start) :=
  matchesFrom_pairwise p _ _

theorem matchesFrom_matchAt (p : Regex) :
    ∀ fuel pos, ∀ m ∈ matchesFrom p text fuel pos, p.matchAt text m.start = some m
  | 0, _, _, mem => by simp [matchesFrom] at mem
  | fuel + 1, pos, m, mem => by
    simp only [matchesFrom] at mem
    split at mem
    · cases mem
    · next first found =>
      rcases List.mem_cons.mp mem with rfl | later
      · obtain ⟨start, listed, at_⟩ := List.exists_of_findSome?_eq_some found
        obtain ⟨i, range, rfl⟩ := List.mem_map.mp listed
        have inside : i + pos ≤ text.size := by
          have := List.mem_range.mp range
          omega
        rw [(matchAt_eq_some inside at_).1]
        exact at_
      · exact matchesFrom_matchAt p fuel _ m later

/-- Every match of a pattern in a text consumes at least the pattern's fewest characters, and
every span it records under a name the pattern closes ends before it stops. -/
theorem matches_consume (p : Regex) : ∀ m ∈ p.matches text,
    m.start + p.minLength ≤ m.stop ∧
      ∀ name, p.closes name = true → ∀ e ∈ m.spans, e.1 = name → e.2.2 < m.stop := by
  intro m mem
  obtain ⟨stop, added, after, -, -, closed, done⟩ :=
    matchWith_eq_some p (matchesFrom_matchAt p _ _ m mem)
  simp only [List.append_nil, Option.some.injEq] at done
  rw [← done]
  exact ⟨after, closed⟩

end RepoSearch.Pattern
