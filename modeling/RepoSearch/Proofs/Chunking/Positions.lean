import RepoSearch.Chunking.Document
import Mathlib.Data.List.Induction
/-! Where the characters of a document lie. Bisection counts the entries of an ascending array
that are at most a value; a document made from a text records each character's byte offset,
ascending and ending at the text's size, and starts its first line at offset 0. Read through
these, the line and column of a character name it:

* `countAtMost_split`: in an ascending array the count separates the entries at most the value
  from those above it;
* `Document.located_ofText`: a document made from a text is located;
* `Document.Located.positionOfChar_injective`: two characters of a located document never share
  a line and column;
* `Document.Located.positionOfChar_le`: a later character lies on a later line, or later on the
  same line. -/
namespace RepoSearch.Chunking

/-! ### Counting by bisection -/

section Bisection

variable {a : Array Nat} {x : Nat}

theorem countAtMostIn_le {lo hi : Nat} (ordered : lo ≤ hi) : countAtMostIn a x lo hi ≤ hi := by
  fun_induction countAtMostIn a x lo hi with
  | case1 lo hi inside mid below ih => exact ih (by omega)
  | case2 lo hi inside mid above ih => exact Nat.le_trans (ih (by omega)) (by omega)
  | case3 lo hi outside => exact ordered

theorem countAtMostIn_last {lo hi : Nat} (start : lo = 0 ∨ a[lo - 1]?.getD 0 ≤ x) :
    countAtMostIn a x lo hi = 0 ∨ a[countAtMostIn a x lo hi - 1]?.getD 0 ≤ x := by
  fun_induction countAtMostIn a x lo hi with
  | case1 lo hi inside mid below ih => exact ih (.inr (by simpa using below))
  | case2 lo hi inside mid above ih => exact ih start
  | case3 lo hi outside => exact start

theorem countAtMostIn_split (sorted : ∀ i j, i ≤ j → j < a.size → a[i]?.getD 0 ≤ a[j]?.getD 0)
    {lo hi : Nat} (inside : hi ≤ a.size) (below : ∀ k < lo, a[k]?.getD 0 ≤ x)
    (above : ∀ k, hi ≤ k → k < a.size → x < a[k]?.getD 0) :
    (∀ k < countAtMostIn a x lo hi, a[k]?.getD 0 ≤ x) ∧
      ∀ k, countAtMostIn a x lo hi ≤ k → k < a.size → x < a[k]?.getD 0 := by
  fun_induction countAtMostIn a x lo hi with
  | case1 lo hi lt mid atMost ih =>
    -- every entry up to the middle one is at most the middle one
    refine ih inside (fun k before => ?_) above
    by_cases old : k < lo
    · exact below k old
    · exact Nat.le_trans (sorted k _ (by omega) (by omega)) atMost
  | case2 lo hi lt mid exceeds ih =>
    refine ih (by omega) below (fun k after bounded => ?_)
    exact Nat.lt_of_lt_of_le (Nat.lt_of_not_le exceeds) (sorted _ k after bounded)
  | case3 lo hi ge =>
    exact ⟨below, fun k after bounded => above k (by omega) bounded⟩

theorem le_of_ascending (strict : ∀ i j, i < j → j < a.size → a[i]?.getD 0 < a[j]?.getD 0) :
    ∀ i j, i ≤ j → j < a.size → a[i]?.getD 0 ≤ a[j]?.getD 0 := fun i j le bounded => by
  rcases Nat.lt_or_eq_of_le le with lt | rfl
  · exact Nat.le_of_lt (strict i j lt bounded)
  · exact Nat.le_refl _

/-- In an ascending array, the count of entries at most `x` separates them from those above `x`,
and is at most the array's size. -/
theorem countAtMost_split (sorted : ∀ i j, i ≤ j → j < a.size → a[i]?.getD 0 ≤ a[j]?.getD 0) (x : Nat) :
    (∀ k < countAtMost a x, a[k]?.getD 0 ≤ x) ∧
      (∀ k, countAtMost a x ≤ k → k < a.size → x < a[k]?.getD 0) ∧ countAtMost a x ≤ a.size := by
  -- over the whole array both invariants of the bisection hold with nothing checked
  obtain ⟨atMost, exceeds⟩ := countAtMostIn_split (x := x) sorted (Nat.le_refl _)
    (fun _ none => absurd none (Nat.not_lt_zero _)) (fun k after bounded => absurd bounded (by omega))
  exact ⟨atMost, exceeds, countAtMostIn_le (Nat.zero_le _)⟩

theorem countAtMost_entry (strict : ∀ i j, i < j → j < a.size → a[i]?.getD 0 < a[j]?.getD 0)
    {i : Nat} (inside : i < a.size) : countAtMost a (a[i]?.getD 0) = i + 1 := by
  obtain ⟨atMost, exceeds, counted⟩ := countAtMost_split (le_of_ascending strict) (a[i]?.getD 0)
  have self : i < countAtMost a (a[i]?.getD 0) :=
    Nat.lt_of_not_le fun short => Nat.lt_irrefl _ (exceeds i short inside)
  have next : countAtMost a (a[i]?.getD 0) ≤ i + 1 := Nat.le_of_not_lt fun long =>
    Nat.not_le_of_lt (strict i (i + 1) (by omega) (by omega)) (atMost (i + 1) long)
  omega

theorem countAtMost_le_of_le (strict : ∀ i j, i < j → j < a.size → a[i]?.getD 0 < a[j]?.getD 0)
    {i y : Nat} (inside : i < a.size) (le : y ≤ a[i]?.getD 0) : countAtMost a y ≤ i + 1 := by
  obtain ⟨atMost, -, counted⟩ := countAtMost_split (le_of_ascending strict) y
  refine Nat.le_of_not_lt fun long => ?_
  have above := strict i (i + 1) (by omega) (by omega)
  have := atMost (i + 1) long
  omega

theorem countAtMostIn_ge {lo hi : Nat} : lo ≤ countAtMostIn a x lo hi := by
  fun_induction countAtMostIn a x lo hi with
  | case1 lo hi inside mid below ih => omega
  | case2 lo hi inside mid above ih => exact ih
  | case3 lo hi outside => exact Nat.le_refl _

theorem countAtMostIn_mono {y : Nat} (le : x ≤ y) (lo hi : Nat) :
    countAtMostIn a x lo hi ≤ countAtMostIn a y lo hi := by
  fun_induction countAtMostIn a y lo hi with
  | case1 lo hi inside mid below ih =>
    rw [countAtMostIn, dif_pos inside]
    show (if a[mid]?.getD 0 ≤ x then countAtMostIn a x (mid + 1) hi else countAtMostIn a x lo mid) ≤ _
    split
    · exact ih
    · exact Nat.le_trans (countAtMostIn_le (by omega)) (Nat.le_trans (by omega) countAtMostIn_ge)
  | case2 lo hi inside mid above ih =>
    rw [countAtMostIn, dif_pos inside]
    show (if a[mid]?.getD 0 ≤ x then countAtMostIn a x (mid + 1) hi else countAtMostIn a x lo mid) ≤ _
    rw [if_neg (by omega)]
    exact ih
  | case3 lo hi outside =>
    have stays : countAtMostIn a x lo hi = lo := by rw [countAtMostIn, dif_neg outside]
    exact Nat.le_of_eq stays

theorem countAtMost_mono {y : Nat} (le : x ≤ y) : countAtMost a x ≤ countAtMost a y :=
  countAtMostIn_mono le _ _

end Bisection

/-! ### Offsets of a text -/

theorem charOffsets_toList (cs : List Char) :
    (charOffsets cs).toList = cs.scanl (fun n c => n + c.utf8Size) 0 := by
  have folded : ∀ (acc : Array Nat) (n : Nat),
      let r := cs.foldl (fun (acc : Array Nat × Nat) (c : Char) => (acc.1.push acc.2, acc.2 + c.utf8Size))
        (acc, n)
      (r.1.push r.2).toList = acc.toList ++ cs.scanl (fun n c => n + c.utf8Size) n := by
    induction cs with
    | nil => intro acc n; simp
    | cons c rest ih =>
      intro acc n
      have step := ih (acc.push n) (n + c.utf8Size)
      simp only [List.foldl_cons, List.scanl_cons] at step ⊢
      rw [step]
      simp
  simp only [charOffsets]
  simpa using folded #[] 0

theorem le_of_mem_scanl_utf8Size :
    ∀ (cs : List Char) (n m : Nat), m ∈ cs.scanl (fun n c => n + c.utf8Size) n → n ≤ m
  | [], n, m, mem => by simp at mem; omega
  | c :: rest, n, m, mem => by
    rw [List.scanl_cons] at mem
    rcases List.mem_cons.mp mem with rfl | later
    · exact Nat.le_refl _
    · have := le_of_mem_scanl_utf8Size rest _ m later
      omega

theorem scanl_utf8Size_pairwise :
    ∀ (cs : List Char) (n : Nat), (cs.scanl (fun n c => n + c.utf8Size) n).Pairwise (· < ·)
  | [], _ => by simp
  | c :: rest, n => by
    have later : ∀ m ∈ rest.scanl (fun n c => n + c.utf8Size) (n + c.utf8Size), n < m := by
      intro m mem
      have atLeast := le_of_mem_scanl_utf8Size rest (n + c.utf8Size) m mem
      have := c.utf8Size_pos
      omega
    rw [List.scanl_cons]
    exact List.pairwise_cons.mpr ⟨later, scanl_utf8Size_pairwise rest _⟩

theorem utf8ByteSize_eq_foldl (s : String) :
    s.utf8ByteSize = s.toList.foldl (fun n c => n + c.utf8Size) 0 := by
  obtain ⟨cs, rfl⟩ := s.exists_eq_ofList
  induction cs using List.reverseRecOn with
  | nil => simp
  | append_singleton cs c ih =>
    simp [String.ofList_append, ih]

/-! ### Located documents -/

namespace Document

/-- A document whose offsets locate its characters: one offset per character and one for the
end, strictly ascending and none past the text's size, with the first line starting at 0. -/
structure Located (d : Document) : Prop where
  offsets_size : d.offsets.size = d.chars.size + 1
  ascending : ∀ i j, i < j → j < d.offsets.size → d.offsets[i]?.getD 0 < d.offsets[j]?.getD 0
  within : ∀ i < d.offsets.size, d.offsets[i]?.getD 0 ≤ d.text.utf8ByteSize
  firstLine : d.lineStarts[0]?.getD 0 = 0

theorem located_ofText (path language text : String) : (ofText path language text).Located := by
  have listed := charOffsets_toList text.toList
  have sized : (charOffsets text.toList).size = text.toList.length + 1 := by
    rw [← Array.length_toList, listed, List.length_scanl]
  have entries : ∀ i : Nat, (charOffsets text.toList)[i]?.getD 0 =
      (text.toList.scanl (fun n c => n + c.utf8Size) 0)[i]?.getD 0 := by
    intro i
    rw [← Array.getElem?_toList, listed]
  have ascending : ∀ i j, i < j → j < (charOffsets text.toList).size →
      (charOffsets text.toList)[i]?.getD 0 < (charOffsets text.toList)[j]?.getD 0 := by
    intro i j lt inside
    have hj : j < (text.toList.scanl (fun n c => n + c.utf8Size) 0).length := by
      rw [List.length_scanl, ← sized]
      exact inside
    have hi : i < (text.toList.scanl (fun n c => n + c.utf8Size) 0).length := by omega
    rw [entries, entries, List.getElem?_eq_getElem hi, List.getElem?_eq_getElem hj, Option.getD_some,
      Option.getD_some]
    exact List.pairwise_iff_getElem.mp (scanl_utf8Size_pairwise text.toList 0) i j hi hj lt
  refine ⟨by simp [ofText, sized], ascending, fun i inside => ?_, ?_⟩
  · have last : (charOffsets text.toList)[text.toList.length]?.getD 0 = text.utf8ByteSize := by
      rw [entries, List.getElem?_scanl, if_pos (Nat.le_refl _), Option.getD_some, List.take_length,
        utf8ByteSize_eq_foldl]
    show (charOffsets text.toList)[i]?.getD 0 ≤ text.utf8ByteSize
    rw [← last]
    rcases Nat.lt_or_eq_of_le (Nat.le_of_lt_succ (sized ▸ inside)) with lt | rfl
    · exact Nat.le_of_lt (ascending _ _ lt (by omega))
    · exact Nat.le_refl _
  · -- the line starts begin with 0, unless a lone line feed leaves none
    simp only [ofText]
    split
    · cases (List.range text.toList.length).zip text.toList |>.filterMap _ <;> simp
    · simp

variable {d : Document}

/-- The index of the line holding a byte offset, counted from 0. -/
def lineIndexOf (d : Document) (offset : Nat) : Nat :=
  min (countAtMost d.lineStarts offset - 1) (d.lineStarts.size - 1)

/-- The byte offset at which the line holding a byte offset starts. -/
def lineStartOf (d : Document) (offset : Nat) : Nat := d.lineStarts[d.lineIndexOf offset]?.getD 0

theorem Located.lineStartOf_le (located : d.Located) (offset : Nat) : d.lineStartOf offset ≤ offset := by
  have last := @countAtMostIn_last d.lineStarts offset 0 d.lineStarts.size (.inl rfl)
  have bounded := @countAtMostIn_le d.lineStarts offset 0 d.lineStarts.size (Nat.zero_le _)
  unfold lineStartOf lineIndexOf countAtMost
  rcases last with none | atMost
  · rw [none, Nat.zero_sub, Nat.zero_min, located.firstLine]
    exact Nat.zero_le _
  · rw [Nat.min_eq_left (by omega)]
    exact atMost

/-- A character of a located document lies at the line of its offset, at the column counted from
the first character of that line. -/
theorem Located.positionOfChar_eq (located : d.Located) {i : Nat} (inside : i < d.chars.size) :
    d.positionOfChar i = (d.lineIndexOf (d.offsets[i]?.getD 0) + 1,
      i - (countAtMost d.offsets (d.lineStartOf (d.offsets[i]?.getD 0)) - 1) + 1) := by
  have offset : i < d.offsets.size := by rw [located.offsets_size]; omega
  have entry := countAtMost_entry located.ascending offset
  have byte : d.byteOf i = d.offsets[i]?.getD 0 := by simp [byteOf, offset]
  have found : (d.offsets[i]? == some (d.offsets[i]?.getD 0)) = true := by simp [offset]
  simp only [positionOfChar, position, lineIndexOf, lineStartOf, byte,
    Nat.min_eq_left (located.within i offset), entry, Nat.add_sub_cancel, found, Bool.and_true,
    decide_eq_true_eq, gt_iff_lt, Nat.zero_lt_succ, ↓reduceIte]

theorem Located.positionOfChar_injective (located : d.Located) {i j : Nat} (hi : i < d.chars.size)
    (hj : j < d.chars.size) (same : d.positionOfChar i = d.positionOfChar j) : i = j := by
  rw [located.positionOfChar_eq hi, located.positionOfChar_eq hj, Prod.mk.injEq] at same
  obtain ⟨lines, columns⟩ := same
  have starts : d.lineStartOf (d.offsets[i]?.getD 0) = d.lineStartOf (d.offsets[j]?.getD 0) := by
    unfold lineStartOf
    rw [Nat.add_right_cancel lines]
  have before_i := countAtMost_le_of_le located.ascending (by rw [located.offsets_size]; omega)
    (located.lineStartOf_le (d.offsets[i]?.getD 0))
  have before_j := countAtMost_le_of_le located.ascending (by rw [located.offsets_size]; omega)
    (located.lineStartOf_le (d.offsets[j]?.getD 0))
  rw [starts] at columns before_i
  omega

theorem lineIndexOf_mono {x y : Nat} (le : x ≤ y) : d.lineIndexOf x ≤ d.lineIndexOf y := by
  have counted := countAtMost_mono (a := d.lineStarts) le
  unfold lineIndexOf
  omega

theorem positionOfChar_bounds (i : Nat) (started : 1 ≤ d.lineStarts.size) :
    1 ≤ (d.positionOfChar i).1 ∧ (d.positionOfChar i).1 ≤ d.lineStarts.size ∧
      1 ≤ (d.positionOfChar i).2 := by
  simp only [positionOfChar, position]
  omega

/-- In a located document a later character lies on a later line, or on the same line at a
later column. -/
theorem Located.positionOfChar_le (located : d.Located) {i j : Nat} (le : i ≤ j)
    (hj : j < d.chars.size) :
    (d.positionOfChar i).1 < (d.positionOfChar j).1 ∨
      (d.positionOfChar i).1 = (d.positionOfChar j).1 ∧ (d.positionOfChar i).2 ≤ (d.positionOfChar j).2 := by
  rw [located.positionOfChar_eq (by omega), located.positionOfChar_eq hj]
  dsimp only
  -- the later character has the later offset, so its line is no earlier
  have later : d.offsets[i]?.getD 0 ≤ d.offsets[j]?.getD 0 :=
    le_of_ascending located.ascending i j le (by rw [located.offsets_size]; omega)
  have lines := lineIndexOf_mono (d := d) later
  rcases Nat.lt_or_eq_of_le lines with earlier | same
  · exact .inl (by omega)
  · have starts : d.lineStartOf (d.offsets[i]?.getD 0) = d.lineStartOf (d.offsets[j]?.getD 0) := by
      unfold lineStartOf
      rw [same]
    refine .inr ⟨by rw [same], ?_⟩
    rw [starts]
    omega

end Document

end RepoSearch.Chunking
