import RepoSearch.Embedding.Provider
/-! Cutting a text to its first characters. The chunker takes characters one by one; the
embedder finds the byte offset at which the character past the count starts and keeps the
bytes before it. Character offsets grow with every character, so the characters that start
below that offset are exactly the ones counted, and both ways give the longest prefix of the
text within the count.

Main statement: `truncations_agree`. -/
namespace RepoSearch

open RepoSearch.Text

namespace Text

theorem le_foldl_take_utf8Size : ∀ (cs : List Char) (k a : Nat),
    a ≤ (cs.take k).foldl (fun n c => n + c.utf8Size) a
  | [], _, _ => by simp
  | _ :: _, 0, _ => by simp
  | c :: rest, k + 1, a => by
    rw [List.take_succ_cons, List.foldl_cons]
    exact Nat.le_trans (Nat.le_add_right a c.utf8Size) (le_foldl_take_utf8Size rest k _)

theorem startsBelow_of_le : ∀ (cs : List Char) {a bound : Nat}, bound ≤ a →
    ((cs.scanl (fun n c => n + c.utf8Size) a).zip cs).filterMap
      (fun p => if p.1 < bound then some p.2 else none) = []
  | [], _, _, _ => rfl
  | c :: rest, a, bound, le => by
    have grows := c.utf8Size_pos
    rw [List.scanl_cons, List.zip_cons_cons, List.filterMap_cons, if_neg (by omega)]
    exact startsBelow_of_le rest (by omega)

theorem startsBelow_offset : ∀ (cs : List Char) (a n : Nat), n ≤ cs.length →
    ((cs.scanl (fun n c => n + c.utf8Size) a).zip cs).filterMap
      (fun p => if p.1 < (cs.take n).foldl (fun n c => n + c.utf8Size) a then some p.2 else none) =
      cs.take n
  | [], _, _, _ => by simp
  | c :: rest, a, 0, _ => startsBelow_of_le (c :: rest) (Nat.le_refl a)
  | c :: rest, a, k + 1, within => by
    have below : a < (rest.take k).foldl (fun n c => n + c.utf8Size) (a + c.utf8Size) :=
      Nat.lt_of_lt_of_le (by have := c.utf8Size_pos; omega)
        (le_foldl_take_utf8Size rest k (a + c.utf8Size))
    rw [List.scanl_cons, List.zip_cons_cons, List.filterMap_cons, List.take_succ_cons,
      List.foldl_cons, if_pos below, startsBelow_offset rest _ k (by simpa using within)]

end Text

namespace Embedding

theorem truncateAtChar_eq_truncateChars (s : String) (n : Nat) :
    truncateAtChar s n = truncateChars s n := by
  unfold truncateAtChar
  split
  · next offset c found =>
    obtain ⟨offsets, chars⟩ := List.getElem?_zip_eq_some.mp found
    have inside : n < s.toList.length := (List.getElem?_eq_some_iff.mp chars).1
    -- the offset of character `n` is the size of the characters before it
    have located : offset = (s.toList.take n).foldl (fun n c => n + c.utf8Size) 0 := by
      rw [List.getElem?_scanl, if_pos (Nat.le_of_lt inside)] at offsets
      exact (Option.some.inj offsets).symm
    rw [bytePrefix, charIndices, located]
    exact congrArg String.ofList (startsBelow_offset s.toList 0 n (Nat.le_of_lt inside))
  · next missing =>
    have short : s.toList.length ≤ n := by
      simpa [charIndices, List.getElem?_eq_none_iff, List.length_zip] using missing
    simp [truncateChars, List.take_of_length_le short]

end Embedding

theorem length_truncateChars_le (s : String) (n : Nat) : (truncateChars s n).length ≤ n := by
  rw [truncateChars, String.length_ofList, List.length_take]
  exact Nat.min_le_left n _

/-- Both ways of cutting a text to `n` characters agree, and give the longest prefix of the text
with at most `n` characters: every such prefix is a prefix of it. -/
theorem truncations_agree (s : String) (n : Nat) :
    Embedding.truncateAtChar s n = truncateChars s n ∧
      (truncateChars s n).toList <+: s.toList ∧ (truncateChars s n).length ≤ n ∧
      ∀ p : String, p.toList <+: s.toList → p.length ≤ n → p.toList <+: (truncateChars s n).toList := by
  have chars : (truncateChars s n).toList = s.toList.take n := by simp [truncateChars]
  refine ⟨Embedding.truncateAtChar_eq_truncateChars s n, ?_, length_truncateChars_le s n, ?_⟩
  · rw [chars]
    exact List.take_prefix n s.toList
  · intro p prefixed short
    rw [chars, List.prefix_take_iff]
    exact ⟨prefixed, short⟩

/-- The first two characters of a text whose second character takes two bytes. -/
example : Embedding.truncateAtChar "héllo" 2 = "hé" ∧ truncateChars "héllo" 2 = "hé" := by
  decide

end RepoSearch
