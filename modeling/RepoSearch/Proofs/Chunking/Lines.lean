import RepoSearch.Proofs.Chunking.Cut
import RepoSearch.Proofs.Chunking.Positions
/-! The lines of a text and the line and column of each of its characters. A document made from a
text has one line per piece between line feeds, with its trailing carriage returns removed, and
one line start per line: 0, then one past each line feed, the start after a final line feed
dropped with the empty piece after it. The line starts ascend, so bisection counts those at or
before an offset; at the offset of a character these are the first line's and one per line feed
before the character, and the last of them is where the character's line begins. So a
character's line is one more than the line feeds before it and its column one more than the
characters between the last of them and it.

Main statement: `Document.ofText_lines_and_positions`. -/
namespace RepoSearch.Chunking

open RepoSearch.Text

/-! ### Ascending lists -/

section Ascending

variable {l : List Nat} {x : Nat}

theorem getElem_le_iff_lt_countP (ascending : l.Pairwise (· < ·)) {m : Nat} (inside : m < l.length) :
    l[m] ≤ x ↔ m < l.countP (· ≤ x) := by
  induction l generalizing m with
  | nil => cases inside
  | cons a rest ih =>
    obtain ⟨later, ascending⟩ := List.pairwise_cons.mp ascending
    by_cases first : a ≤ x
    · rw [List.countP_cons, if_pos (by simpa using first)]
      cases m with
      | zero => simpa using first
      | succ m =>
        rw [List.getElem_cons_succ, ih ascending (by simpa using inside)]
        omega
    · have none : rest.countP (· ≤ x) = 0 := List.countP_eq_zero.mpr fun y mem => by
        have := later y mem
        simp only [decide_eq_true_eq]
        omega
      rw [List.countP_cons, if_neg (by simpa using first), none]
      cases m with
      | zero => simpa using first
      | succ m =>
        have := later _ (List.getElem_mem (Nat.lt_of_succ_lt_succ inside))
        simp only [List.getElem_cons_succ]
        omega

theorem greatest_of_countP (ascending : l.Pairwise (· < ·)) {k : Nat} (counted : l.countP (· ≤ x) = k + 1) :
    ∃ inside : k < l.length, l[k] ≤ x ∧ ∀ y ∈ l, y ≤ x → y ≤ l[k] := by
  have inside : k < l.length := Nat.lt_of_lt_of_le (by omega) (counted ▸ List.countP_le_length)
  refine ⟨inside, (getElem_le_iff_lt_countP ascending inside).mpr (by omega), fun y mem atMost => ?_⟩
  obtain ⟨m, before, rfl⟩ := List.getElem_of_mem mem
  have early : m < k + 1 := counted ▸ (getElem_le_iff_lt_countP ascending before).mp atMost
  rcases Nat.lt_or_eq_of_le (Nat.le_of_lt_succ early) with lt | rfl
  · exact Nat.le_of_lt (List.pairwise_iff_getElem.mp ascending m k before inside lt)
  · exact Nat.le_refl _

theorem countAtMost_of_initial {a : Array Nat} (ascending : l.Pairwise (· < ·)) (begins : a.toList <+: l)
    (fits : l.countP (· ≤ x) ≤ a.size) : countAtMost a x = l.countP (· ≤ x) := by
  have longer : a.size ≤ l.length := by simpa using begins.length_le
  have entry : ∀ m (inside : m < a.size) (present : m < l.length), a[m]?.getD 0 = l[m] := by
    intro m inside present
    rw [← Array.getElem?_toList, List.getElem?_eq_getElem (by simpa using inside), Option.getD_some]
    exact begins.getElem (by simpa using inside)
  have sorted : ∀ i j, i ≤ j → j < a.size → a[i]?.getD 0 ≤ a[j]?.getD 0 := by
    intro i j le inside
    rw [entry i (by omega) (by omega), entry j inside (by omega)]
    rcases Nat.lt_or_eq_of_le le with lt | rfl
    · exact Nat.le_of_lt (List.pairwise_iff_getElem.mp ascending i j _ _ lt)
    · exact Nat.le_refl _
  obtain ⟨atMost, exceeds, bounded⟩ := countAtMost_split sorted x
  -- the array's count and the list's both split the same entries
  rcases Nat.lt_trichotomy (countAtMost a x) (l.countP (· ≤ x)) with lt | same | gt
  · have above := exceeds _ (Nat.le_refl _) (by omega)
    rw [entry _ (by omega) (by omega)] at above
    exact absurd ((getElem_le_iff_lt_countP ascending _).mpr lt) (Nat.not_le_of_lt above)
  · exact same
  · have below := atMost _ gt
    rw [entry _ (by omega) (by omega)] at below
    exact absurd ((getElem_le_iff_lt_countP ascending _).mp below) (Nat.lt_irrefl _)

end Ascending

/-! ### Characters after the last line feed -/

section Tail

theorem tail_length_le (xs : List Char) : (xs.reverse.takeWhile (· != '\n')).length ≤ xs.length :=
  Nat.le_trans (List.takeWhile_sublist _).length_le (Nat.le_of_eq List.length_reverse)

theorem not_feed_of_tail (xs : List Char) {j : Nat}
    (after : xs.length - (xs.reverse.takeWhile (· != '\n')).length ≤ j) (inside : j < xs.length) :
    xs[j] ≠ '\n' := by
  induction xs using List.reverseRecOn with
  | nil => cases inside
  | append_singleton xs c ih =>
    simp only [List.length_append, List.length_singleton] at inside
    by_cases feed : c = '\n'
    · simp [feed] at after
      omega
    · rw [List.reverse_append, List.reverse_singleton, List.singleton_append,
        List.takeWhile_cons_of_pos (by simpa using feed), List.length_cons] at after
      simp only [List.length_append, List.length_singleton] at after inside
      rcases Nat.lt_or_eq_of_le (Nat.le_of_lt_succ inside) with early | rfl
      · rw [List.getElem_append_left early]
        exact ih (by omega) early
      · simpa using feed

theorem feed_before_tail (xs : List Char) (short : (xs.reverse.takeWhile (· != '\n')).length < xs.length) :
    xs[xs.length - (xs.reverse.takeWhile (· != '\n')).length - 1]? = some '\n' := by
  induction xs using List.reverseRecOn with
  | nil => cases short
  | append_singleton xs c ih =>
    by_cases feed : c = '\n'
    · simp [feed]
    · rw [List.reverse_append, List.reverse_singleton, List.singleton_append,
        List.takeWhile_cons_of_pos (by simpa using feed), List.length_cons] at short ⊢
      simp only [List.length_append, List.length_singleton] at short ⊢
      have earlier := ih (by omega)
      rw [List.getElem?_append_left (by omega)]
      rw [show xs.length + 1 - ((xs.reverse.takeWhile (· != '\n')).length + 1) - 1 =
        xs.length - (xs.reverse.takeWhile (· != '\n')).length - 1 by omega]
      exact earlier

end Tail

/-! ### Offsets of characters -/

/-- The byte offset at which character `i` of a list starts: the size of the characters before
it. -/
def offsetOf (cs : List Char) (i : Nat) : Nat := (cs.take i).foldl (fun n c => n + c.utf8Size) 0

section Offsets

variable {cs : List Char}

theorem charOffsets_getD {i : Nat} (inside : i ≤ cs.length) : (charOffsets cs)[i]?.getD 0 = offsetOf cs i := by
  rw [← Array.getElem?_toList, charOffsets_toList, List.getElem?_scanl, if_pos inside, Option.getD_some]
  rfl

theorem offsetOf_lt {i j : Nat} (lt : i < j) (inside : j ≤ cs.length) : offsetOf cs i < offsetOf cs j := by
  have scanned := List.pairwise_iff_getElem.mp (scanl_utf8Size_pairwise cs 0) i j
    (by rw [List.length_scanl]; omega) (by rw [List.length_scanl]; omega) lt
  rwa [List.getElem_scanl, List.getElem_scanl] at scanned

theorem offsetOf_le {i j : Nat} (le : i ≤ j) (inside : j ≤ cs.length) : offsetOf cs i ≤ offsetOf cs j := by
  rcases Nat.lt_or_eq_of_le le with lt | rfl
  · exact Nat.le_of_lt (offsetOf_lt lt inside)
  · exact Nat.le_refl _

theorem offsetOf_le_iff {i j : Nat} (hi : i ≤ cs.length) (hj : j ≤ cs.length) :
    offsetOf cs i ≤ offsetOf cs j ↔ i ≤ j :=
  ⟨fun le => Nat.le_of_not_lt fun lt => Nat.not_le_of_lt (offsetOf_lt lt hi) le,
    fun le => offsetOf_le le hj⟩

theorem offsetOf_succ_of_feed {j : Nat} (inside : j < cs.length) (feed : cs[j] = '\n') :
    offsetOf cs (j + 1) = offsetOf cs j + 1 := by
  rw [offsetOf, offsetOf, List.take_add_one, List.getElem?_eq_getElem inside, feed, Option.toList_some,
    List.foldl_append, List.foldl_cons, List.foldl_nil]
  rfl

theorem utf8ByteSize_ofList_take (i : Nat) : (String.ofList (cs.take i)).utf8ByteSize = offsetOf cs i := by
  rw [utf8ByteSize_eq_foldl, String.toList_ofList]
  rfl

end Offsets

/-! ### Line feeds, position by position -/

section Feeds

theorem mem_zip_range' {cs : List Char} {a : Nat} {p : Nat × Char}
    (mem : p ∈ (List.range' a cs.length).zip cs) : a ≤ p.1 ∧ cs[p.1 - a]? = some p.2 := by
  induction cs generalizing a with
  | nil => cases mem
  | cons c rest ih =>
    rw [List.length_cons, List.range'_succ, List.zip_cons_cons] at mem
    rcases List.mem_cons.mp mem with rfl | later
    · simp
    · obtain ⟨after, char⟩ := ih later
      refine ⟨by omega, ?_⟩
      rw [show p.1 - a = p.1 - (a + 1) + 1 by omega, List.getElem?_cons_succ]
      exact char

theorem pairwise_zip_range' (cs : List Char) (a : Nat) :
    ((List.range' a cs.length).zip cs).Pairwise (fun p q => p.1 < q.1) := by
  induction cs generalizing a with
  | nil => exact List.Pairwise.nil
  | cons c rest ih =>
    rw [List.length_cons, List.range'_succ, List.zip_cons_cons]
    refine List.pairwise_cons.mpr ⟨fun q mem => ?_, ih (a + 1)⟩
    exact Nat.lt_of_lt_of_le (Nat.lt_succ_self a) (mem_zip_range' mem).1

theorem countP_zip_range' (cs : List Char) (a i : Nat) :
    ((List.range' a cs.length).zip cs).countP (fun p => p.2 == '\n' && decide (p.1 < a + i)) =
      (cs.take i).count '\n' := by
  induction cs generalizing a i with
  | nil => simp
  | cons c rest ih =>
    cases i with
    | zero =>
      rw [List.take_zero, List.count_nil]
      refine List.countP_eq_zero.mpr fun p mem => ?_
      have := (mem_zip_range' mem).1
      simp only [Bool.and_eq_true, decide_eq_true_eq, not_and]
      omega
    | succ i =>
      have shifted := ih (a + 1) i
      rw [show a + 1 + i = a + (i + 1) by omega] at shifted
      rw [List.length_cons, List.range'_succ, List.zip_cons_cons, List.countP_cons, shifted,
        List.take_succ_cons, List.count_cons]
      simp

end Feeds

/-! ### Line starts -/

namespace Document

/-- The line starts of a text after the first: one past each line feed. -/
def feedStarts (cs : List Char) : List Nat :=
  ((List.range cs.length).zip cs).filterMap fun x =>
    if x.snd == '\n' then some ((charOffsets cs)[x.fst]?.getD 0 + 1) else none

theorem lineStarts_ofText_toList (path language text : String) :
    (ofText path language text).lineStarts.toList =
      if text.toList.getLast? = some '\n' then (0 :: feedStarts text.toList).dropLast
      else 0 :: feedStarts text.toList := by
  simp [ofText, feedStarts]

theorem chars_size_ofText (path language text : String) :
    (ofText path language text).chars.size = text.length :=
  String.length_toList

variable {cs : List Char}

theorem mem_feedStarts {y : Nat} (mem : y ∈ feedStarts cs) :
    ∃ j, ∃ inside : j < cs.length, cs[j] = '\n' ∧ y = offsetOf cs (j + 1) := by
  obtain ⟨p, listed, made⟩ := List.mem_filterMap.mp mem
  rw [List.range_eq_range'] at listed
  obtain ⟨-, char⟩ := mem_zip_range' listed
  rw [Nat.sub_zero] at char
  obtain ⟨inside, char⟩ := List.getElem?_eq_some_iff.mp char
  split at made
  · next feed =>
    have feed : cs[p.1] = '\n' := by simpa [char] using feed
    cases made
    exact ⟨p.1, inside, feed, by rw [charOffsets_getD (Nat.le_of_lt inside), offsetOf_succ_of_feed inside feed]⟩
  · cases made

theorem feedStarts_of_feed {j : Nat} (inside : j < cs.length) (feed : cs[j] = '\n') :
    offsetOf cs (j + 1) ∈ feedStarts cs := by
  refine List.mem_filterMap.mpr ⟨(j, '\n'), ?_, ?_⟩
  · rw [List.mem_iff_getElem]
    refine ⟨j, by simpa using inside, ?_⟩
    simp [feed]
  · simp [charOffsets_getD (Nat.le_of_lt inside), offsetOf_succ_of_feed inside feed]

theorem feedStarts_ascending (cs : List Char) : (0 :: feedStarts cs).Pairwise (· < ·) := by
  refine List.pairwise_cons.mpr ⟨fun y mem => ?_, ?_⟩
  · obtain ⟨j, inside, -, rfl⟩ := mem_feedStarts mem
    exact Nat.lt_of_le_of_lt (Nat.zero_le _) (offsetOf_lt (Nat.lt_succ_self j) inside)
  · have ordered : ((List.range cs.length).zip cs).Pairwise
        (fun p q => (charOffsets cs)[p.1]?.getD 0 < (charOffsets cs)[q.1]?.getD 0) := by
      rw [List.range_eq_range']
      refine (pairwise_zip_range' cs 0).imp_of_mem fun memP memQ before => ?_
      have insideP := (List.getElem?_eq_some_iff.mp (mem_zip_range' memP).2).1
      have insideQ := (List.getElem?_eq_some_iff.mp (mem_zip_range' memQ).2).1
      rw [Nat.sub_zero] at insideP insideQ
      rw [charOffsets_getD (Nat.le_of_lt insideP), charOffsets_getD (Nat.le_of_lt insideQ)]
      exact offsetOf_lt before (Nat.le_of_lt insideQ)
    refine ordered.filterMap _ fun p q before y fromP y' fromQ => ?_
    simp only [Option.ite_none_right_eq_some, Option.some.injEq] at fromP fromQ
    obtain ⟨-, rfl⟩ := fromP
    obtain ⟨-, rfl⟩ := fromQ
    exact Nat.succ_lt_succ before

theorem countP_le_offsetOf {i : Nat} (inside : i ≤ cs.length) :
    (0 :: feedStarts cs).countP (· ≤ offsetOf cs i) = (cs.take i).count '\n' + 1 := by
  rw [List.countP_cons, if_pos (by simp), feedStarts, List.countP_filterMap, List.range_eq_range',
    ← countP_zip_range' cs 0 i]
  congr 1
  refine List.countP_congr fun p mem => ?_
  obtain ⟨-, char⟩ := mem_zip_range' mem
  rw [Nat.sub_zero] at char
  obtain ⟨before, char⟩ := List.getElem?_eq_some_iff.mp char
  rw [charOffsets_getD (Nat.le_of_lt before)]
  by_cases feed : p.2 = '\n'
  · -- one past a line feed lies at or before the character exactly when the feed is before it
    rw [← offsetOf_succ_of_feed before (char.trans feed)]
    have := (@offsetOf_le_iff cs _ _ (Nat.succ_le_of_lt before) inside).trans Nat.succ_le_iff
    simp [feed, this]
  · simp [feed]

theorem length_feedStarts (cs : List Char) : (feedStarts cs).length = cs.count '\n' := by
  have counted := @countP_le_offsetOf cs _ (Nat.le_refl _)
  rw [List.take_length, List.countP_cons, if_pos (by simp)] at counted
  have within : (feedStarts cs).countP (· ≤ offsetOf cs cs.length) = (feedStarts cs).length := by
    refine List.countP_eq_length.mpr fun y mem => ?_
    obtain ⟨j, inside, -, rfl⟩ := mem_feedStarts mem
    exact decide_eq_true (offsetOf_le inside (Nat.le_refl _))
  omega

theorem lineStarts_initial (path language text : String) :
    (ofText path language text).lineStarts.toList <+: 0 :: feedStarts text.toList := by
  rw [lineStarts_ofText_toList]
  split
  · exact List.dropLast_prefix _
  · exact List.prefix_refl _

theorem size_lineStarts_ofText (path language text : String) :
    (ofText path language text).lineStarts.size =
      text.toList.count '\n' + if text.toList.getLast? = some '\n' then 0 else 1 := by
  rw [← Array.length_toList, lineStarts_ofText_toList]
  split <;> simp [length_feedStarts]

theorem lines_append_ofText (path language text : String) :
    (ofText path language text).lines.toList ++ (if text.toList.getLast? = some '\n' then [""] else []) =
      (text.toList.splitOn '\n').map fun piece => dropCarriageReturns (String.ofList piece) := by
  rw [lines_ofText]
  by_cases ends : text.toList.getLast? = some '\n'
  · obtain ⟨front, whole⟩ := List.getLast?_eq_some_iff.mp ends
    simp only [ends, beq_self_eq_true, if_true]
    rw [whole, List.splitOn_append_cons_self, List.splitOn_nil, List.map_append, List.map_singleton,
      List.dropLast_concat]
    rfl
  · simp [ends]

theorem lineCount_ofText (path language text : String) :
    (ofText path language text).lineCount =
      text.toList.count '\n' + if text.toList.getLast? = some '\n' then 0 else 1 := by
  have pieces := congrArg List.length (lines_append_ofText path language text)
  rw [List.length_append, List.length_map, length_splitOn, Array.length_toList] at pieces
  rw [lineCount]
  by_cases ends : text.toList.getLast? = some '\n'
  · simp only [ends, ↓reduceIte, List.length_singleton] at pieces ⊢
    omega
  · simp only [ends, ↓reduceIte, List.length_nil] at pieces ⊢
    omega

theorem lineStarts_ofText (path language text : String) :
    (Document.ofText path language text).lineStarts.size = (Document.ofText path language text).lineCount ∧
      1 ≤ (Document.ofText path language text).lineStarts.size := by
  rw [size_lineStarts_ofText, lineCount_ofText]
  refine ⟨rfl, ?_⟩
  split
  · next last =>
    have held := List.count_pos_iff.mpr (List.mem_of_getLast? last)
    omega
  · omega

theorem count_take_lt_size (path language text : String) {i : Nat} (inside : i < text.length) :
    (text.toList.take i).count '\n' < (ofText path language text).lineStarts.size := by
  have lengths : text.toList.length = text.length := String.length_toList
  have fewer := (List.take_sublist i text.toList).count_le '\n'
  rw [size_lineStarts_ofText]
  split
  · next last =>
    have split : (text.toList.take i ++ text.toList.drop i).count '\n' = _ := List.count_append
    rw [List.take_append_drop] at split
    have found : (text.toList.drop i)[text.toList.length - 1 - i]? = some '\n' := by
      rw [List.getLast?_eq_getElem?] at last
      rw [List.getElem?_drop, show i + (text.toList.length - 1 - i) = text.toList.length - 1 by omega]
      exact last
    have held := List.mem_of_getElem? found
    have := List.count_pos_iff.mpr held
    omega
  · omega

theorem lastStart_eq {i : Nat} (inside : i ≤ cs.length) {k : Nat} (counted : (cs.take i).count '\n' = k)
    (found : k < (0 :: feedStarts cs).length) :
    (0 :: feedStarts cs)[k] = offsetOf cs (i - ((cs.take i).reverse.takeWhile (· != '\n')).length) := by
  obtain ⟨_, atMost, greatest⟩ := greatest_of_countP (x := offsetOf cs i) (feedStarts_ascending cs)
    (by rw [countP_le_offsetOf inside, counted])
  have prefixLength : (cs.take i).length = i := List.length_take_of_le inside
  have tail := tail_length_le (cs.take i)
  rw [prefixLength] at tail
  apply Nat.le_antisymm
  · -- a later line start would stand one past a line feed after the last one
    rcases List.mem_cons.mp (List.getElem_mem found) with first | later
    · rw [first]
      exact Nat.zero_le _
    · obtain ⟨j, inText, feed, start⟩ := mem_feedStarts later
      rw [start] at atMost ⊢
      have early := (offsetOf_le_iff (Nat.succ_le_of_lt inText) inside).mp atMost
      have notTail : j < i - ((cs.take i).reverse.takeWhile (· != '\n')).length := by
        refine Nat.lt_of_not_le fun late => not_feed_of_tail (j := j) (cs.take i) (by rwa [prefixLength])
          (by rw [prefixLength]; omega) ?_
        rw [List.getElem_take]
        exact feed
      exact offsetOf_le notTail (by omega)
  · refine greatest _ ?_ (offsetOf_le (Nat.sub_le _ _) inside)
    rcases Nat.lt_or_ge ((cs.take i).reverse.takeWhile (· != '\n')).length i with short | whole
    · have feed := feed_before_tail (cs.take i) (by rwa [prefixLength])
      rw [prefixLength, List.getElem?_take, if_pos (by omega)] at feed
      obtain ⟨inText, feed⟩ := List.getElem?_eq_some_iff.mp feed
      have start := feedStarts_of_feed inText feed
      rw [show i - ((cs.take i).reverse.takeWhile (· != '\n')).length - 1 + 1 =
        i - ((cs.take i).reverse.takeWhile (· != '\n')).length by omega] at start
      exact List.mem_cons_of_mem 0 start
    · rw [show i - ((cs.take i).reverse.takeWhile (· != '\n')).length = 0 by omega]
      exact List.mem_cons_self

variable {path language text : String}

theorem countAtMost_lineStarts {i : Nat} (inside : i < text.length) :
    countAtMost (ofText path language text).lineStarts (offsetOf text.toList i) =
      (text.toList.take i).count '\n' + 1 := by
  have fits := count_take_lt_size path language text inside
  rw [countAtMost_of_initial (feedStarts_ascending _) (lineStarts_initial path language text)
    (by rw [countP_le_offsetOf (Nat.le_of_lt inside)]; exact fits), countP_le_offsetOf (Nat.le_of_lt inside)]

theorem lineIndexOf_ofText {i : Nat} (inside : i < text.length) :
    (ofText path language text).lineIndexOf (offsetOf text.toList i) = (text.toList.take i).count '\n' := by
  have fits := count_take_lt_size path language text inside
  rw [lineIndexOf, countAtMost_lineStarts inside, Nat.add_sub_cancel]
  omega

theorem lineStarts_getD {k : Nat} (fits : k < (ofText path language text).lineStarts.size) :
    ∃ found : k < (0 :: feedStarts text.toList).length,
      (ofText path language text).lineStarts[k]?.getD 0 = (0 :: feedStarts text.toList)[k] := by
  have begins := lineStarts_initial path language text
  refine ⟨Nat.lt_of_lt_of_le fits (by simpa using begins.length_le), ?_⟩
  rw [← Array.getElem?_toList, List.getElem?_eq_getElem (by simpa using fits), Option.getD_some]
  exact begins.getElem _

theorem lineStartOf_ofText {i : Nat} (inside : i < text.length) :
    (ofText path language text).lineStartOf (offsetOf text.toList i) =
      offsetOf text.toList (i - ((text.toList.take i).reverse.takeWhile (· != '\n')).length) := by
  obtain ⟨found, entry⟩ := lineStarts_getD (count_take_lt_size path language text inside)
  rw [lineStartOf, lineIndexOf_ofText inside, entry]
  exact lastStart_eq (Nat.le_of_lt inside) rfl found

theorem lt_next_lineStart {i : Nat} (inside : i < text.length) {next : Nat}
    (found : next ∈ (ofText path language text).lineStarts[(text.toList.take i).count '\n' + 1]?) :
    offsetOf text.toList i < next := by
  obtain ⟨fits, rfl⟩ := Array.getElem?_eq_some_iff.mp found
  obtain ⟨present, entry⟩ := lineStarts_getD fits
  rw [Array.getElem?_eq_getElem fits, Option.getD_some] at entry
  rw [entry]
  -- every line start at or before the character comes earlier in the list
  refine Nat.lt_of_not_le fun atMost => ?_
  have early := (getElem_le_iff_lt_countP (feedStarts_ascending _) present).mp atMost
  rw [countP_le_offsetOf (Nat.le_of_lt inside)] at early
  exact Nat.lt_irrefl _ early

theorem position_eq_positionOfChar {i : Nat} (inside : i < text.length) :
    (ofText path language text).position (String.ofList (text.toList.take i)).utf8ByteSize =
      (ofText path language text).positionOfChar i := by
  have located := located_ofText path language text
  have inOffsets : i < (ofText path language text).offsets.size := by
    rw [located.offsets_size, chars_size_ofText]
    exact Nat.lt_succ_of_lt inside
  have offsetAt : (ofText path language text).offsets[i]?.getD 0 = offsetOf text.toList i :=
    charOffsets_getD (Nat.le_of_lt inside)
  rw [positionOfChar, byteOf, Array.getElem?_eq_getElem inOffsets, Option.getD_some, utf8ByteSize_ofList_take,
    ← offsetAt, Array.getElem?_eq_getElem inOffsets, Option.getD_some]

theorem position_ofText {i : Nat} (inside : i < text.length) :
    (ofText path language text).position (String.ofList (text.toList.take i)).utf8ByteSize =
      ((text.toList.take i).count '\n' + 1,
        ((text.toList.take i).reverse.takeWhile (· != '\n')).length + 1) := by
  have located := located_ofText path language text
  have lengths : text.toList.length = text.length := String.length_toList
  have tail := tail_length_le (text.toList.take i)
  rw [List.length_take_of_le (Nat.le_of_lt inside)] at tail
  have offsetAt : (ofText path language text).offsets[i]?.getD 0 = offsetOf text.toList i :=
    charOffsets_getD (Nat.le_of_lt inside)
  -- the line's start is the offset of its first character, which bisection finds at its index
  have first : countAtMost (ofText path language text).offsets
      (offsetOf text.toList (i - ((text.toList.take i).reverse.takeWhile (· != '\n')).length)) =
      i - ((text.toList.take i).reverse.takeWhile (· != '\n')).length + 1 := by
    rw [← charOffsets_getD (by omega)]
    exact countAtMost_entry located.ascending (by rw [located.offsets_size, chars_size_ofText]; omega)
  rw [position_eq_positionOfChar inside,
    located.positionOfChar_eq (by rw [chars_size_ofText]; exact inside), offsetAt,
    lineIndexOf_ofText inside, lineStartOf_ofText inside, first]
  congr 1
  omega

/-- A document made from a text has at least one line, one for each piece of the text between
line feeds with its trailing carriage returns removed, the empty piece after a final line feed
left out, and one line start for each line. Each character of the text lies on the line one
past the line feeds before it, at the column one past the characters between the last of them
and it; that line starts at or before the character and the next one after it, and no two
characters share a line and column. -/
theorem ofText_lines_and_positions (path language text : String) :
    1 ≤ (ofText path language text).lineCount ∧
      (ofText path language text).lineCount =
        text.toList.count '\n' + (if text.toList.getLast? = some '\n' then 0 else 1) ∧
      (ofText path language text).lines.toList ++ (if text.toList.getLast? = some '\n' then [""] else []) =
        (text.toList.splitOn '\n').map (fun piece => dropCarriageReturns (String.ofList piece)) ∧
      (ofText path language text).lineStarts.size = (ofText path language text).lineCount ∧
      ∀ i < text.length,
        (ofText path language text).position (String.ofList (text.toList.take i)).utf8ByteSize =
            ((text.toList.take i).count '\n' + 1,
              ((text.toList.take i).reverse.takeWhile (· != '\n')).length + 1) ∧
          (ofText path language text).lineStarts[(text.toList.take i).count '\n']?.getD 0 ≤
            (String.ofList (text.toList.take i)).utf8ByteSize ∧
          (∀ next ∈ (ofText path language text).lineStarts[(text.toList.take i).count '\n' + 1]?,
            (String.ofList (text.toList.take i)).utf8ByteSize < next) ∧
          ∀ j < text.length,
            (ofText path language text).position (String.ofList (text.toList.take j)).utf8ByteSize =
                (ofText path language text).position (String.ofList (text.toList.take i)).utf8ByteSize →
              j = i := by
  obtain ⟨sized, started⟩ := lineStarts_ofText path language text
  have located := located_ofText path language text
  refine ⟨sized ▸ started, lineCount_ofText path language text, lines_append_ofText path language text, sized, fun i inside => ⟨position_ofText inside, ?_, ?_, ?_⟩⟩
  · have starts := located.lineStartOf_le (offsetOf text.toList i)
    rw [lineStartOf, lineIndexOf_ofText inside] at starts
    rwa [utf8ByteSize_ofList_take]
  · intro next found
    rw [utf8ByteSize_ofList_take]
    exact lt_next_lineStart inside found
  · intro j before same
    rw [position_eq_positionOfChar before, position_eq_positionOfChar inside] at same
    exact located.positionOfChar_injective (by rw [chars_size_ofText]; exact before)
      (by rw [chars_size_ofText]; exact inside) same

/-- In a text whose third character is a line feed and whose sixth takes two bytes, the sixth
character, at byte 5, is the third of the second line. -/
theorem position_past_feed_and_wide_char :
    5 < "ab\ncdé\nf\n".length ∧
      (ofText "notes.txt" "text" "ab\ncdé\nf\n").position 5 = (2, 3) := by
  have placed := ((ofText_lines_and_positions "notes.txt" "text" "ab\ncdé\nf\n").2.2.2.2 5 (by decide)).1
  have offset : (String.ofList ("ab\ncdé\nf\n".toList.take 5)).utf8ByteSize = 5 := by decide
  rw [offset] at placed
  rw [placed]
  exact ⟨by decide, by decide⟩

end Document

end RepoSearch.Chunking
