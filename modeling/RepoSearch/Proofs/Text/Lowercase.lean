import RepoSearch.Text.Lowercase
import Mathlib
/-! Full lowercasing is idempotent: a lowercased text lowercases to itself. The table of
single-character mappings sends every code point it moves to one that it leaves in place and
that is neither `İ` nor the capital sigma, the two characters lowercased by a rule of their own;
the characters those rules write are left in place too. -/
namespace RepoSearch.Text

theorem findRangeIn_sound {α : Type} {t : Array α} {first last : α → Nat} {c lo hi : Nat} {e : α}
    (found : findRangeIn t first last c lo hi = some e) : e ∈ t ∧ first e ≤ c ∧ c ≤ last e := by
  fun_induction findRangeIn t first last c lo hi with
  | case1 => simp at found
  | case2 lo hi _ mid e' atMid below ih => exact ih found
  | case3 lo hi _ mid e' atMid notBelow above ih => exact ih found
  | case4 lo hi _ mid e' atMid notBelow notAbove =>
    cases found
    exact ⟨Array.mem_of_getElem? atMid, by omega, by omega⟩
  | case5 => cases found

namespace CaseShift

/-- Whether a shift moves a code point: it lies in the run, at a step of its stride. -/
def moves (s : CaseShift) (n : Nat) : Bool :=
  s.lo ≤ n && n ≤ s.hi && (n - s.lo) % s.stride == 0

/-- The code points a shift moves, in order. -/
def moved (s : CaseShift) : List Nat :=
  (List.range ((s.hi - s.lo) / s.stride + 1)).map (s.lo + · * s.stride)

theorem mem_moved {s : CaseShift} {n : Nat} (moving : s.moves n = true) : n ∈ s.moved := by
  simp only [moves, Bool.and_eq_true, decide_eq_true_eq, beq_iff_eq] at moving
  obtain ⟨⟨low, high⟩, step⟩ := moving
  simp only [moved, List.mem_map, List.mem_range]
  by_cases still : s.stride = 0
  · -- a run of stride zero moves its first code point only
    rw [still, Nat.mod_zero] at step
    exact ⟨0, Nat.succ_pos _, by omega⟩
  · refine ⟨(n - s.lo) / s.stride, Nat.lt_succ_of_le (Nat.div_le_div_right (by omega)), ?_⟩
    have whole := Nat.div_add_mod (n - s.lo) s.stride
    rw [step, Nat.add_zero, Nat.mul_comm] at whole
    omega

end CaseShift

/-- A code point lowercased to itself that none of the two special rules takes. -/
structure LowerStable (n : Nat) : Prop where
  fixed : lowerCode n = n
  notDotted : n ≠ 0x130
  notSigma : n ≠ 0x3A3

theorem lowerCode_cases (n : Nat) :
    lowerCode n = n ∨ ∃ s ∈ lowercaseShifts.toList, s.moves n = true ∧ lowerCode n = (n + s.delta).toNat := by
  unfold lowerCode
  split
  · next s found =>
    obtain ⟨listed, low, high⟩ := findRangeIn_sound found
    split
    · next step =>
      exact .inr ⟨s, Array.mem_toList_iff.mpr listed, by simp [CaseShift.moves, low, high, step], rfl⟩
    · exact .inl rfl
  · exact .inl rfl

theorem LowerStable.of_unmoved {n : Nat} (notDotted : n ≠ 0x130) (notSigma : n ≠ 0x3A3)
    (unmoved : ∀ s ∈ lowercaseShifts.toList, s.moves n = false) : LowerStable n := by
  refine ⟨?_, notDotted, notSigma⟩
  rcases lowerCode_cases n with same | ⟨s, listed, moving, -⟩
  · exact same
  · rw [unmoved s listed] at moving
    cases moving

/-- The table leaves a code point in place, and it is neither `İ` nor the capital sigma. -/
def lowerFixed (n : Nat) : Bool :=
  n != 0x130 && n != 0x3A3 && lowercaseShifts.toList.all fun s => !s.moves n

theorem LowerStable.of_lowerFixed {n : Nat} (fixed : lowerFixed n = true) : LowerStable n := by
  simp only [lowerFixed, Bool.and_eq_true, bne_iff_ne, ne_eq, List.all_eq_true, Bool.not_eq_true'] at fixed
  obtain ⟨⟨notDotted, notSigma⟩, unmoved⟩ := fixed
  exact .of_unmoved notDotted notSigma unmoved

namespace CaseShift

/-- The shifts whose runs meet the span a shift sends its code points into. -/
def near (s : CaseShift) : List CaseShift :=
  lowercaseShifts.toList.filter fun s' => s'.lo ≤ (s.hi + s.delta).toNat && (s.lo + s.delta).toNat ≤ s'.hi

/-- A shift sends every code point it moves to one that no shift near it moves and that is
neither `İ` nor the capital sigma. -/
def landsFixed (s : CaseShift) : Bool :=
  s.moved.all fun n =>
    (n + s.delta).toNat != 0x130 && (n + s.delta).toNat != 0x3A3 && s.near.all fun s' => !s'.moves (n + s.delta).toNat

theorem mem_near {s s' : CaseShift} (listed : s' ∈ lowercaseShifts.toList) {n : Nat} (moving : s.moves n = true)
    (landing : s'.moves (n + s.delta).toNat = true) : s' ∈ s.near := by
  simp only [moves, Bool.and_eq_true, decide_eq_true_eq] at moving landing
  simp only [near, List.mem_filter, Bool.and_eq_true, decide_eq_true_eq]
  exact ⟨listed, by omega, by omega⟩

end CaseShift

theorem lowercaseShifts_landFixed : lowercaseShifts.toList.all CaseShift.landsFixed = true := by
  decide +kernel

theorem LowerStable.lowerCode {n : Nat} (notDotted : n ≠ 0x130) (notSigma : n ≠ 0x3A3) :
    LowerStable (lowerCode n) := by
  rcases lowerCode_cases n with same | ⟨s, listed, moving, moved⟩
  · rw [same]
    exact ⟨same, notDotted, notSigma⟩
  · have lands := List.all_eq_true.mp (List.all_eq_true.mp lowercaseShifts_landFixed s listed) n
      (CaseShift.mem_moved moving)
    simp only [Bool.and_eq_true, bne_iff_ne, ne_eq, List.all_eq_true, Bool.not_eq_true'] at lands
    obtain ⟨⟨notDotted', notSigma'⟩, away⟩ := lands
    rw [moved]
    refine .of_unmoved notDotted' notSigma' fun s' listed' => ?_
    cases landing : s'.moves (n + s.delta).toNat
    · rfl
    · -- a shift moving where `s` lands would lie near `s`, and none there does
      rw [← landing]
      exact away s' (CaseShift.mem_near listed' moving landing)

/-- The character of a stable code point is stable, also when the code point is no character
and stands for `'\0'`. -/
theorem LowerStable.ofNat {n : Nat} (stable : LowerStable n) : LowerStable (Char.ofNat n).toNat := by
  unfold Char.ofNat
  split
  · exact stable
  · exact .of_lowerFixed (by decide +kernel)

theorem lowerChar_of_stable {d : Char} (stable : LowerStable d.toNat) : lowerChar d = [d] := by
  rw [lowerChar, if_neg stable.notDotted, stable.fixed, Char.ofNat_toNat]

theorem lowerFrom_stable (before cs : List Char) : ∀ d ∈ lowerFrom before cs, LowerStable d.toNat := by
  induction cs generalizing before with
  | nil => simp [lowerFrom]
  | cons c rest ih =>
    intro d written
    rw [lowerFrom, List.mem_append] at written
    rcases written with here | later
    · split at here
      · -- a capital sigma becomes a final or an ordinary small sigma
        split at here <;> rw [List.mem_singleton.mp here] <;> exact .ofNat (.of_lowerFixed (by decide +kernel))
      · next notSigma =>
        unfold lowerChar at here
        split at here
        · simp only [List.mem_cons, List.not_mem_nil, or_false] at here
          rcases here with rfl | rfl
          · exact .of_lowerFixed (by decide +kernel)
          · exact .ofNat (.of_lowerFixed (by decide +kernel))
        · next notDotted =>
          rw [List.mem_singleton.mp here]
          exact .ofNat (.lowerCode notDotted notSigma)
    · exact ih (c :: before) d later

theorem lowerFrom_of_stable (before : List Char) {ds : List Char} (stable : ∀ d ∈ ds, LowerStable d.toNat) :
    lowerFrom before ds = ds := by
  induction ds generalizing before with
  | nil => rfl
  | cons d rest ih =>
    have own := stable d List.mem_cons_self
    rw [lowerFrom, if_neg own.notSigma, lowerChar_of_stable own,
      ih (d :: before) fun d' mem => stable d' (List.mem_cons_of_mem d mem)]
    rfl

/-- Full lowercasing is idempotent. -/
theorem lowerFull_lowerFull (s : String) : lowerFull (lowerFull s) = lowerFull s := by
  rw [lowerFull, lowerFull, String.toList_ofList, lowerFrom_of_stable [] (lowerFrom_stable [] s.toList)]

end RepoSearch.Text
