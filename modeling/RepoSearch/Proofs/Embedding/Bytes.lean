import RepoSearch.Embedding.Vector
/-! Stored vectors. A vector's entries are written as the four little-endian bytes of their bit
patterns and read back four bytes at a time. Each word's bytes give the word back and each four
bytes the word they spell, so writing and reading restore every bit pattern, and reading then
writing gives back the bytes up to the last whole word.

Main statement: `vector_bytes_round_trip`. -/
namespace RepoSearch.Embedding

/-! ### One word -/

theorem byte_shifts : (UInt32.toBitVec 8 % 32).toNat = 8 ∧ (UInt32.toBitVec 16 % 32).toNat = 16 ∧
    (UInt32.toBitVec 24 % 32).toNat = 24 :=
  ⟨rfl, rfl, rfl⟩

theorem leWord_leBytes (w : UInt32) :
    leWord w.toUInt8 (w >>> 8).toUInt8 (w >>> 16).toUInt8 (w >>> 24).toUInt8 = w := by
  apply UInt32.toBitVec_inj.mp
  apply BitVec.eq_of_getLsbD_eq
  intro i inside
  simp only [leWord, UInt32.toBitVec_or, UInt32.toBitVec_shiftLeft, UInt8.toBitVec_toUInt32,
    UInt32.toBitVec_toUInt8, UInt32.toBitVec_shiftRight, BitVec.getLsbD_or, BitVec.shiftLeft_eq',
    BitVec.ushiftRight_eq', BitVec.getLsbD_shiftLeft, BitVec.getLsbD_setWidth,
    BitVec.getLsbD_ushiftRight, byte_shifts.1, byte_shifts.2.1, byte_shifts.2.2]
  -- bit `i` of the word comes from byte `i / 8` alone
  obtain low | ⟨lo, up⟩ | ⟨lo, up⟩ | ⟨lo, up⟩ :
      i < 8 ∨ (8 ≤ i ∧ i < 16) ∨ (16 ≤ i ∧ i < 24) ∨ (24 ≤ i ∧ i < 32) := by omega
  all_goals simp (disch := omega) [decide_eq_true, decide_eq_false]

theorem leBytes_leWord (b0 b1 b2 b3 : UInt8) : leBytes (leWord b0 b1 b2 b3) = [b0, b1, b2, b3] := by
  simp only [leBytes, List.cons.injEq, and_true]
  -- byte `k` of the word is its bits `8k` to `8k + 7`, which only `bk` sets
  refine ⟨?_, ?_, ?_, ?_⟩ <;> apply UInt8.toBitVec_inj.mp <;> apply BitVec.eq_of_getLsbD_eq <;>
    intro i inside <;>
    simp only [leWord, UInt32.toBitVec_or, UInt32.toBitVec_shiftLeft, UInt8.toBitVec_toUInt32,
      UInt32.toBitVec_toUInt8, UInt32.toBitVec_shiftRight, BitVec.getLsbD_or, BitVec.shiftLeft_eq',
      BitVec.ushiftRight_eq', BitVec.getLsbD_shiftLeft, BitVec.getLsbD_setWidth,
      BitVec.getLsbD_ushiftRight, byte_shifts.1, byte_shifts.2.1, byte_shifts.2.2] <;>
    simp (disch := omega) [decide_eq_true, decide_eq_false]

/-! ### Whole vectors -/

theorem toBytes_cons (w : UInt32) (rest : List UInt32) :
    toBytes (w :: rest) = w.toUInt8 :: (w >>> 8).toUInt8 :: (w >>> 16).toUInt8 ::
      (w >>> 24).toUInt8 :: toBytes rest := by
  simp [toBytes, leBytes]

theorem length_toBytes (v : List UInt32) : (toBytes v).length = 4 * v.length := by
  induction v with
  | nil => rfl
  | cons w rest ih =>
    rw [toBytes_cons, List.length_cons, List.length_cons, List.length_cons, List.length_cons, ih,
      List.length_cons]
    omega

theorem ofBytes_toBytes (v : List UInt32) : ofBytes (toBytes v) = v := by
  induction v with
  | nil => rfl
  | cons w rest ih => rw [toBytes_cons, ofBytes, leWord_leBytes, ih]

theorem toBytes_ofBytes (b : List UInt8) : toBytes (ofBytes b) = b.take (4 * (b.length / 4)) := by
  fun_induction ofBytes b with
  | case1 b0 b1 b2 b3 rest ih =>
    rw [toBytes, List.flatMap_cons, leBytes_leWord, ← toBytes, ih]
    have whole : 4 * ((b0 :: b1 :: b2 :: b3 :: rest).length / 4) = 4 * (rest.length / 4) + 4 := by
      simp only [List.length_cons]
      omega
    rw [whole]
    rfl
  | case2 short notWord =>
    -- fewer than four bytes: no word, and nothing is kept
    have few : short.length < 4 := by
      rcases short with _ | ⟨b0, _ | ⟨b1, _ | ⟨b2, _ | ⟨b3, rest⟩⟩⟩⟩
      iterate 4 (· simp)
      · exact absurd rfl (notWord b0 b1 b2 b3 rest)
    rw [Nat.div_eq_of_lt few]
    rfl

/-- Vectors are stored losslessly: every vector of bit patterns (NaNs with any payload,
infinities and negative zero among them) is written as four bytes per entry and read back
pattern for pattern, and every byte string read and written again is itself cut to its last whole
word. -/
theorem vector_bytes_round_trip :
    (∀ v : List UInt32, (toBytes v).length = 4 * v.length ∧ ofBytes (toBytes v) = v) ∧
      ∀ b : List UInt8, toBytes (ofBytes b) = b.take (4 * (b.length / 4)) :=
  ⟨fun v => ⟨length_toBytes v, ofBytes_toBytes v⟩, toBytes_ofBytes⟩

/-- The bytes of `[1.0, 2.0, -3.5]` as singles. -/
example : toBytes [0x3f800000, 0x40000000, 0xc0600000] =
    [0x00, 0x00, 0x80, 0x3f, 0x00, 0x00, 0x00, 0x40, 0x00, 0x00, 0x60, 0xc0] := by
  decide

end RepoSearch.Embedding
