import FloppyTrack.Proofs.Blocks
import FloppyTrack.Proofs.Damage
import FloppyTrack.Proofs.Emitted

set_option autoImplicit false

namespace FloppyTrack

def cellWords : Nat → List Bool → List UInt32
  | 0, _ => []
  | n + 1, cells => UInt32.ofNat (Bits.toNat (cells.take 32)) :: cellWords n (cells.drop 32)

def invertBit (data : List UInt8) (i : Nat) : List UInt8 :=
  data.modify (i / 8) (· ^^^ Revolution.cellMask i)

theorem cell_word_half (cells : List Bool) (full : cells.length = 32) :
    oddHalf (UInt32.ofNat (Bits.toNat cells)) = Bits.toNat (dataCells cells) := by
  have small : Bits.toNat cells < 2 ^ 32 := by
    rw [← full]
    exact Bits.to_nat_lt cells
  have bits := Bits.of_nat_to_nat cells
  rw [full] at bits
  rw [oddHalf, UInt32.toNat_ofNat_of_lt' small, Encoding.odd_bits_cells 16, bits]

theorem cell_words_sum (n : Nat) (cells : List Bool) (whole : cells.length = 32 * n) :
    oddHalf ((cellWords n cells).foldl (· ^^^ ·) 0) = groupSum n (dataCells cells) := by
  induction n generalizing cells with
  | zero =>
    change oddHalf 0 = 0
    decide
  | succ n ih =>
    have first : (cells.take 32).length = 32 := by
      rw [List.length_take]
      omega
    have rest := ih (cells.drop 32) (by rw [List.length_drop]; omega)
    have group : (dataCells (cells.take 32)).length = 16 * 1 := data_cells_length _ 16 first
    have split : dataCells cells = dataCells (cells.take 32) ++ dataCells (cells.drop 32) := by
      rw [← data_cells_append _ _ 16 first, List.take_append_drop]
    rw [cellWords, List.foldl_cons, xor_fold, UInt32.zero_xor, odd_half_xor, cell_word_half _ first,
      rest, split, Nat.add_comm n 1, group_sum_append 1 n _ _ group, group_sum_one _ group]

theorem block_sum {encoding : Encoding} (split : encoding = .evenOdd ∨ encoding = .evenOddLongs)
    (groups : Nat) (data : List UInt8) (whole : data.length = 4 * groups) :
    groupSum (2 * groups) (encoding.blockBits data) = oddHalf (checksum data) := by
  rcases split with rfl | rfl
  · exact split_sum groups data whole
  · exact long_sum groups data whole

theorem halves_sum (groups : Nat) (data : List UInt8) (whole : data.length = 4 * groups) :
    oddHalf (checksum data) =
      groupSum groups (Encoding.evens data) ^^^ groupSum groups (Encoding.odds data) := by
  obtain ⟨even, odd⟩ := half_sums groups data whole
  rw [checksum_half, even, odd]

theorem byte_bits_inverted (data : List UInt8) (i : Nat) :
    byteBits (invertBit data i) = (byteBits data).modify i not := by
  apply List.ext_getElem
  · simp [invertBit]
  · intro j low high
    have inside : j / 8 < data.length := by
      rw [List.length_modify, byte_bits_length] at high
      omega
    have before := byte_bits_cell data j
    have behind := byte_bits_cell (invertBit data i) j
    rw [List.getElem?_eq_getElem (by simpa using high), List.getElem?_eq_getElem inside,
      Option.getD_some, Option.getD_some] at before
    have byte : (invertBit data i)[j / 8]? =
        (fun byte => if i / 8 = j / 8 then byte ^^^ Revolution.cellMask i else byte) <$>
          data[j / 8]? :=
      List.getElem?_modify ..
    rw [List.getElem?_eq_getElem low, Option.getD_some, byte, List.getElem?_eq_getElem inside] at behind
    rw [behind, List.getElem_modify, before]
    by_cases same : i / 8 = j / 8
    · have place : j % 8 = i % 8 ↔ i = j := by omega
      simp only [same, if_true, Option.map_eq_map, Option.map_some, Option.getD_some,
        UInt8.toNat_xor, Nat.testBit_xor, Revolution.cell_mask_bit, place]
      by_cases here : i = j <;> simp [here]
    · have elsewhere : i ≠ j := by
        rintro rfl
        exact same rfl
      simp [same, elsewhere]

theorem data_cells_modify (cells : List Bool) (i : Nat) :
    dataCells (cells.modify i not) =
      if i % 2 = 1 then (dataCells cells).modify (i / 2) not else dataCells cells := by
  induction cells using dataCells.induct generalizing i with
  | case1 clock bit cells ih =>
    rcases i with _ | _ | i
    · rfl
    · rfl
    · have half : (i + 1 + 1) / 2 = i / 2 + 1 := by omega
      have parity : (i + 1 + 1) % 2 = i % 2 := by omega
      rw [List.modify_succ_cons, List.modify_succ_cons, dataCells, dataCells, ih, half, parity,
        List.modify_succ_cons]
      split <;> rfl
  | case2 cells short =>
    rcases cells with _ | ⟨clock, _ | ⟨bit, cells⟩⟩
    · simp [dataCells]
    · cases i <;> simp [dataCells]
    · exact absurd rfl (short clock bit cells)

theorem checksum_inverted (groups : Nat) (data : List UInt8) (whole : data.length = 4 * groups)
    (i : Nat) (inside : i < 8 * data.length) : checksum (invertBit data i) ≠ checksum data := by
  intro same
  have length : (invertBit data i).length = data.length := List.length_modify ..
  have sums := congrArg oddHalf same
  rw [halves_sum groups _ (length.trans whole), halves_sum groups data whole] at sums
  rw [Encoding.evens_cells, Encoding.odds_cells, byte_bits_inverted, ← List.modify_succ_cons,
    data_cells_modify, data_cells_modify, ← Encoding.evens_cells, ← Encoding.odds_cells] at sums
  -- The bit lies in one half of its long, and the other half is as it was.
  by_cases odd : i % 2 = 1
  · rw [if_pos odd, if_neg (by omega)] at sums
    exact group_sum_flipped groups _ (i / 2) (by rw [Encoding.odds_length]; omega) (by omega)
      (Nat.xor_right_inj.mp sums)
  · rw [if_neg odd, if_pos (by omega)] at sums
    exact group_sum_flipped groups _ ((i + 1) / 2) (by rw [Encoding.evens_length]; omega) (by omega)
      (Nat.xor_left_inj.mp sums)

theorem checksum_reordered {a b : List UInt8} (same : (longs a).Perm (longs b)) :
    checksum a = checksum b := by
  have sum : (longs a).foldl (· ^^^ ·) 0 = (longs b).foldl (· ^^^ ·) 0 :=
    same.foldl_eq' (fun _ _ _ _ _ => by ac_rfl) 0
  rw [checksum, checksum, sum]

theorem checksum_over_cells (data : List UInt8) (whole : data.length % 4 = 0) :
    (∀ (e : Emission) (encoding : Encoding), encoding = .evenOdd ∨ encoding = .evenOddLongs →
      ∃ cells, (e.block encoding data).cells.toList = e.cells.toList ++ cells ∧
        cells.length = 32 * (data.length / 2) ∧
        checksum data = (cellWords (data.length / 2) cells).foldl (· ^^^ ·) 0 &&& oddMask) ∧
    (∀ other, (longs other).Perm (longs data) → checksum other = checksum data) ∧
    ∀ i, i < 8 * data.length → checksum (invertBit data i) ≠ checksum data := by
  obtain ⟨groups, size⟩ : ∃ groups, data.length = 4 * groups := ⟨data.length / 4, by omega⟩
  refine ⟨fun e encoding split => ?_, fun other same => ?_, checksum_inverted groups data size⟩
  · have words : data.length / 2 = 2 * groups := by omega
    have clocked : encoding ≠ .raw := by rcases split with rfl | rfl <;> decide
    have cells : (Emission.Call.block encoding data).cells e.last =
        mfmCells e.last (encoding.blockBits data) := if_neg clocked
    have written := (e.after_cells (.block encoding data)).1
    rw [cells] at written
    have length : (mfmCells e.last (encoding.blockBits data)).length = 32 * (data.length / 2) := by
      rcases split with rfl | rfl <;> rw [mfm_cells_length] <;> simp only [Encoding.blockBits,
        Encoding.split_bits_length, Encoding.long_bits_length] <;> omega
    refine ⟨_, written, length, ?_⟩
    rw [← checksum_masked data, masked_half_iff, cell_words_sum _ _ length, data_cells_mfm_cells, words,
      block_sum split groups data size]
  · exact checksum_reordered same

-- Two longs behind a set cell, their order, and their last bit.
theorem two_longs_over_cells :
    (∃ cells, (afterMark.block .evenOdd [0x80, 0, 0, 1, 0x12, 0x34, 0x56, 0x78]).cells.toList =
        afterMark.cells.toList ++ cells ∧ cells.length = 128 ∧
      checksum [0x80, 0, 0, 1, 0x12, 0x34, 0x56, 0x78] =
        (cellWords 4 cells).foldl (· ^^^ ·) 0 &&& oddMask) ∧
      checksum [0x12, 0x34, 0x56, 0x78, 0x80, 0, 0, 1] =
        checksum [0x80, 0, 0, 1, 0x12, 0x34, 0x56, 0x78] ∧
      checksum (invertBit [0x80, 0, 0, 1, 0x12, 0x34, 0x56, 0x78] 63) ≠
        checksum [0x80, 0, 0, 1, 0x12, 0x34, 0x56, 0x78] :=
  have holds := checksum_over_cells [0x80, 0, 0, 1, 0x12, 0x34, 0x56, 0x78] (by decide)
  ⟨holds.1 afterMark .evenOdd (.inl rfl),
    holds.2.1 [0x12, 0x34, 0x56, 0x78, 0x80, 0, 0, 1] (.swap _ _ _), holds.2.2 63 (by decide)⟩

end FloppyTrack
