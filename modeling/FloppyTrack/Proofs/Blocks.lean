import FloppyTrack.Proofs.Emitted
import FloppyTrack.Proofs.Packing

set_option autoImplicit false

namespace FloppyTrack

theorem data_cells_length (cells : List Bool) (n : Nat) (even : cells.length = 2 * n) :
    (dataCells cells).length = n := by
  induction n generalizing cells with
  | zero => rw [List.eq_nil_of_length_eq_zero even]; rfl
  | succ n ih =>
    match cells, even with
    | _ :: bit :: rest, even =>
      rw [dataCells, List.length_cons, ih rest (by simp at even; omega)]

theorem data_byte_pair (high low : UInt8) :
    Bits.ofNat 8 (dataByte (high.toUInt16 <<< 8 ||| low.toUInt16)).toNat =
      dataCells (Bits.ofNat 8 high.toNat ++ Bits.ofNat 8 low.toNat) := by
  have bits := Bits.of_nat_to_nat (dataCells (Bits.ofNat 16 (high.toNat * 256 + low.toNat)))
  rw [data_cells_length _ 8 (by simp)] at bits
  rw [pair_bits, ← bits, dataByte, word_pair, Bits.of_nat_eq_iff, UInt8.toNat_ofNat', Nat.mod_mod]

theorem data_bytes_bits (n : Nat) (raw : List UInt8) (length : raw.length = 2 * n) :
    byteBits (dataBytes raw) = dataCells (byteBits raw) := by
  induction n generalizing raw with
  | zero => rw [List.eq_nil_of_length_eq_zero length]; rfl
  | succ n ih =>
    match raw, length with
    | high :: low :: rest, length =>
      rw [dataBytes, byte_bits_cons, data_byte_pair, ih rest (by simp at length; omega),
        byte_bits_cons, byte_bits_cons, ← List.append_assoc,
        data_cells_append _ (byteBits rest) 8 (by simp)]

theorem data_bytes_length (n : Nat) (raw : List UInt8) (length : raw.length = 2 * n) :
    (dataBytes raw).length = n := by
  have bits := congrArg List.length (data_bytes_bits n raw length)
  rw [byte_bits_length, data_cells_length _ (8 * n) (by rw [byte_bits_length]; omega)] at bits
  omega

namespace Encoding

-- The encodings that write all bits of a block.
def whole : List Encoding := [.raw, .mfm, .evenOdd, .evenOddLongs]

variable {encoding : Encoding} {data raw : List UInt8}

end Encoding

namespace Encoding

theorem decode_enough (asserts : Bool) (encoding : Encoding) {raw out : List UInt8}
    (enough : 2 * out.length ≤ raw.length) :
    encoding.decodeInto asserts raw out = some (encoding.decodeBlock out.length raw) :=
  if_pos enough

-- A copy needs no more than the bytes themselves, but the assertion asks for twice as many.
theorem copied {data out : List UInt8} (same : out.length = data.length) (asserts : Bool)
    (more : List UInt8)
    (passes : ¬(asserts = true ∧ (data ++ more).length < 2 * out.length)) :
    raw.decodeInto asserts (data ++ more) out = some data := by
  have copy : (data ++ more).take out.length = data := List.take_left' same.symm
  by_cases enough : 2 * out.length ≤ (data ++ more).length
  · rw [decode_enough asserts raw enough]
    exact congrArg some copy
  · obtain rfl : asserts = false :=
      Bool.eq_false_iff.mpr fun checked => passes ⟨checked, by omega⟩
    have taken : raw.decodeInto false (data ++ more) out =
        some ((data ++ more).take out.length ++ out.drop (data ++ more).length) := if_neg enough
    have written : out.drop (data ++ more).length = [] :=
      List.drop_of_length_le (by rw [List.length_append]; omega)
    rw [taken, copy, written, List.append_nil]

end Encoding

-- Five bytes behind a set cell, so that the first clock is clear and the second group is a short one; and a
-- byte whose cells are its bits.
def afterMark : Emission := (Emission.start 200 7).word .raw 16 0x9521

end FloppyTrack
