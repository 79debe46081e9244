import FloppyTrack.Checksum
import FloppyTrack.Proofs.Halves

set_option autoImplicit false

namespace FloppyTrack

theorem word_bit_clear (word : UInt32) (i : Nat) (high : 32 ≤ i) : word.toNat.testBit i = false :=
  Nat.testBit_lt_two_pow (Nat.lt_of_lt_of_le word.toNat_lt (Nat.pow_le_pow_right (by decide) high))

theorem word_of_bits (v w : UInt32)
    (same : ∀ i, i < 32 → v.toNat.testBit i = w.toNat.testBit i) : v = w := by
  rw [← UInt32.toNat_inj]
  apply Nat.eq_of_testBit_eq
  intro i
  by_cases inside : i < 32
  · exact same i inside
  · rw [word_bit_clear v i (by omega), word_bit_clear w i (by omega)]

namespace Encoding

theorem odd_bits_xor (n v w : Nat) :
    oddBits n (v ^^^ w) = List.zipWith xor (oddBits n v) (oddBits n w) := by
  have bits : (v ^^^ w).testBit = fun i => xor (v.testBit i) (w.testBit i) :=
    funext fun i => Nat.testBit_xor v w i
  simp only [oddBits, List.zipWith_map, List.zipWith_self, bits]

theorem odd_bits_eq_iff (n v w : Nat) :
    oddBits n v = oddBits n w ↔ ∀ i, i < n → i % 2 = 0 → v.testBit i = w.testBit i := by
  simp [oddBits, List.map_inj_left]

theorem odd_bits_cells (k v : Nat) : oddBits (2 * k) v = dataCells (Bits.ofNat (2 * k) v) := by
  induction k with
  | zero => rfl
  | succ k ih =>
    rw [Nat.mul_succ, Bits.ofNat, Bits.ofNat, dataCells, ← ih]
    simp [oddBits, List.range_succ]

theorem data_cells_clock (a b : Bool) (cells : List Bool) :
    dataCells (a :: cells) = dataCells (b :: cells) := by
  cases cells <;> rfl

-- Behind one more cell the clocks stand where the data cells are.
theorem even_bits_cells (k v : Nat) :
    evenBits (2 * k) v = dataCells (false :: Bits.ofNat (2 * k) v) := by
  induction k with
  | zero => rfl
  | succ k ih =>
    rw [Nat.mul_succ, Bits.ofNat, Bits.ofNat, dataCells, data_cells_clock _ false, ← ih]
    simp [evenBits, oddBits, List.range_succ, Nat.testBit_div_two]

theorem odds_cells (data : List UInt8) : odds data = dataCells (byteBits data) := by
  induction data with
  | nil => rfl
  | cons byte data ih =>
    rw [odds_cons, ih, byte_bits_cons, data_cells_append _ _ 4 (by simp)]
    rfl

theorem evens_cells (data : List UInt8) : evens data = dataCells (false :: byteBits data) := by
  induction data with
  | nil => rfl
  | cons byte data ih =>
    rw [evens_cons, ih, byte_bits_cons, even_bits_byte]
    simp only [Bits.ofNat, List.cons_append, List.nil_append, dataCells]
    rw [data_cells_clock false]

end Encoding

theorem high_bit_clear (byte : UInt8) (i : Nat) (high : 8 ≤ i) : byte.toNat.testBit i = false :=
  Nat.testBit_lt_two_pow (Nat.lt_of_lt_of_le byte.toNat_lt (Nat.pow_le_pow_right (by decide) high))

theorem shifted_byte_bit (byte : UInt8) (shift : UInt32) (small : shift.toNat ≤ 24) (i : Nat) :
    (byte.toUInt32 <<< shift).toNat.testBit i =
      (decide (shift.toNat ≤ i) && byte.toNat.testBit (i - shift.toNat)) := by
  have whole : shift.toNat % 32 = shift.toNat := Nat.mod_eq_of_lt (by omega)
  rw [UInt32.toNat_shiftLeft, whole,
    UInt8.toNat_toUInt32, Nat.testBit_mod_two_pow, Nat.testBit_shiftLeft]
  by_cases inside : i < 32
  · simp [inside]
  · simp [inside, high_bit_clear byte (i - shift.toNat) (by omega)]

def bigEndian (a b c d : UInt8) : UInt32 :=
  a.toUInt32 <<< 24 ||| b.toUInt32 <<< 16 ||| c.toUInt32 <<< 8 ||| d.toUInt32

theorem long_bit (a b c d : UInt8) (i : Nat) :
    (bigEndian a b c d).toNat.testBit i =
      (decide (24 ≤ i) && a.toNat.testBit (i - 24) || decide (16 ≤ i) && b.toNat.testBit (i - 16) ||
        decide (8 ≤ i) && c.toNat.testBit (i - 8) || d.toNat.testBit i) := by
  rw [bigEndian, UInt32.toNat_or, UInt32.toNat_or, UInt32.toNat_or, Nat.testBit_or, Nat.testBit_or,
    Nat.testBit_or, shifted_byte_bit a 24 (by decide), shifted_byte_bit b 16 (by decide),
    shifted_byte_bit c 8 (by decide), UInt8.toNat_toUInt32]
  rfl

theorem long_bits (a b c d : UInt8) :
    Bits.ofNat 32 (bigEndian a b c d).toNat = byteBits [a, b, c, d] := by
  have chunk : ∀ (shift : Nat) (byte : UInt8),
      (∀ i, i < 8 → (bigEndian a b c d).toNat.testBit (shift + i) = byte.toNat.testBit i) →
      Bits.ofNat 8 ((bigEndian a b c d).toNat >>> shift) = Bits.ofNat 8 byte.toNat := by
    intro shift byte same
    simp (disch := omega) only [Bits.ofNat, Nat.testBit_shiftRight, same]
  have high := chunk 24 a fun i small => by
    rw [long_bit]
    simp (disch := omega) [high_bit_clear]
  have upper := chunk 16 b fun i small => by
    rw [long_bit]
    simp (disch := omega) [high_bit_clear]
    omega
  have lower := chunk 8 c fun i small => by
    rw [long_bit]
    simp (disch := omega) [high_bit_clear]
    omega
  have low := chunk 0 d fun i small => by
    rw [long_bit]
    simp (disch := omega)
    omega
  rw [Nat.shiftRight_zero] at low
  rw [Bits.of_nat_append 8 24, Bits.of_nat_append 8 16, Bits.of_nat_append 8 8, high, upper, lower, low]
  rfl

namespace Encoding

theorem long_halves (a b c d : UInt8) :
    evens [a, b, c, d] = evenBits 32 (bigEndian a b c d).toNat ∧
      odds [a, b, c, d] = oddBits 32 (bigEndian a b c d).toNat := by
  rw [evens_cells, odds_cells, ← long_bits, ← even_bits_cells 16, ← odd_bits_cells 16]
  exact ⟨rfl, rfl⟩

end Encoding

-- The two halves of a word, each as a number.
def oddHalf (word : UInt32) : Nat := Bits.toNat (Encoding.oddBits 32 word.toNat)

def evenHalf (word : UInt32) : Nat := Bits.toNat (Encoding.evenBits 32 word.toNat)

@[simp] theorem odd_half_length (v : Nat) : (Encoding.oddBits 32 v).length = 16 := by
  rw [Encoding.oddBits, List.length_map]
  rfl

theorem odd_half_xor (v w : UInt32) : oddHalf (v ^^^ w) = oddHalf v ^^^ oddHalf w := by
  rw [oddHalf, UInt32.toNat_xor, Encoding.odd_bits_xor, Bits.to_nat_xor _ _ (by simp)]
  rfl

theorem even_half_shift (word : UInt32) : evenHalf word = oddHalf (word >>> 1) := by
  have half : (word >>> 1).toNat = word.toNat / 2 := by
    rw [UInt32.toNat_shiftRight, show (1 : UInt32).toNat % 32 = 1 from rfl]
    rfl
  rw [oddHalf, half]
  rfl

theorem even_half_xor (v w : UInt32) : evenHalf (v ^^^ w) = evenHalf v ^^^ evenHalf w := by
  rw [even_half_shift, UInt32.shiftRight_xor, odd_half_xor, ← even_half_shift, ← even_half_shift]

theorem odd_mask_bit (i : Nat) (inside : i < 32) : oddMask.toNat.testBit i = decide (i % 2 = 0) := by
  have table : ∀ j, j < 32 → oddMask.toNat.testBit j = decide (j % 2 = 0) := by decide
  exact table i inside

theorem masked_odd_bits (word : UInt32) :
    Encoding.oddBits 32 (word &&& oddMask).toNat = Encoding.oddBits 32 word.toNat := by
  rw [Encoding.odd_bits_eq_iff]
  intro i inside even
  rw [UInt32.toNat_and, Nat.testBit_and, odd_mask_bit i inside]
  simp [even]

theorem masked_eq_iff (v w : UInt32) :
    v &&& oddMask = w &&& oddMask ↔ Encoding.oddBits 32 v.toNat = Encoding.oddBits 32 w.toNat := by
  constructor
  · intro same
    rw [← masked_odd_bits, same, masked_odd_bits]
  · intro same
    rw [Encoding.odd_bits_eq_iff] at same
    apply word_of_bits
    intro i inside
    rw [UInt32.toNat_and, UInt32.toNat_and, Nat.testBit_and, Nat.testBit_and, odd_mask_bit i inside]
    by_cases even : i % 2 = 0
    · rw [same i inside even]
    · simp [even]

theorem masked_half_iff (v w : UInt32) : v &&& oddMask = w &&& oddMask ↔ oddHalf v = oddHalf w := by
  rw [masked_eq_iff]
  constructor
  · exact congrArg Bits.toNat
  · exact Bits.to_nat_injective _ _ (by simp)

theorem word_of_halves (v w : UInt32)
    (even : Encoding.evenBits 32 v.toNat = Encoding.evenBits 32 w.toNat)
    (odd : Encoding.oddBits 32 v.toNat = Encoding.oddBits 32 w.toNat) : v = w := by
  rw [Encoding.evenBits, Encoding.evenBits, Encoding.odd_bits_eq_iff] at even
  rw [Encoding.odd_bits_eq_iff] at odd
  apply word_of_bits
  intro i inside
  by_cases half : i % 2 = 0
  · exact odd i inside half
  · obtain ⟨k, rfl⟩ : ∃ k, i = k + 1 := ⟨i - 1, by omega⟩
    have bit := even k (by omega) (by omega)
    rwa [Nat.testBit_div_two, Nat.testBit_div_two] at bit

theorem or_masked (v w mask : UInt32) : (v ||| w) &&& mask = v &&& mask ||| w &&& mask := by
  rw [← UInt32.toBitVec_inj]
  exact BitVec.and_or_distrib_right

theorem mask_parts (word mask : UInt32) : word &&& mask ||| word &&& ~~~mask = word := by
  rw [← UInt32.toBitVec_inj]
  change word.toBitVec &&& mask.toBitVec ||| word.toBitVec &&& ~~~mask.toBitVec = word.toBitVec
  rw [← BitVec.and_or_distrib_left, BitVec.or_not_self, BitVec.and_allOnes]

theorem data_word_bits (r : Revolution) (n : Nat) :
    r.dataBits n 16 = Encoding.oddBits 32 (r.latest (n + 32)).toNat := by
  rw [Encoding.odd_bits_cells 16, Revolution.latest_cells r n 32 (by decide),
    Revolution.data_cells_stretch r n 16]

end FloppyTrack
